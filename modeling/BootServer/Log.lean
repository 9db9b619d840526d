/-!
# Log records

What a component reports about its work: a level and a message, in the order of the work.
-/

namespace BootServer

/-- The weight of a log record, from least to most severe. -/
inductive Level where
  | debug
  | info
  | warning
  | error
  deriving DecidableEq, Repr

namespace Level

def name : Level → String
  | debug => "DEBUG"
  | info => "INFO"
  | warning => "WARN"
  | error => "ERROR"

/-- The place of a level in the order of severity. -/
def rank : Level → Nat
  | debug => 0
  | info => 1
  | warning => 2
  | error => 3

end Level

/-- One log record. -/
structure LogRecord where
  level : Level
  message : String
  deriving DecidableEq, Repr

/-- A sequence of log records, oldest first. -/
abbrev Log := List LogRecord

namespace Log

def debug (message : String) : Log := [⟨.debug, message⟩]

def info (message : String) : Log := [⟨.info, message⟩]

def warning (message : String) : Log := [⟨.warning, message⟩]

def error (message : String) : Log := [⟨.error, message⟩]

/-- The record of a packet exchange: shown to the operator only where packet logging is on. -/
def packet (logPackets : Bool) (message : String) : Log :=
  [⟨if logPackets then .info else .debug, message⟩]

/-- The records at or above a level. -/
def atLeast (level : Level) (log : Log) : Log :=
  log.filter fun record => level.rank ≤ record.level.rank

end Log

end BootServer
