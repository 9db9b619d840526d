import BootServer.Event.Json
import BootServer.Log

/-!
# The event journal

Events wait in one queue per topic until they are copied to the log. A queue holds a fixed number
of them: of more the oldest are lost, which the log then says.
-/

namespace BootServer

/-- What events are about. -/
inductive Topic where
  | dhcp
  | tftp
  | service
  deriving DecidableEq, Repr

namespace Topic

def name : Topic → String
  | dhcp => "dhcp"
  | tftp => "tftp"
  | service => "service"

/-- How many events of a topic can wait. -/
def capacity : Topic → Nat
  | dhcp | tftp => 256
  | service => 32

/-- The waiting events of a topic that are not lost. -/
def kept (topic : Topic) (events : List Json) : List Json :=
  events.drop (events.length - topic.capacity)

/-- The warning that so many events of a topic are lost. -/
def lossLog (topic : Topic) (lost : Nat) : Log :=
  if lost = 0 then []
  else Log.warning ("Event log lagged, " ++ toString lost ++ " " ++ topic.name ++ " events skipped")

def journal (topic : Topic) (events : List Json) : Log :=
  topic.lossLog (events.length - topic.capacity) ++
    (topic.kept events).flatMap fun event => Log.debug event.compact

end Topic

end BootServer
