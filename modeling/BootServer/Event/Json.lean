import BootServer.Event.Basic
import BootServer.Json.Parser
import BootServer.Json.Printer

/-!
# Events as JSON

A lease or transfer event is an object with its kind under `type` and its fields under `data`; a
service event has its fields side by side. The reader takes members in any order, ignores those it
does not know and refuses a repeated one. It also takes an array of kind and data.
-/

namespace BootServer

namespace Json

/-- A name given as a string, or as the one member of an object whose value is null. -/
def variant? : Json → Option String
  | .string text => text
  | .object [(name, .null)] => name
  | _ => none

def field? (members : List (String × Json)) (name : String) : Option Json :=
  (unique? name members).join

def textField? (members : List (String × Json)) (name : String) : Option String :=
  (field? members name).bind text?

def addressField? (members : List (String × Json)) (name : String) : Option IPv4 :=
  (textField? members name).bind IPv4.ofText?

def naturalField? (members : List (String × Json)) (name : String) (bound : Nat) : Option Nat :=
  (field? members name).bind (natural? bound)

/-- The members of an object, or nothing of any other value. -/
def members? : Json → Option (List (String × Json))
  | .object members => namedMembers? members
  | _ => none

/-- How deep data may be nested that stand before their kind. -/
def depthMax : Nat := 126

/-- Data that stand before their kind are set aside, which they must survive. -/
def canWait (data : Json) : Bool := data.isPlain && data.depth ≤ depthMax

/-- Does `data` stand before `type`? -/
def dataFirst (members : List (String × Json)) : Bool :=
  (members.find? fun member => member.1 = "type" || member.1 = "data").any (·.1 == "data")

/-- The kind and the fields of an event. -/
def tagged? : Json → Option (String × List (String × Json))
  | .array [kind, data] => do return (← variant? kind, ← members? data)
  | .object members => do
    let members ← namedMembers? members
    let kind ← (← field? members "type").variant?
    let data ← field? members "data"
    if dataFirst members && !canWait data then none else return (kind, ← members? data)
  | _ => none

def ofTagged (kind : String) (fields : List (String × Json)) : Json :=
  ofMembers [("type", ofText kind), ("data", ofMembers fields)]

end Json

namespace LeaseEvent

def kind : LeaseEvent → String
  | offered .. => "Offered"
  | acknowledged .. => "Acknowledged"
  | refused .. => "NakSent"
  | assigned .. => "Assigned"
  | exhausted .. => "PoolExhausted"
  | ignored .. => "Ignored"

def addressJson : Option IPv4 → Json
  | none => .null
  | some ip => .ofText ip.toText

def fields : LeaseEvent → List (String × Json)
  | offered client ip | acknowledged client ip =>
    [("client", .ofText client), ("ip", .ofText ip.toText)]
  | refused client reason | ignored client reason =>
    [("client", .ofText client), ("reason", .ofText reason)]
  | assigned client ip previous =>
    [("client", .ofText client), ("ip", .ofText ip.toText), ("previous", addressJson previous)]
  | exhausted client => [("client", .ofText client)]

def toJson (event : LeaseEvent) : Json := .ofTagged event.kind event.fields

/-- The address given up, if any: the member may be absent or null. -/
def previous? (fields : List (String × Json)) : Option (Option IPv4) :=
  (Json.unique? "previous" fields).bind fun
    | none | some .null => some none
    | some json => (json.text?.bind IPv4.ofText?).map some

def ofTagged? (kind : String) (fields : List (String × Json)) : Option LeaseEvent := do
  let client ← Json.textField? fields "client"
  match kind with
  | "Offered" => return offered client (← Json.addressField? fields "ip")
  | "Acknowledged" => return acknowledged client (← Json.addressField? fields "ip")
  | "NakSent" => return refused client (← Json.textField? fields "reason")
  | "Assigned" => return assigned client (← Json.addressField? fields "ip") (← previous? fields)
  | "PoolExhausted" => return exhausted client
  | "Ignored" => return ignored client (← Json.textField? fields "reason")
  | _ => none

def ofJson? (json : Json) : Option LeaseEvent :=
  json.tagged?.bind fun event => ofTagged? event.1 event.2

end LeaseEvent

namespace TransferEvent

def kind : TransferEvent → String
  | started .. => "TransferStarted"
  | completed .. => "TransferCompleted"
  | errorSent .. => "ErrorSent"
  | pruned .. => "SessionsPruned"

def fields : TransferEvent → List (String × Json)
  | started client path size blockSize =>
    [("client", .ofText client.toText), ("path", .ofText path), ("size", .ofNat size.toNat),
      ("block_size", .ofNat blockSize.toNat)]
  | completed client path blocks =>
    [("client", .ofText client.toText), ("path", .ofText path), ("blocks", .ofNat blocks.toNat)]
  | errorSent client code message =>
    [("client", .ofText client.toText), ("code", .ofNat code.toNat), ("message", .ofText message)]
  | pruned count => [("count", .ofNat count.toNat)]

def toJson (event : TransferEvent) : Json := .ofTagged event.kind event.fields

/-- A 16-bit number among fields. -/
def word16? (fields : List (String × Json)) (name : String) : Option UInt16 :=
  (Json.naturalField? fields name (UInt16.size - 1)).map UInt16.ofNat

/-- A 64-bit number among fields. -/
def word64? (fields : List (String × Json)) (name : String) : Option UInt64 :=
  (Json.naturalField? fields name (UInt64.size - 1)).map UInt64.ofNat

def ofTagged? (kind : String) (fields : List (String × Json)) : Option TransferEvent := do
  match kind with
  | "TransferStarted" =>
    return started (← Json.addressField? fields "client") (← Json.textField? fields "path")
      (← word64? fields "size") (← word16? fields "block_size")
  | "TransferCompleted" =>
    return completed (← Json.addressField? fields "client") (← Json.textField? fields "path")
      (← word64? fields "blocks")
  | "ErrorSent" =>
    return errorSent (← Json.addressField? fields "client") (← word16? fields "code")
      (← Json.textField? fields "message")
  | "SessionsPruned" => return pruned (← word64? fields "count")
  | _ => none

def ofJson? (json : Json) : Option TransferEvent :=
  json.tagged?.bind fun event => ofTagged? event.1 event.2

end TransferEvent

namespace ServiceEvent

def toJson (event : ServiceEvent) : Json :=
  .ofMembers [("service", .ofText event.service), ("state", .ofText event.state.name)]

def ofParts? (service state : Json) : Option ServiceEvent := do
  return ⟨← service.text?, ← state.variant?.bind ServiceState.ofName?⟩

def ofJson? : Json → Option ServiceEvent
  | .array [service, state] => ofParts? service state
  | .object members => do
    let members ← Json.namedMembers? members
    ofParts? (← Json.field? members "service") (← Json.field? members "state")
  | _ => none

end ServiceEvent

end BootServer
