import BootServer.Config.Reading
import BootServer.Json.Parser
import BootServer.Json.Printer

/-!
# Configurations as JSON

An object has a member for every key, in any order; keys that it lacks keep their defaults, other
members are ignored, and a key that occurs twice is refused. An array gives the settings in the
order of the keys and may end early.
-/

namespace BootServer

namespace Kind

/-- The JSON of a value: truth values and numbers as such, the rest as text. -/
def toJson : (kind : Kind) → kind.Value → Json
  | flag, value => .bool value
  | word16, value => .ofNat value.toNat
  | word32, value => .ofNat value.toNat
  | word64, value => .ofNat value.toNat
  | text, value => .ofText value
  | address, value => .ofText value.toText

def ofJson? : (kind : Kind) → Json → Option kind.Value
  | flag, json => json.bool?
  | word16, json => (json.natural? (UInt16.size - 1)).map UInt16.ofNat
  | word32, json => (json.natural? (UInt32.size - 1)).map UInt32.ofNat
  | word64, json => (json.natural? (UInt64.size - 1)).map UInt64.ofNat
  | text, json => json.text?
  | address, json => json.text?.bind IPv4.ofText?

end Kind

namespace Config

/-- The members of a configuration's object, in the order of the keys. -/
def members (config : Config) : List (String × Json) :=
  Key.all.map fun key => (key.name, key.kind.toJson (config.get key))

/-- A configuration as a JSON text, one setting a line. -/
def renderJson (config : Config) : String := Json.layout config.members

/-- The configuration with the value of a key, if the key accepts it. -/
def put? (config : Config) (key : Key) (value : Json) : Option Config :=
  (key.kind.ofJson? value).map (config.set key)

/-- Settings by key, each key at most once. -/
def ofMembers? (members : List (String × Json)) : Option Config :=
  Key.all.foldlM (fun config key => do
    match ← Json.unique? key.name members with
    | none => return config
    | some value => config.put? key value) default

/-- Settings in the order of the keys. -/
def ofItems? (items : List Json) : Option Config :=
  if Key.all.length < items.length then none
  else (Key.all.zip items).foldlM (fun config setting => config.put? setting.1 setting.2) default

def ofJson? : Json → Option Config
  | .object members => (Json.namedMembers? members).bind ofMembers?
  | .array items => ofItems? items
  | _ => none

def parseJson (text : String) : Except ConfigError Config :=
  match (Json.parse? text).bind ofJson? with
  | some config => .ok config
  | none => .error .json

end Config

end BootServer
