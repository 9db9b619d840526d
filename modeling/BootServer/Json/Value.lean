import BootServer.Json.Numeral

/-!
# JSON values

A value keeps what its reader may still refuse: a number is kept as it was written, and a string with
an unpaired surrogate escape is present but has no text.
-/

namespace BootServer

/-- A JSON value. The text of a string is `none` where an escape names an unpaired surrogate. -/
inductive Json where
  | null
  | bool (value : Bool)
  | number (value : Numeral)
  | string (value : Option String)
  | array (items : List Json)
  | object (members : List (Option String × Json))
  deriving Repr

namespace Json

instance : Inhabited Json := ⟨.null⟩

def ofText (text : String) : Json := .string (some text)

def ofNat (n : Nat) : Json := .number (.ofNat n)

def ofMembers (members : List (String × Json)) : Json :=
  .object (members.map fun member => (some member.1, member.2))

/-- The text of a string. -/
def text? : Json → Option String
  | .string value => value
  | _ => none

def bool? : Json → Option Bool
  | .bool value => some value
  | _ => none

/-- The natural number, when it is at most `bound`. -/
def natural? (bound : Nat) : Json → Option Nat
  | .number value => value.natural?.filter (· ≤ bound)
  | _ => none

mutual

/-- How deep arrays and objects are nested. -/
def depth : Json → Nat
  | .array items => depthOfItems items + 1
  | .object members => depthOfMembers members + 1
  | _ => 0

def depthOfItems : List Json → Nat
  | [] => 0
  | item :: rest => max (depth item) (depthOfItems rest)

def depthOfMembers : List (Option String × Json) → Nat
  | [] => 0
  | (_, value) :: rest => max (depth value) (depthOfMembers rest)

end

mutual

/-- Does every string have a text, and is every number in range? -/
def isPlain : Json → Bool
  | .number value => value.isFinite
  | .string value => value.isSome
  | .array items => arePlainItems items
  | .object members => arePlainMembers members
  | _ => true

def arePlainItems : List Json → Bool
  | [] => true
  | item :: rest => isPlain item && arePlainItems rest

/-- Is every member plain, and does its name have a text? -/
def arePlainMembers : List (Option String × Json) → Bool
  | [] => true
  | (name, value) :: rest => name.isSome && isPlain value && arePlainMembers rest

end

/-- The value of the one member with a name: `none` if the name is repeated, `some none` if it does
not occur. -/
def unique? (name : String) (members : List (String × Json)) : Option (Option Json) :=
  match members.filter fun member => member.1 = name with
  | [] => some none
  | [member] => some (some member.2)
  | _ => none

def namedMembers? (members : List (Option String × Json)) : Option (List (String × Json)) :=
  members.mapM fun member => member.1.map fun name => (name, member.2)

end Json

end BootServer
