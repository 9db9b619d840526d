import BootServer.Bytes

/-!
# UTF-8

`encode` writes a text, `decode` reads octets: every character that is well formed, and one mark
for each maximal part that is not (a sequence broken off where no further octet can continue it).
A lenient reader shows such a part as U+FFFD, a strict one refuses the text.
-/

namespace BootServer.Text.Utf8

def encode (text : String) : Bytes := text.toList.flatMap String.utf8EncodeChar

/-- A character of several octets of which at least one is still owed. -/
structure Partial where
  /-- The bits read so far. -/
  bits : Nat
  /-- How many octets follow the next one. -/
  more : Nat
  /-- The least and the greatest octet that may come next. -/
  low : UInt8
  high : UInt8

/-- What the first octet of a character says. -/
inductive Lead where
  | whole (c : Char)
  | begins (state : Partial)
  | malformed

/-- The meaning of an octet between characters. -/
def lead (b : UInt8) : Lead :=
  let n := b.toNat
  if n < 0x80 then .whole (Char.ofNat n)
  else if n < 0xC2 then .malformed
  else if n < 0xE0 then .begins ⟨n - 0xC0, 0, 0x80, 0xBF⟩
  else if n = 0xE0 then .begins ⟨0, 1, 0xA0, 0xBF⟩
  else if n = 0xED then .begins ⟨0xD, 1, 0x80, 0x9F⟩
  else if n < 0xF0 then .begins ⟨n - 0xE0, 1, 0x80, 0xBF⟩
  else if n = 0xF0 then .begins ⟨0, 2, 0x90, 0xBF⟩
  else if n < 0xF4 then .begins ⟨n - 0xF0, 2, 0x80, 0xBF⟩
  else if n = 0xF4 then .begins ⟨4, 2, 0x80, 0x8F⟩
  else .malformed

/-- Can the octet come next in a character? -/
def Partial.admits (state : Partial) (b : UInt8) : Bool := state.low ≤ b && b ≤ state.high

def Partial.push (state : Partial) (b : UInt8) : Nat := state.bits * 64 + (b.toNat - 0x80)

/-- Read on, between characters or inside one: `none` stands for a malformed part. -/
def decodeFrom : Option Partial → Bytes → List (Option Char)
  | none, [] => []
  | some _, [] => [none]
  | none, b :: rest =>
    match lead b with
    | .whole c => some c :: decodeFrom none rest
    | .begins state => decodeFrom (some state) rest
    | .malformed => none :: decodeFrom none rest
  | some state, b :: rest =>
    if state.admits b then
      match state.more with
      | 0 => some (Char.ofNat (state.push b)) :: decodeFrom none rest
      | more + 1 => decodeFrom (some ⟨state.push b, more, 0x80, 0xBF⟩) rest
    else
      none :: match lead b with
        | .whole c => some c :: decodeFrom none rest
        | .begins state => decodeFrom (some state) rest
        | .malformed => none :: decodeFrom none rest

/-- The characters of an octet string, `none` for every malformed part. -/
def decode (data : Bytes) : List (Option Char) := decodeFrom none data

/-- The text of an octet string, U+FFFD for every malformed part. -/
def decodeLossy (data : Bytes) : String :=
  String.ofList ((decode data).map fun c => c.getD '\ufffd')

/-- The text of an octet string without malformed parts. -/
def decode? (data : Bytes) : Option String := ((decode data).mapM id).map String.ofList

end BootServer.Text.Utf8
