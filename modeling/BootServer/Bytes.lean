/-!
# Octet strings and network byte order

Datagrams and file contents are lists of octets. Words are written most significant octet first;
the round trips say that reading undoes writing.
-/

namespace BootServer

abbrev Bytes := List UInt8

namespace Bytes

/-- The two octets of a 16-bit word, the high one first. -/
def ofUInt16 (word : UInt16) : Bytes :=
  [UInt8.ofNat (word.toNat / 256), UInt8.ofNat word.toNat]

/-- The four octets of a 32-bit word, the high one first. -/
def ofUInt32 (word : UInt32) : Bytes :=
  [UInt8.ofNat (word.toNat / 16777216), UInt8.ofNat (word.toNat / 65536),
    UInt8.ofNat (word.toNat / 256), UInt8.ofNat word.toNat]

/-- The 16-bit word of a high and a low octet. -/
def word16 (high low : UInt8) : UInt16 :=
  UInt16.ofNat (high.toNat * 256 + low.toNat)

/-- The 32-bit word of four octets, the high one first. -/
def word32 (a b c d : UInt8) : UInt32 :=
  UInt32.ofNat (a.toNat * 16777216 + b.toNat * 65536 + c.toNat * 256 + d.toNat)

/-- The octet at an index, 0 past the end. -/
def octetAt (data : Bytes) (index : Nat) : UInt8 := data.getD index 0

def word16At (data : Bytes) (index : Nat) : UInt16 :=
  word16 (octetAt data index) (octetAt data (index + 1))

def word32At (data : Bytes) (index : Nat) : UInt32 :=
  word32 (octetAt data index) (octetAt data (index + 1)) (octetAt data (index + 2))
    (octetAt data (index + 3))

/-- The octets from `start` on, `count` of them or what there is. -/
def slice (data : Bytes) (start count : Nat) : Bytes := (data.drop start).take count

theorem octetAt_of_lt {data : Bytes} {index : Nat} (h : index < data.length) :
    octetAt data index = data[index] := by
  rw [octetAt, List.getD_eq_getElem?_getD, List.getElem?_eq_getElem h, Option.getD_some]

theorem slice_infix (data : Bytes) (start count : Nat) : slice data start count <:+: data :=
  (List.take_prefix _ _).isInfix.trans (List.drop_suffix _ _).isInfix

theorem slice_append {front field rest : Bytes} {start count : Nat}
    (hfront : front.length = start) (hfield : field.length = count) :
    slice (front ++ field ++ rest) start count = field := by
  subst hfront hfield
  rw [slice, List.append_assoc, List.drop_left, List.take_left]

@[simp] theorem length_ofUInt16 (word : UInt16) : (ofUInt16 word).length = 2 := rfl

@[simp] theorem length_ofUInt32 (word : UInt32) : (ofUInt32 word).length = 4 := rfl

@[simp] theorem word16_ofUInt16 (word : UInt16) :
    word16 (UInt8.ofNat (word.toNat / 256)) (UInt8.ofNat word.toNat) = word := by
  apply UInt16.toNat_inj.1
  have h := word.toNat_lt
  simp only [word16, UInt16.toNat_ofNat', UInt8.toNat_ofNat']
  omega

theorem ofUInt16_word16 (high low : UInt8) : ofUInt16 (word16 high low) = [high, low] := by
  have hhigh := high.toNat_lt
  have hlow := low.toNat_lt
  have hword : (word16 high low).toNat = high.toNat * 256 + low.toNat := by
    rw [word16, UInt16.toNat_ofNat']
    omega
  have hfirst : UInt8.ofNat ((high.toNat * 256 + low.toNat) / 256) = high := by
    apply UInt8.toNat_inj.mp
    rw [UInt8.toNat_ofNat']
    omega
  have hsecond : UInt8.ofNat (high.toNat * 256 + low.toNat) = low := by
    apply UInt8.toNat_inj.mp
    rw [UInt8.toNat_ofNat']
    omega
  rw [ofUInt16, hword, hfirst, hsecond]

@[simp] theorem word32_ofUInt32 (word : UInt32) :
    word32 (UInt8.ofNat (word.toNat / 16777216)) (UInt8.ofNat (word.toNat / 65536))
      (UInt8.ofNat (word.toNat / 256)) (UInt8.ofNat word.toNat) = word := by
  apply UInt32.toNat_inj.1
  have h := word.toNat_lt
  simp only [word32, UInt32.toNat_ofNat', UInt8.toNat_ofNat']
  omega

end Bytes

end BootServer
