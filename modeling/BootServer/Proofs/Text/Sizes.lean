import BootServer.Proofs.Text.Numerals
import BootServer.Text.Utf8
import Mathlib.Algebra.Group.Nat.Defs

/-!
# How many octets texts take

A text takes as many octets as its UTF-8 form has. A character below 128 takes one, so a numeral takes
one for each digit, and the text of an address takes at most fifteen.
-/

namespace BootServer.Text

variable {n size : Nat} {cs : List Char}

theorem Utf8.length_encode (text : String) : (encode text).length = text.utf8ByteSize := by
  obtain ⟨cs, rfl⟩ : ∃ cs, text = String.ofList cs := ⟨text.toList, String.ofList_toList.symm⟩
  simp [encode, String.utf8ByteSize, List.utf8Encode]

theorem utf8ByteSize_ofList (h : ∀ c ∈ cs, c.toNat < 0x80) :
    (String.ofList cs).utf8ByteSize = cs.length := by
  have hchar : ∀ c ∈ cs, (String.utf8EncodeChar c).length = 1 := by
    intro c hc
    rw [String.length_utf8EncodeChar, Char.utf8Size_eq_one_iff]
    exact Nat.le_of_lt_succ (h c hc)
  rw [← Utf8.length_encode, Utf8.encode, String.toList_ofList, List.length_flatMap]
  rw [List.map_congr_left hchar, List.map_const', List.sum_replicate_nat, Nat.mul_one]

theorem toNat_lt_of_isDigit {c : Char} (h : isDigit c = true) : c.toNat < 0x80 := by
  rw [isDigit, Bool.and_eq_true, decide_eq_true_eq, decide_eq_true_eq] at h
  exact Nat.lt_of_le_of_lt h.2 (by decide)

theorem length_digits_le (hpos : 0 < size) (h : n < 10 ^ size) : (digits n).length ≤ size :=
  (Nat.length_toDigits_le_iff (by decide) hpos).mpr h

theorem utf8ByteSize_toString_le (hpos : 0 < size) (h : n < 10 ^ size) :
    (toString n).utf8ByteSize ≤ size := by
  have hdigits : ∀ c ∈ digits n, c.toNat < 0x80 :=
    fun _ hc => toNat_lt_of_isDigit (isDigit_of_mem_digits hc)
  have hsize : (toString n).utf8ByteSize = (digits n).length := utf8ByteSize_ofList hdigits
  rw [hsize]
  exact length_digits_le hpos h

end BootServer.Text

namespace BootServer.IPv4

theorem utf8ByteSize_toText_le (ip : IPv4) : ip.toText.utf8ByteSize ≤ 15 := by
  have hnumeral : ∀ octet : UInt8, (Text.digits octet.toNat).length ≤ 3 :=
    fun octet => Text.length_digits_le (by decide) (Nat.lt_trans octet.toNat_lt (by decide))
  have hascii : ∀ c ∈ ip.chars, c.toNat < 0x80 := by
    intro c hc
    rcases mem_toText (String.toList_ofList.symm ▸ hc : c ∈ ip.toText.toList) with rfl | hdigit
    · decide
    · exact Text.toNat_lt_of_isDigit hdigit
  rw [toText, Text.utf8ByteSize_ofList hascii]
  simp only [chars, octets, Bytes.ofUInt32, List.map_cons, List.map_nil, Text.join,
    List.length_append, List.length_singleton]
  grind

end BootServer.IPv4
