import BootServer.Net.Address

/-!
# Numbers and addresses written and read

A number is written with digits only, without a zero in front, and read back where it is in bounds.
What else is read as a number has zeros in front, or one plus sign. An address is read back from its
text.
-/

namespace BootServer.Text

variable {n bound : Nat} {c : Char} {cs : List Char}

/-- Digits, after one plus sign at most, and the number that they stand for. -/
inductive Numeral : List Char → Nat → Prop
  | plain {digits : List Char} (hne : digits ≠ []) (hdigits : ∀ c ∈ digits, isDigit c = true) :
      Numeral digits (ofDigits digits)
  | signed {digits : List Char} (hne : digits ≠ []) (hdigits : ∀ c ∈ digits, isDigit c = true) :
      Numeral ('+' :: digits) (ofDigits digits)

theorem isDigit_of_mem_digits (h : c ∈ digits n) : isDigit c = true := by
  have hdigit := Nat.isDigit_of_mem_toDigits (by decide) (by decide) h
  rw [Char.isDigit, Bool.and_eq_true] at hdigit
  rw [isDigit, Bool.and_eq_true]
  exact hdigit

theorem digits_ne_nil (n : Nat) : digits n ≠ [] := Nat.toDigits_ne_nil

theorem head?_digits_ne_zero (h : 0 < n) : (digits n).head? ≠ some '0' := by
  have hdigit : ∀ d < 10, 0 < d → d.digitChar ≠ '0' := by decide
  induction n using Nat.strongRecOn with
  | ind n ih =>
      unfold digits
      by_cases hsmall : n < 10
      · rw [Nat.toDigits_of_lt_base hsmall]
        exact mt Option.some.inj (hdigit n hsmall h)
      · have hlead := ih (n / 10) (by omega) (by omega)
        rw [Nat.toDigits_of_base_le (by decide) (by omega)]
        unfold digits at hlead
        cases hfirst : Nat.toDigits 10 (n / 10) with
        | nil => exact absurd hfirst Nat.toDigits_ne_nil
        | cons d ds =>
            rw [hfirst] at hlead
            exact hlead

/-- A numeral that starts with zero is the zero. -/
theorem digits_eq_of_head? (h : (digits n).head? = some '0') : digits n = ['0'] := by
  cases n with
  | zero => exact Nat.toDigits_zero 10
  | succ n => exact absurd h (head?_digits_ne_zero n.succ_pos)

theorem digitsValue?_eq_some_iff : digitsValue? cs = some n ↔
    cs ≠ [] ∧ (∀ c ∈ cs, isDigit c = true) ∧ ofDigits cs = n := by
  simp only [digitsValue?, Option.ite_none_left_eq_some, Bool.or_eq_true, not_or,
    List.isEmpty_iff, Bool.not_eq_true', Bool.not_eq_false, List.all_eq_true, Option.some_inj,
    and_assoc, ne_eq]

theorem digitsValue?_digits (n : Nat) : digitsValue? (digits n) = some n :=
  digitsValue?_eq_some_iff.mpr
    ⟨digits_ne_nil n, fun _ => isDigit_of_mem_digits, ofDigits_digits n⟩

theorem dropPlus_eq_self (h : ∀ c ∈ cs, isDigit c = true) : dropPlus cs = cs := by
  unfold dropPlus
  split
  next => exact absurd (h '+' List.mem_cons_self) (by decide)
  next => rfl

theorem digitsValue?_dropPlus : digitsValue? (dropPlus cs) = some n ↔ Numeral cs n := by
  constructor
  · intro h
    unfold dropPlus at h
    split at h
    next =>
      obtain ⟨hne, hdigits, rfl⟩ := digitsValue?_eq_some_iff.mp h
      exact .signed hne hdigits
    next =>
      obtain ⟨hne, hdigits, rfl⟩ := digitsValue?_eq_some_iff.mp h
      exact .plain hne hdigits
  · intro h
    cases h with
    | plain hne hdigits =>
        rw [dropPlus_eq_self hdigits]
        exact digitsValue?_eq_some_iff.mpr ⟨hne, hdigits, rfl⟩
    | signed hne hdigits => exact digitsValue?_eq_some_iff.mpr ⟨hne, hdigits, rfl⟩

theorem unsigned?_eq_some_iff : unsigned? bound cs = some n ↔ Numeral cs n ∧ n ≤ bound := by
  rw [unsigned?, Option.filter_eq_some_iff, digitsValue?_dropPlus, decide_eq_true_iff]

theorem unsigned?_digits (h : n ≤ bound) : unsigned? bound (digits n) = some n := by
  rw [unsigned?, dropPlus_eq_self fun _ => isDigit_of_mem_digits, digitsValue?_digits,
    Option.filter_some, if_pos (decide_eq_true h)]

end BootServer.Text

namespace BootServer.IPv4

theorem octet?_digits (octet : UInt8) : octet? (Text.digits octet.toNat) = some octet := by
  have hall : ∀ n < 256, octet? (Text.digits n) = some (UInt8.ofNat n) := by decide +kernel
  rw [hall octet.toNat octet.toNat_lt, UInt8.ofNat_toNat]

theorem ofText?_toText (ip : IPv4) : ofText? ip.toText = some ip := by
  have hdots : ∀ piece ∈ ip.octets.map (fun octet => Text.digits octet.toNat), '.' ∉ piece := by
    intro piece hpiece hdot
    obtain ⟨octet, -, rfl⟩ := List.mem_map.mp hpiece
    exact absurd (Text.isDigit_of_mem_digits hdot) (by decide)
  have hsplit : Text.split (· == '.') ip.chars = ip.octets.map fun octet => Text.digits octet.toNat :=
    Text.split_join (List.cons_ne_nil _ _) hdots
  rw [ofText?, toText, String.toList_ofList, ofChars?, hsplit]
  simp only [octets, Bytes.ofUInt32, List.map_cons, List.map_nil, octet?_digits, ofOctets,
    Option.bind_eq_bind, Option.bind_some, Bytes.word32_ofUInt32]
  rfl

theorem mem_toText {ip : IPv4} {c : Char} (h : c ∈ ip.toText.toList) :
    c = '.' ∨ Text.isDigit c = true := by
  rw [toText, String.toList_ofList] at h
  rcases Text.mem_join h with rfl | ⟨piece, hpiece, hc⟩
  · exact .inl rfl
  · obtain ⟨octet, -, rfl⟩ := List.mem_map.mp hpiece
    exact .inr (Text.isDigit_of_mem_digits hc)

theorem toText_injective {ip other : IPv4} (h : ip.toText = other.toText) : ip = other := by
  have hread := congrArg ofText? h
  rw [ofText?_toText, ofText?_toText] at hread
  exact Option.some.inj hread

theorem zero_not_mem_toText (ip : IPv4) : '\x00' ∉ ip.toText.toList := by
  intro hzero
  rcases mem_toText hzero with hdot | hdigit
  · exact absurd hdot (by decide)
  · exact absurd hdigit (by decide)

theorem toText_ne_empty (ip : IPv4) : ip.toText ≠ "" := by
  intro hempty
  have hread := ofText?_toText ip
  rw [hempty] at hread
  exact nomatch hread

end BootServer.IPv4
