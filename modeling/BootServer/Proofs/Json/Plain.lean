import BootServer.Event.Json
import BootServer.Proofs.Text.Numerals
import Mathlib.Data.Nat.Basic

/-!
# Plain values

An object can be set aside when its names have texts and its values are plain and not nested too
deep. Texts are plain, and so are numbers of 64 bits: the significand holds their digits, and double
precision reaches far beyond them.
-/

namespace BootServer

variable {n : Nat}

/-! ## Numbers of 64 bits -/

theorem le_ofDigitChars (digits : List Char) (n : Nat) : n ≤ Nat.ofDigitChars 10 digits n := by
  induction digits generalizing n with
  | nil => exact Nat.le_refl n
  | cons digit digits ih =>
      rw [Nat.ofDigitChars_cons]
      exact Nat.le_trans (by omega) (ih _)

namespace Magnitude

theorem extended?_eq_some {digit : Char} (h : 10 * n + (digit.toNat - '0'.toNat) < UInt64.size) :
    extended? n digit = some (10 * n + (digit.toNat - '0'.toNat)) := by
  have hvalue : n * 10 + Text.ofDigits [digit] = 10 * n + (digit.toNat - '0'.toNat) := by
    rw [Text.ofDigits, Nat.ofDigitChars_cons, Nat.ofDigitChars_nil]
    omega
  have hfits : 10 * n + (digit.toNat - '0'.toNat) < Nat.pow 2 64 := h
  rw [extended?, hvalue, Option.filter_some, if_pos (decide_eq_true hfits)]

section

-- the next equation holds by unfolding, which must stop before the bound is taken apart
attribute [local irreducible] extended?

theorem readWhole_cons (n : Nat) (digit : Char) (digits : List Char) :
    readWhole n (digit :: digits) =
      match extended? n digit with
      | some longer => readWhole longer digits
      | none => ⟨n, digits.length + 1⟩ := rfl

end

/-- Whole digits that stand for a number of 64 bits are all taken. -/
theorem readWhole_eq {digits : List Char} (h : Nat.ofDigitChars 10 digits n < UInt64.size) :
    readWhole n digits = ⟨Nat.ofDigitChars 10 digits n, 0⟩ := by
  induction digits generalizing n with
  | nil => rfl
  | cons digit digits ih =>
      rw [Nat.ofDigitChars_cons] at h ⊢
      have hfits : 10 * n + (digit.toNat - '0'.toNat) < UInt64.size :=
        Nat.lt_of_le_of_lt (le_ofDigitChars digits _) h
      rw [readWhole_cons, extended?_eq_some hfits]
      exact ih h

end Magnitude

theorem nearestDouble_le (h : n ≠ 0) : nearestDouble n ≤ 2 * n := by
  have hunit : Nat.pow 2 (Nat.log2 n - 52) ≤ n :=
    Nat.le_trans (Nat.pow_le_pow_right (by decide) (Nat.sub_le _ _)) (Nat.log2_self_le h)
  have hbelow := Nat.div_mul_le_self n (Nat.pow 2 (Nat.log2 n - 52))
  unfold nearestDouble
  dsimp only
  split
  · omega
  · rw [Nat.add_one_mul]
    omega

theorem Numeral.isFinite_ofNat (h : n < UInt64.size) : (Numeral.ofNat n).isFinite = true := by
  have hdigits : Nat.ofDigitChars 10 (Text.digits n) 0 = n := Text.ofDigits_digits n
  have hwhole : Magnitude.readWhole 0 (Text.digits n) = ⟨n, 0⟩ := by
    rw [Magnitude.readWhole_eq (by rw [hdigits]; exact h), hdigits]
  have hmagnitude : (Numeral.ofNat n).magnitude = ⟨n, 0⟩ := by
    rw [Numeral.magnitude, Numeral.ofNat, hwhole]
    rfl
  rw [Numeral.isFinite, hmagnitude, Magnitude.isFinite]
  dsimp only
  by_cases hzero : n = 0
  · rw [if_pos (.inl hzero)]
  · have hscale : ¬ (n = 0 ∨ (0 : Int) < 0) := by omega
    have hrange : ¬ (308 < (0 : Int)) := by omega
    have hone : nearestDouble (Nat.pow 10 (0 : Int).toNat) = 1 := by decide
    have hbound : 2 * UInt64.size < overflowBound := by decide +kernel
    have hle := nearestDouble_le hzero
    rw [if_neg hscale, if_neg hrange, hone, Nat.mul_one]
    exact decide_eq_true (by omega)

/-! ## Objects that are set aside -/

namespace Json

variable {doc : List (Option String × Json)}

theorem arePlainMembers_iff :
    arePlainMembers doc = true ↔ ∀ member ∈ doc, member.1 ≠ none ∧ member.2.isPlain = true := by
  induction doc with
  | nil => simp [arePlainMembers]
  | cons member doc ih =>
      rw [arePlainMembers, Bool.and_eq_true, Bool.and_eq_true, ih, List.forall_mem_cons,
        Option.isSome_iff_ne_none]

theorem depthOfMembers_le_iff : depthOfMembers doc ≤ n ↔ ∀ member ∈ doc, member.2.depth ≤ n := by
  induction doc with
  | nil => simp [depthOfMembers]
  | cons member doc ih => rw [depthOfMembers, Nat.max_le, ih, List.forall_mem_cons]

theorem canWait_object_iff :
    canWait (.object doc) = true ↔
      ∀ member ∈ doc, member.1 ≠ none ∧ member.2.isPlain = true ∧ member.2.depth < depthMax := by
  have hdepth : depthOfMembers doc + 1 ≤ depthMax ↔ ∀ member ∈ doc, member.2.depth < depthMax :=
    Nat.succ_le_succ_iff.trans depthOfMembers_le_iff |>.trans
      (forall₂_congr fun _ _ => Nat.lt_succ_iff.symm)
  rw [canWait, Bool.and_eq_true, isPlain, arePlainMembers_iff, decide_eq_true_iff, depth, hdepth,
    ← forall₂_and]
  exact forall₂_congr fun _ _ => and_assoc

end Json

end BootServer
