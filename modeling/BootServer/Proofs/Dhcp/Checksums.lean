import BootServer.Dhcp.Echo
import Mathlib.Algebra.BigOperators.Group.Multiset.Basic
import Mathlib.Data.Multiset.Range
import Mathlib.Data.Nat.ModEq
import Mathlib.Logic.Function.Iterate

/-!
# Checksums of messages

The words of 131074 octets are the most that a 32-bit register can add up. Folding the sum takes two
rounds at most; it keeps the remainder modulo 65535 and gives zero for zero only. So the checksum
depends on the words and not on their order, and a message that carries its own checksum sums to the
ones that stand for zero.
-/

namespace BootServer.Dhcp.Echo

/-- The most octets whose words a 32-bit register can always add up. -/
def lengthMax : Nat := 131074

/-- The words of a message in no order. The low octet of the last one may be missing, and is 0
then. -/
def wordsOf (data : Bytes) : Multiset UInt16 :=
  (Multiset.range ((data.length + 1) / 2)).map fun index => Bytes.word16At data (2 * index)

/-- The sum of words in unbounded arithmetic. -/
def plainSum (ws : Multiset UInt16) : Nat := (ws.map UInt16.toNat).sum

/-- One round of the folding loop in a 32-bit register. -/
def foldRound (sum : UInt32) : UInt32 := (sum &&& (0xffff : UInt32)) + (sum >>> 16)

/-- The folding loop makes so many rounds: before each there is something above 16 bits, and then
nothing. -/
structure EndsAfter (sum : UInt32) (rounds : Nat) : Prop where
  goes_on : ∀ round < rounds, foldRound^[round] sum >>> 16 ≠ 0
  stops : foldRound^[rounds] sum >>> 16 = 0

/-- The message with its checksum in the field for it, the second word. -/
def withChecksum (data : Bytes) : Bytes :=
  data.take 2 ++ Bytes.ofUInt16 (checksum data) ++ data.drop 4

variable {data other : Bytes} {ws : List UInt16} {sum : Nat}

/-! ## The words -/

theorem words_eq_map (data : Bytes) :
    words data =
      (List.range ((data.length + 1) / 2)).map fun index => Bytes.word16At data (2 * index) := by
  fun_induction words data with
  | case1 => rfl
  | case2 high =>
      rw [List.length_singleton]
      rfl
  | case3 high low rest ih =>
      have hcount : ((high :: low :: rest).length + 1) / 2 = (rest.length + 1) / 2 + 1 := by
        rw [List.length_cons, List.length_cons]
        omega
      rw [hcount, List.range_succ_eq_map, List.map_cons, List.map_map, ih]
      rfl

theorem coe_words (data : Bytes) : (words data : Multiset UInt16) = wordsOf data := by
  rw [words_eq_map]
  rfl

theorem length_words (data : Bytes) : (words data).length = (data.length + 1) / 2 := by
  rw [words_eq_map, List.length_map, List.length_range]

/-! ## Adding up -/

theorem plainSum_cons (word : UInt16) (ws : Multiset UInt16) :
    plainSum (word ::ₘ ws) = word.toNat + plainSum ws := by
  rw [plainSum, plainSum, Multiset.map_cons, Multiset.sum_cons]

theorem plainSum_eq_zero_iff {ws : Multiset UInt16} :
    plainSum ws = 0 ↔ ∀ word ∈ ws, word = 0 := by
  induction ws using Multiset.induction_on with
  | empty => simp [plainSum]
  | cons word ws ih =>
      rw [plainSum_cons, Nat.add_eq_zero_iff, ih, Multiset.forall_mem_cons, ← UInt16.toNat_inj,
        UInt16.toNat_zero]

theorem plainSum_le (ws : List UInt16) : plainSum ws ≤ ws.length * 65535 := by
  induction ws with
  | nil => exact Nat.zero_le _
  | cons word ws ih =>
      have hword := word.toNat_lt
      rw [← Multiset.cons_coe, plainSum_cons, List.length_cons]
      omega

theorem plainSum_lt (h : data.length ≤ lengthMax) (count : Nat) :
    plainSum ((words data).take count) < 4294967296 := by
  have hle := plainSum_le ((words data).take count)
  have hcount : ((words data).take count).length ≤ 65537 := by
    rw [List.length_take, length_words]
    rw [lengthMax] at h
    omega
  omega

/-- A register that overflows at no word holds the plain sum. -/
theorem toNat_foldl (register : UInt32) (h : register.toNat + plainSum ws < 4294967296) :
    (ws.foldl (fun sum word => sum + word.toUInt32) register).toNat =
      register.toNat + plainSum ws := by
  induction ws generalizing register with
  | nil => rfl
  | cons word ws ih =>
      rw [← Multiset.cons_coe, plainSum_cons, ← Nat.add_assoc] at h
      have hsum : (register + word.toUInt32).toNat = register.toNat + word.toNat := by
        rw [UInt32.toNat_add, UInt16.toNat_toUInt32]
        exact Nat.mod_eq_of_lt (Nat.lt_of_add_right_lt h)
      rw [← hsum] at h
      rw [List.foldl_cons, ih _ h, hsum, ← Multiset.cons_coe, plainSum_cons, Nat.add_assoc]

theorem toNat_total (h : plainSum ws < 4294967296) : (total ws).toNat = plainSum ws := by
  have hregister : (0 : UInt32).toNat + plainSum ws < 4294967296 := by
    rwa [UInt32.toNat_zero, Nat.zero_add]
  rw [total, toNat_foldl 0 hregister, UInt32.toNat_zero, Nat.zero_add]

theorem toNat_total_words (h : data.length ≤ lengthMax) :
    (total (words data)).toNat = plainSum (wordsOf data) := by
  have hsum := plainSum_lt h (words data).length
  rw [List.take_length] at hsum
  rw [toNat_total hsum, coe_words]

/-! ## Folding -/

theorem fold_lt (sum : Nat) : fold sum < 65536 := by
  fun_induction fold sum with
  | case1 sum h => exact h
  | case2 sum h ih => exact ih

/-- Folding moves a multiple of 65535 away. -/
theorem fold_modEq (sum : Nat) : fold sum ≡ sum [MOD 65535] := by
  fun_induction fold sum with
  | case1 sum h => rfl
  | case2 sum h ih =>
      refine ih.trans ?_
      rw [Nat.ModEq]
      omega

theorem fold_eq_zero_iff : fold sum = 0 ↔ sum = 0 := by
  fun_induction fold sum with
  | case1 sum h => rfl
  | case2 sum h ih =>
      rw [ih]
      omega

/-- Of the two zeros, a sum that is not zero is folded to the one of ones only. -/
theorem fold_eq_ones (hpos : 0 < sum) (hmod : sum ≡ 0 [MOD 65535]) : fold sum = 65535 := by
  have hfold := (fold_modEq sum).trans hmod
  have hne := mt fold_eq_zero_iff.mp (Nat.ne_of_gt hpos)
  have hlt := fold_lt sum
  rw [Nat.ModEq] at hfold
  omega

theorem toNat_shiftRight (register : UInt32) :
    (register >>> 16).toNat = register.toNat / 65536 := by
  rw [UInt32.toNat_shiftRight]
  exact Nat.shiftRight_eq_div_pow register.toNat 16

/-- A round does not overflow either. -/
theorem toNat_foldRound (register : UInt32) :
    (foldRound register).toNat = register.toNat % 65536 + register.toNat / 65536 := by
  have hlt := register.toNat_lt
  have hlow : (register &&& (0xffff : UInt32)).toNat = register.toNat % 65536 := by
    rw [UInt32.toNat_and]
    exact Nat.and_two_pow_sub_one_eq_mod register.toNat 16
  rw [foldRound, UInt32.toNat_add, hlow, toNat_shiftRight]
  omega

theorem shiftRight_eq_zero_iff {register : UInt32} :
    register >>> 16 = 0 ↔ register.toNat < 65536 := by
  rw [← UInt32.toNat_inj, toNat_shiftRight, UInt32.toNat_zero]
  omega

theorem endsAfter_zero {register : UInt32} (h : register.toNat < 65536) :
    EndsAfter register 0 where
  goes_on := fun _ hround => absurd hround (Nat.not_lt_zero _)
  stops := shiftRight_eq_zero_iff.mpr h

theorem EndsAfter.succ {register : UInt32} {rounds : Nat}
    (hrest : EndsAfter (foldRound register) rounds) (h : ¬ register.toNat < 65536) :
    EndsAfter register (rounds + 1) where
  goes_on := by
    intro round hround
    cases round with
    | zero => exact mt shiftRight_eq_zero_iff.mp h
    | succ round => exact hrest.goes_on round (Nat.lt_of_succ_lt_succ hround)
  stops := hrest.stops

/-- The loop computes `fold`. -/
theorem EndsAfter.toNat_eq {register : UInt32} {rounds : Nat} (h : EndsAfter register rounds) :
    (foldRound^[rounds] register).toNat = fold register.toNat := by
  induction rounds generalizing register with
  | zero =>
      have hlt : register.toNat < 65536 := shiftRight_eq_zero_iff.mp h.stops
      rw [fold, if_pos hlt]
      rfl
  | succ rounds ih =>
      have hge : ¬ register.toNat < 65536 :=
        mt shiftRight_eq_zero_iff.mpr (h.goes_on 0 rounds.succ_pos)
      have hrest : EndsAfter (foldRound register) rounds :=
        ⟨fun round hround => h.goes_on (round + 1) (Nat.succ_lt_succ hround), h.stops⟩
      rw [Function.iterate_succ_apply, ih hrest, toNat_foldRound, fold.eq_def register.toNat,
        if_neg hge]

/-- The first round leaves one bit above 16 at most, and the second one none. -/
theorem exists_endsAfter (register : UInt32) : ∃ rounds ≤ 2, EndsAfter register rounds := by
  have hlt := register.toNat_lt
  have hone := toNat_foldRound register
  have htwo := toNat_foldRound (foldRound register)
  by_cases hzero : register.toNat < 65536
  · exact ⟨0, Nat.zero_le 2, endsAfter_zero hzero⟩
  · by_cases hfirst : (foldRound register).toNat < 65536
    · exact ⟨1, Nat.le_succ 1, (endsAfter_zero hfirst).succ hzero⟩
    · have hsecond : (foldRound (foldRound register)).toNat < 65536 := by omega
      exact ⟨2, Nat.le_refl 2, ((endsAfter_zero hsecond).succ hfirst).succ hzero⟩

/-! ## Checksums -/

theorem toNat_checksum (h : data.length ≤ lengthMax) :
    (checksum data).toNat = 65535 - fold (plainSum (wordsOf data)) := by
  rw [checksum, UInt16.toNat_not, toNat_total_words h, UInt16.toNat_ofNat',
    Nat.mod_eq_of_lt (fold_lt _)]
  rfl

theorem checksum_eq_zero_iff (h : data.length ≤ lengthMax) :
    checksum data = 0 ↔ fold (plainSum (wordsOf data)) = 65535 := by
  have hlt := fold_lt (plainSum (wordsOf data))
  rw [← UInt16.toNat_inj, toNat_checksum h, UInt16.toNat_zero]
  omega

theorem checksum_congr (h : data.length ≤ lengthMax) (hwords : wordsOf other = wordsOf data) :
    checksum other = checksum data := by
  have hcount := congrArg Multiset.card hwords
  rw [wordsOf, wordsOf, Multiset.card_map, Multiset.card_map, Multiset.card_range,
    Multiset.card_range] at hcount
  have hother : other.length ≤ lengthMax := by
    rw [lengthMax] at h ⊢
    omega
  rw [← UInt16.toNat_inj, toNat_checksum hother, toNat_checksum h, hwords]

/-! ## Messages that carry their checksum -/

theorem exists_words (hlength : 4 ≤ data.length) (hhigh : Bytes.octetAt data 2 = 0)
    (hlow : Bytes.octetAt data 3 = 0) :
    ∃ first rest, words data = first :: 0 :: rest ∧
      words (withChecksum data) = first :: checksum data :: rest := by
  match data, hlength with
  | a :: b :: c :: d :: rest, _ =>
      obtain rfl : c = 0 := hhigh
      obtain rfl : d = 0 := hlow
      refine ⟨Bytes.word16 a b, words rest, rfl, ?_⟩
      generalize hsum : checksum (a :: b :: 0 :: 0 :: rest) = sum
      rw [withChecksum, hsum]
      exact congrArg (fun word => Bytes.word16 a b :: word :: words rest)
        (Bytes.word16_ofUInt16 sum)

theorem length_withChecksum (h : 4 ≤ data.length) : (withChecksum data).length = data.length := by
  rw [withChecksum, List.length_append, List.length_append, Bytes.length_ofUInt16,
    List.length_take, List.length_drop]
  omega

theorem plainSum_withChecksum (hlength : 4 ≤ data.length) (hhigh : Bytes.octetAt data 2 = 0)
    (hlow : Bytes.octetAt data 3 = 0) :
    plainSum (wordsOf (withChecksum data)) =
      plainSum (wordsOf data) + (checksum data).toNat := by
  obtain ⟨first, rest, hdata, hcarrying⟩ := exists_words hlength hhigh hlow
  rw [← coe_words, ← coe_words, hcarrying, hdata]
  simp only [← Multiset.cons_coe, plainSum_cons, UInt16.toNat_zero]
  omega

theorem checksum_withChecksum (hmax : data.length ≤ lengthMax) (hlength : 4 ≤ data.length)
    (hhigh : Bytes.octetAt data 2 = 0) (hlow : Bytes.octetAt data 3 = 0) :
    checksum (withChecksum data) = 0 := by
  have hcarrying : (withChecksum data).length ≤ lengthMax := by
    rwa [length_withChecksum hlength]
  have hsum := plainSum_withChecksum hlength hhigh hlow
  rw [toNat_checksum hmax] at hsum
  rw [checksum_eq_zero_iff hcarrying, hsum]
  generalize plainSum (wordsOf data) = sum
  have hlt := fold_lt sum
  apply fold_eq_ones
  · -- when the words are all zero, the checksum is not
    have hzero := @fold_eq_zero_iff sum
    omega
  · calc
      sum + (65535 - fold sum)
      _ ≡ fold sum + (65535 - fold sum) [MOD 65535] := (fold_modEq sum).symm.add_right _
      _ = 65535 := by omega
      _ ≡ 0 [MOD 65535] := rfl

/-- A request carries its checksum, so whoever gets it can check it. -/
theorem checksum_request (number : UInt16) : checksum (request number) = 0 := by
  have hrequest : request number = withChecksum (requestWith 0 number) := rfl
  have hlength : (requestWith 0 number).length = 21 := rfl
  rw [hrequest]
  apply checksum_withChecksum
  · rw [hlength, lengthMax]
    decide
  · rw [hlength]
    decide
  · rfl
  · rfl

/-- The register holds the plain sum of the words at every word, and the loop that folds it ends
after two rounds at most. The checksum is the complement of what is left: of the sum modulo 65535,
where only words that are all zero give zero. So it depends on which words there are and not on
their order. A message that carries its own checksum in a field that was zero has the checksum
zero. -/
theorem checksum_of_words (data : Bytes) (h : data.length ≤ lengthMax) :
    (∀ count, (total ((words data).take count)).toNat = plainSum ((words data).take count)) ∧
      (∃ rounds ≤ 2, EndsAfter (total (words data)) rounds ∧
        checksum data = ~~~(foldRound^[rounds] (total (words data))).toUInt16) ∧
      65535 - (checksum data).toNat ≡ plainSum (wordsOf data) [MOD 65535] ∧
      (checksum data = 65535 ↔ ∀ word ∈ wordsOf data, word = 0) ∧
      (∀ other, wordsOf other = wordsOf data → checksum other = checksum data) ∧
      (4 ≤ data.length → Bytes.octetAt data 2 = 0 → Bytes.octetAt data 3 = 0 →
        checksum (withChecksum data) = 0) := by
  have hlt := fold_lt (plainSum (wordsOf data))
  have hchecksum := toNat_checksum h
  refine ⟨fun count => toNat_total (plainSum_lt h count), ?_, ?_, ?_,
    fun _ => checksum_congr h, checksum_withChecksum h⟩
  · obtain ⟨rounds, hrounds, hends⟩ := exists_endsAfter (total (words data))
    refine ⟨rounds, hrounds, hends, ?_⟩
    rw [checksum, ← hends.toNat_eq]
    rfl
  · have hcomplement : 65535 - (checksum data).toNat = fold (plainSum (wordsOf data)) := by
      omega
    rw [hcomplement]
    exact fold_modEq _
  · rw [← plainSum_eq_zero_iff, ← fold_eq_zero_iff, ← UInt16.toNat_inj, hchecksum]
    have hones : (65535 : UInt16).toNat = 65535 := rfl
    rw [hones]
    omega

/-- A message of odd length whose sum takes two rounds to fold. -/
def oddMessage : Bytes := [0xff, 0xff, 0, 0, 1, 0, 0xff]

/-- Its words in another order, the odd octet in front. -/
def rearrangedMessage : Bytes := [0xff, 0, 1, 0, 0xff, 0xff, 0, 0]

/-- The odd message takes its checksum in, and its words have the same one in any order. -/
theorem odd_message_checksum :
    oddMessage.length ≤ lengthMax ∧ 4 ≤ oddMessage.length ∧
      Bytes.octetAt oddMessage 2 = 0 ∧ Bytes.octetAt oddMessage 3 = 0 ∧
      (total (words oddMessage)).toNat = 0x1ffff ∧ checksum oddMessage = 0xfffe ∧
      checksum (withChecksum oddMessage) = 0 ∧
      checksum rearrangedMessage = checksum oddMessage := by
  have hlength : oddMessage.length ≤ lengthMax := by decide
  obtain ⟨hsum, -, -, -, hwords, hown⟩ := checksum_of_words oddMessage hlength
  refine ⟨hlength, by decide, rfl, rfl, ?_, by decide +kernel, ?_, ?_⟩
  · exact hsum 4
  · exact hown (by decide) rfl rfl
  · exact hwords rearrangedMessage (by decide)

end BootServer.Dhcp.Echo
