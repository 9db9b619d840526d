import BootServer.Text.CodeRange
import BootServer.Text.Utf8

/-!
# Texts and their octets

The octets of a text are read back as that text, by a lenient and by a strict reader. A lenient
reader makes a zero character of nothing but a zero octet, and some text of any octets.
-/

namespace BootServer.Text.Utf8

variable {state : Partial} {b : UInt8} {c : Char} {data rest : Bytes}

/-! ## Characters are read back -/

section

variable {bits more k : Nat} {low high : UInt8}

theorem admits_octet (hlow : low.toNat ≤ k + 128) (hhigh : k + 128 ≤ high.toNat) :
    Partial.admits ⟨bits, more, low, high⟩ (UInt8.ofNat (k + 128)) = true := by
  have hoctet := UInt8.toNat_ofNat_of_lt' (Nat.lt_of_le_of_lt hhigh high.toNat_lt)
  rw [Partial.admits, Bool.and_eq_true, decide_eq_true_eq, decide_eq_true_eq,
    UInt8.le_iff_toNat_le, UInt8.le_iff_toNat_le, hoctet]
  exact ⟨hlow, hhigh⟩

theorem push_octet (h : k + 128 < 256) :
    Partial.push ⟨bits, more, low, high⟩ (UInt8.ofNat (k + 128)) = bits * 64 + k := by
  unfold Partial.push
  dsimp only
  rw [UInt8.toNat_ofNat_of_lt' h]
  omega

/-- An octet that carries six bits goes on with a character. -/
theorem decodeFrom_onward (hlow : low.toNat ≤ k + 128) (hhigh : k + 128 ≤ high.toNat)
    (rest : Bytes) :
    decodeFrom (some ⟨bits, more + 1, low, high⟩) (UInt8.ofNat (k + 128) :: rest) =
      decodeFrom (some ⟨bits * 64 + k, more, 0x80, 0xBF⟩) rest := by
  rw [decodeFrom, if_pos (admits_octet hlow hhigh),
    push_octet (Nat.lt_of_le_of_lt hhigh high.toNat_lt)]

theorem tail_bounds (hk : k < 64) :
    (0x80 : UInt8).toNat ≤ k + 128 ∧ k + 128 ≤ (0xBF : UInt8).toNat :=
  ⟨Nat.le_add_left 128 k, Nat.add_le_add_right (Nat.le_of_lt_succ hk) 128⟩

theorem decodeFrom_tail (hk : k < 64) (rest : Bytes) :
    decodeFrom (some ⟨bits, more + 1, 0x80, 0xBF⟩) (UInt8.ofNat (k + 128) :: rest) =
      decodeFrom (some ⟨bits * 64 + k, more, 0x80, 0xBF⟩) rest :=
  decodeFrom_onward (tail_bounds hk).1 (tail_bounds hk).2 rest

/-- The last octet of a character. -/
theorem decodeFrom_last (hk : k < 64) (rest : Bytes) :
    decodeFrom (some ⟨bits, 0, 0x80, 0xBF⟩) (UInt8.ofNat (k + 128) :: rest) =
      some (Char.ofNat (bits * 64 + k)) :: decodeFrom none rest := by
  obtain ⟨hlow, hhigh⟩ := tail_bounds hk
  rw [decodeFrom, if_pos (admits_octet hlow hhigh), push_octet (by omega)]

end

theorem decodeFrom_begin (h : lead b = .begins state) (rest : Bytes) :
    decodeFrom none (b :: rest) = decodeFrom (some state) rest := by
  rw [decodeFrom, h]

theorem lead_one {n : Nat} (h : n < 0x80) : lead (UInt8.ofNat n) = .whole (Char.ofNat n) := by
  simp only [lead, UInt8.toNat_ofNat_of_lt' (show n < 256 by omega), if_pos h]

theorem decodeFrom_two {n k : Nat} (hlow : 2 ≤ n) (hhigh : n < 32) (hk : k < 64) (rest : Bytes) :
    decodeFrom none (UInt8.ofNat (n + 192) :: UInt8.ofNat (k + 128) :: rest) =
      some (Char.ofNat (n * 64 + k)) :: decodeFrom none rest := by
  have hlead : lead (UInt8.ofNat (n + 192)) = .begins ⟨n, 0, 0x80, 0xBF⟩ := by
    simp only [lead, UInt8.toNat_ofNat_of_lt' (show n + 192 < 256 by omega)]
    rw [if_neg (by omega), if_neg (by omega), if_pos (by omega), Nat.add_sub_cancel]
  rw [decodeFrom_begin hlead, decodeFrom_last hk]

/-- After the first of three octets the second one is bounded where the character would be too small
or a surrogate. -/
theorem decodeFrom_three {n k : Nat} (hn : n < 16) (hk : k < 64) (hsmall : n = 0 → 32 ≤ k)
    (hsurrogate : n = 13 → k < 32) (rest : Bytes) :
    decodeFrom none (UInt8.ofNat (n + 224) :: UInt8.ofNat (k + 128) :: rest) =
      decodeFrom (some ⟨n * 64 + k, 0, 0x80, 0xBF⟩) rest := by
  have hlead : lead (UInt8.ofNat (n + 224)) =
      .begins ⟨n, 1, if n = 0 then 0xA0 else 0x80, if n = 13 then 0x9F else 0xBF⟩ := by
    simp only [lead, UInt8.toNat_ofNat_of_lt' (show n + 224 < 256 by omega)]
    rw [if_neg (by omega), if_neg (by omega), if_neg (by omega)]
    by_cases hzero : n = 0
    · subst hzero
      rfl
    · by_cases hthirteen : n = 13
      · subst hthirteen
        rfl
      · rw [if_neg (by omega), if_neg (by omega), if_pos (by omega), Nat.add_sub_cancel,
          if_neg hzero, if_neg hthirteen]
  rw [decodeFrom_begin hlead, decodeFrom_onward]
  · split
    next hzero => exact Nat.add_le_add_right (hsmall hzero) 128
    next => exact Nat.le_add_left 128 k
  · split
    next hthirteen => exact Nat.add_le_add_right (Nat.le_of_lt_succ (hsurrogate hthirteen)) 128
    next => exact Nat.add_le_add_right (Nat.le_of_lt_succ hk) 128

/-- After the first of four octets the second one is bounded where the character would be too small
or too great. -/
theorem decodeFrom_four {n k : Nat} (hn : n ≤ 4) (hk : k < 64) (hsmall : n = 0 → 16 ≤ k)
    (hgreat : n = 4 → k < 16) (rest : Bytes) :
    decodeFrom none (UInt8.ofNat (n + 240) :: UInt8.ofNat (k + 128) :: rest) =
      decodeFrom (some ⟨n * 64 + k, 1, 0x80, 0xBF⟩) rest := by
  have hlead : lead (UInt8.ofNat (n + 240)) =
      .begins ⟨n, 2, if n = 0 then 0x90 else 0x80, if n = 4 then 0x8F else 0xBF⟩ := by
    match n, hn with
    | 0, _ | 1, _ | 2, _ | 3, _ | 4, _ => rfl
  rw [decodeFrom_begin hlead, decodeFrom_onward]
  · split
    next hzero => exact Nat.add_le_add_right (hsmall hzero) 128
    next => exact Nat.le_add_left 128 k
  · split
    next hfour => exact Nat.add_le_add_right (Nat.le_of_lt_succ (hgreat hfour)) 128
    next => exact Nat.add_le_add_right (Nat.le_of_lt_succ hk) 128

theorem decodeFrom_encodeChar (c : Char) (rest : Bytes) :
    decodeFrom none (String.utf8EncodeChar c ++ rest) = some c :: decodeFrom none rest := by
  have hvalid : c.val.toNat < 0xD800 ∨ 0xDFFF < c.val.toNat ∧ c.val.toNat < 0x110000 := c.valid
  have hchar : ∀ n, n = c.val.toNat → Char.ofNat n = c := by
    rintro n rfl
    exact Char.ofNat_toNat c
  unfold String.utf8EncodeChar
  dsimp only
  generalize c.val.toNat = v at *
  split
  next hone =>
    rw [List.singleton_append, decodeFrom, lead_one (by omega), hchar v rfl]
  next hone =>
    split
    next htwo =>
      simp only [List.cons_append, List.nil_append]
      rw [decodeFrom_two (by omega) (by omega) (by omega), hchar _ (by omega)]
    next htwo =>
      split
      next hthree =>
        simp only [List.cons_append, List.nil_append]
        rw [decodeFrom_three (by omega) (by omega) (by omega) (by omega),
          decodeFrom_last (by omega), hchar _ (by omega)]
      next hthree =>
        simp only [List.cons_append, List.nil_append]
        rw [decodeFrom_four (by omega) (by omega) (by omega) (by omega),
          decodeFrom_tail (by omega), decodeFrom_last (by omega), hchar _ (by omega)]

theorem decode_encode (text : String) : decode (encode text) = text.toList.map some := by
  unfold decode encode
  induction text.toList with
  | nil => rfl
  | cons c cs ih => rw [List.flatMap_cons, decodeFrom_encodeChar, ih, List.map_cons]

theorem decodeLossy_encode (text : String) : decodeLossy (encode text) = text := by
  rw [decodeLossy, decode_encode, List.map_map]
  exact (congrArg String.ofList (List.map_id _)).trans String.ofList_toList

theorem decode?_encode (text : String) : decode? (encode text) = some text := by
  have hwhole : ∀ cs : List Char, (cs.map some).mapM id = some cs := by
    intro cs
    induction cs with
    | nil => rfl
    | cons c cs ih => rw [List.map_cons, List.mapM_cons, ih]; rfl
  rw [decode?, decode_encode, hwhole, Option.map_some, String.ofList_toList]

/-! ## Zero octets and zero characters -/

theorem zero_not_mem_encodeChar (h : c ≠ '\x00') : 0 ∉ String.utf8EncodeChar c := by
  have hpos : c.val.toNat ≠ 0 := by
    intro hzero
    exact h (Char.ext (UInt32.toNat_inj.mp hzero))
  have hoctet : ∀ n, n % 256 ≠ 0 → (0 : UInt8) ≠ UInt8.ofNat n := by
    intro n hn hzero
    apply hn
    rw [← UInt8.toNat_ofNat', ← hzero]
    rfl
  unfold String.utf8EncodeChar
  dsimp only
  generalize c.val.toNat = v at *
  split
  next => simp only [List.mem_singleton]; exact hoctet _ (by omega)
  next =>
    split
    next =>
      simp only [List.mem_cons, List.not_mem_nil, or_false, not_or]
      exact ⟨hoctet _ (by omega), hoctet _ (by omega)⟩
    next =>
      split
      next =>
        simp only [List.mem_cons, List.not_mem_nil, or_false, not_or]
        exact ⟨hoctet _ (by omega), hoctet _ (by omega), hoctet _ (by omega)⟩
      next =>
        simp only [List.mem_cons, List.not_mem_nil, or_false, not_or]
        exact ⟨hoctet _ (by omega), hoctet _ (by omega), hoctet _ (by omega), hoctet _ (by omega)⟩

theorem zero_not_mem_encode {text : String} (h : '\x00' ∉ text.toList) : 0 ∉ encode text := by
  intro hzero
  obtain ⟨c, hc, hoctet⟩ := List.mem_flatMap.mp hzero
  refine zero_not_mem_encodeChar ?_ hoctet
  rintro rfl
  exact h hc

/-- A text without a zero is read back from a field that zeros fill up. -/
theorem takeWhile_encode {text : String} (h : '\x00' ∉ text.toList) (count : Nat) :
    (encode text ++ List.replicate count 0).takeWhile (· != 0) = encode text := by
  have hkept : ∀ b ∈ encode text, (b != 0) = true := by
    intro b hb
    rw [bne_iff_ne]
    rintro rfl
    exact zero_not_mem_encode h hb
  rw [List.takeWhile_append_of_pos hkept, List.takeWhile_replicate_eq_filter,
    List.filter_replicate_of_neg (by decide), List.append_nil]

/-- In how many ways octets of six bits each can go on. -/
def ways : Nat → Nat
  | 0 => 1
  | more + 1 => 64 * ways more

namespace Partial

/-- The least number of a character that a state can come to. -/
def least (state : Partial) : Nat :=
  (state.bits * 64 + (state.low.toNat - 0x80)) * ways state.more

/-- A bound to the numbers of the characters that a state can come to. -/
def beyond (state : Partial) : Nat :=
  (state.bits * 64 + (state.high.toNat - 0x80) + 1) * ways state.more

/-- A state comes to characters that there are, and not to the zero character. -/
structure Sound (state : Partial) : Prop where
  least_pos : 0 < state.least
  valid : state.beyond ≤ 0xD800 ∨ 0xE000 ≤ state.least ∧ state.beyond ≤ 0x110000

theorem push_bounds (h : state.admits b = true) :
    state.least ≤ state.push b * ways state.more ∧
      (state.push b + 1) * ways state.more ≤ state.beyond := by
  rw [admits, Bool.and_eq_true, decide_eq_true_eq, decide_eq_true_eq, UInt8.le_iff_toNat_le,
    UInt8.le_iff_toNat_le] at h
  constructor
  · apply Nat.mul_le_mul_right
    unfold push
    omega
  · apply Nat.mul_le_mul_right
    unfold push
    omega

theorem least_tail (bits more : Nat) :
    least ⟨bits, more, 0x80, 0xBF⟩ = bits * ways (more + 1) := by
  have hlow : (0x80 : UInt8).toNat - 0x80 = 0 := by decide
  rw [least, hlow, Nat.add_zero, Nat.mul_assoc, ways]

theorem beyond_tail (bits more : Nat) :
    beyond ⟨bits, more, 0x80, 0xBF⟩ = (bits + 1) * ways (more + 1) := by
  have hhigh : (0xBF : UInt8).toNat - 0x80 = 63 := by decide
  have hbits : bits * 64 + 63 + 1 = (bits + 1) * 64 := by omega
  rw [beyond, hhigh, hbits, Nat.mul_assoc, ways]

theorem Sound.next (h : state.Sound) (hadmits : state.admits b = true) {more : Nat}
    (hmore : state.more = more + 1) : Sound ⟨state.push b, more, 0x80, 0xBF⟩ := by
  obtain ⟨hleast, hbeyond⟩ := push_bounds hadmits
  rw [hmore] at hleast hbeyond
  rw [← least_tail] at hleast
  rw [← beyond_tail] at hbeyond
  have hpos := h.least_pos
  have hvalid := h.valid
  constructor
  · omega
  · omega

theorem Sound.char_ne (h : state.Sound) (hadmits : state.admits b = true)
    (hmore : state.more = 0) : Char.ofNat (state.push b) ≠ '\x00' := by
  obtain ⟨hleast, hbeyond⟩ := push_bounds hadmits
  rw [hmore, ways, Nat.mul_one] at hleast hbeyond
  have hpos := h.least_pos
  have hvalid : (state.push b).isValidChar := by
    rcases h.valid with hlow | ⟨hlow, hhigh⟩
    · exact .inl (by omega)
    · exact .inr ⟨by omega, by omega⟩
  intro hzero
  have hnumber := toNat_ofNat hvalid
  rw [hzero, show Char.toNat '\x00' = 0 from rfl] at hnumber
  omega

end Partial

theorem sound_of_tail {bits more size : Nat} (hsize : ways (more + 1) = size)
    (hpos : 0 < bits * size)
    (hvalid : (bits + 1) * size ≤ 0xD800 ∨ 0xE000 ≤ bits * size ∧ (bits + 1) * size ≤ 0x110000) :
    Partial.Sound ⟨bits, more, 0x80, 0xBF⟩ := by
  subst hsize
  constructor
  · rw [Partial.least_tail]
    exact hpos
  · rw [Partial.least_tail, Partial.beyond_tail]
    exact hvalid

theorem sound_of_lead (h : lead b = .begins state) : state.Sound := by
  unfold lead at h
  dsimp only at h
  repeat' split at h
  all_goals first | obtain rfl := Lead.begins.inj h | exact nomatch h
  -- the first octets in order: those that bound the next one stand alone
  · exact sound_of_tail (show ways 1 = 64 from rfl) (by omega) (by omega)
  · exact ⟨by decide +kernel, .inl (by decide +kernel)⟩
  · exact ⟨by decide +kernel, .inl (by decide +kernel)⟩
  · exact sound_of_tail (show ways 2 = 4096 from rfl) (by omega) (by omega)
  · exact ⟨by decide +kernel, .inr (by decide +kernel)⟩
  · exact sound_of_tail (show ways 3 = 262144 from rfl) (by omega) (by omega)
  · exact ⟨by decide +kernel, .inr (by decide +kernel)⟩

theorem ne_zero_of_lead (hb : b ≠ 0) (h : lead b = .whole c) : c ≠ '\x00' := by
  unfold lead at h
  dsimp only at h
  split at h
  next hone =>
    have hc := Lead.whole.inj h
    intro hzero
    apply hb
    apply UInt8.toNat_inj.mp
    rw [← toNat_ofNat (show b.toNat.isValidChar from .inl (by omega)), hc, hzero]
    rfl
  next =>
    repeat' split at h
    all_goals exact nomatch h

/-- A zero character comes from a zero octet only. -/
theorem zero_not_mem_decodeFrom {state? : Option Partial} (hstate : ∀ state ∈ state?, state.Sound)
    (hdata : 0 ∉ data) : some '\x00' ∉ decodeFrom state? data := by
  have hnone : ∀ state ∈ (none : Option Partial), state.Sound := nofun
  have hsome : ∀ {s : Partial}, s.Sound → ∀ state ∈ some s, state.Sound := by
    rintro s hs _ ⟨⟩
    exact hs
  have hcons : ∀ {c? : Option Char} {cs : List (Option Char)}, c? ≠ some '\x00' →
      some '\x00' ∉ cs → some '\x00' ∉ c? :: cs := by
    intro c? cs hc hcs hmem
    rcases List.mem_cons.mp hmem with rfl | hmem
    · exact hc rfl
    · exact hcs hmem
  fun_induction decodeFrom state? data with
  | case1 => exact List.not_mem_nil
  | case2 => exact hcons (Option.some_ne_none _).symm List.not_mem_nil
  | case3 b rest c hlead ih =>
      obtain ⟨hb, hrest⟩ := List.ne_and_not_mem_of_not_mem_cons hdata
      exact hcons (mt Option.some.inj (ne_zero_of_lead hb.symm hlead)) (ih hnone hrest)
  | case4 b rest state hlead ih =>
      exact ih (hsome (sound_of_lead hlead)) (List.not_mem_of_not_mem_cons hdata)
  | case5 b rest hlead ih =>
      exact hcons (Option.some_ne_none _).symm (ih hnone (List.not_mem_of_not_mem_cons hdata))
  | case6 state b rest hadmits hmore ih =>
      apply hcons
      · exact mt Option.some.inj ((hstate state rfl).char_ne hadmits hmore)
      · exact ih hnone (List.not_mem_of_not_mem_cons hdata)
  | case7 state b rest hadmits more hmore ih =>
      exact ih (hsome ((hstate state rfl).next hadmits hmore)) (List.not_mem_of_not_mem_cons hdata)
  | case8 state b rest hadmits ihnone ihsome =>
      obtain ⟨hb, hrest⟩ := List.ne_and_not_mem_of_not_mem_cons hdata
      refine hcons (Option.some_ne_none _).symm ?_
      -- the octet that does not go on begins anew
      cases hlead : lead b with
      | whole c =>
          exact hcons (mt Option.some.inj (ne_zero_of_lead hb.symm hlead)) (ihnone hnone hrest)
      | begins next => exact ihsome next (hsome (sound_of_lead hlead)) hrest
      | malformed => exact hcons (Option.some_ne_none _).symm (ihnone hnone hrest)

theorem zero_not_mem_decodeLossy (h : 0 ∉ data) : '\x00' ∉ (decodeLossy data).toList := by
  rw [decodeLossy, String.toList_ofList]
  intro hmem
  obtain ⟨c?, hc?, hzero⟩ := List.mem_map.mp hmem
  cases c? with
  | none => exact absurd hzero (by decide)
  | some c =>
      obtain rfl : c = '\x00' := hzero
      have hnot : some '\x00' ∉ decodeFrom none data := zero_not_mem_decodeFrom nofun h
      exact hnot hc?

/-- Octets that are read leave at least one character, if only a mark. -/
theorem decodeFrom_ne_nil {state? : Option Partial} (h : state? ≠ none ∨ data ≠ []) :
    decodeFrom state? data ≠ [] := by
  fun_induction decodeFrom state? data with
  | case1 => exact absurd h (by simp)
  | case4 b rest state hlead ih => exact ih (.inl nofun)
  | case7 state b rest hadmits more hmore ih => exact ih (.inl nofun)
  | case2 | case3 | case5 | case6 | case8 => exact List.cons_ne_nil _ _

theorem decodeLossy_ne_empty (h : data ≠ []) : decodeLossy data ≠ "" := by
  intro hempty
  have hchars := String.ofList_eq_empty_iff.mp hempty
  exact decodeFrom_ne_nil (.inr h) (List.map_eq_nil_iff.mp hchars)

end BootServer.Text.Utf8
