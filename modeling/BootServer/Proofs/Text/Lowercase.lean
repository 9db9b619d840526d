import BootServer.Text.Lowercase

/-!
# Lower case is reached at once

A character that has been lowered is not lowered again, so the lower case of a text is its own lower
case. It has no zero character that the text did not have, and it is empty for the empty text only.

That the images of one run of the case table lie in no run is decided on the bounds of the runs,
two runs at a time, and not on the characters.
-/

namespace BootServer.Text

variable {c d : Char} {before cs : List Char}

namespace CaseRun

variable {run other : CaseRun} {n : Nat}

/-- The numbers of the characters that a run moves. -/
structure Moves (run : CaseRun) (n : Nat) : Prop where
  first_le : run.first ≤ n
  le_last : n ≤ run.last
  step_dvd : (n - run.first) % run.step = 0

/-- The number of the counterpart of a character that a run moves. -/
def image (run : CaseRun) (n : Nat) : Nat := ((n : Int) + run.shift).toNat

theorem lower?_eq_some_iff :
    run.lower? c = some d ↔
      run.Moves c.toNat ∧ d = Char.ofNat (run.image c.toNat) := by
  unfold lower? image
  dsimp only
  split
  next h =>
    simp only [Bool.and_eq_true, decide_eq_true_eq, beq_iff_eq] at h
    constructor
    · intro hd
      exact ⟨⟨h.1.1, h.1.2, h.2⟩, (Option.some.inj hd).symm⟩
    · rintro ⟨-, rfl⟩
      rfl
  next h =>
    constructor
    · nofun
    · rintro ⟨⟨hfirst, hlast, hstep⟩, -⟩
      simp only [Bool.and_eq_true, decide_eq_true_eq, beq_iff_eq] at h
      exact absurd ⟨⟨hfirst, hlast⟩, hstep⟩ h

theorem lower?_eq_none_iff : run.lower? c = none ↔ ¬ run.Moves c.toNat := by
  rw [Option.eq_none_iff_forall_ne_some]
  constructor
  · intro h hmoves
    exact h _ (lower?_eq_some_iff.mpr ⟨hmoves, rfl⟩)
  · intro h d hd
    exact h (lower?_eq_some_iff.mp hd).1

/-- The images of a run are characters, and not the zero character. -/
def imagesValid (run : CaseRun) : Bool :=
  0 < run.first + run.shift &&
    (run.last + run.shift < 0xD800 || 0xE000 ≤ run.first + run.shift) &&
    run.last + run.shift < 0x110000

/-- Do a run's numbers differ by even steps? -/
def isEven (run : CaseRun) : Bool := Nat.beq (run.step % 2) 0 || Nat.beq run.first run.last

/-- Numbers from `low` to `high` lie on one side of a run, or, by even steps, between the numbers
that it moves. -/
def avoids (low high : Nat) (even : Bool) (other : CaseRun) : Bool :=
  Nat.blt high other.first || Nat.blt other.last low ||
    (even && Nat.beq (other.step % 2) 0 && Nat.beq ((low + other.first) % 2) 1)

/-- The images of a run lie outside another one. -/
def apart (run other : CaseRun) : Bool :=
  avoids (run.image run.first) (run.image run.last) run.isEven other

theorem isValidChar_image (hvalid : run.imagesValid) (h : run.Moves n) :
    (run.image n).isValidChar ∧ run.image n ≠ 0 := by
  simp only [imagesValid, Bool.and_eq_true, Bool.or_eq_true, decide_eq_true_eq] at hvalid
  have hfirst := h.first_le
  have hlast := h.le_last
  unfold image
  constructor
  · rcases hvalid.1.2 with hlow | hhigh
    · exact .inl (by omega)
    · exact .inr ⟨by omega, by omega⟩
  · omega

theorem even_of_moves (heven : run.isEven) (h : run.Moves n) : (n - run.first) % 2 = 0 := by
  rw [isEven, Bool.or_eq_true, Nat.beq_eq, Nat.beq_eq] at heven
  rcases heven with hstep | hone
  · exact Nat.mod_eq_zero_of_dvd
      (Nat.dvd_trans (Nat.dvd_of_mod_eq_zero hstep) (Nat.dvd_of_mod_eq_zero h.step_dvd))
  · have hfirst := h.first_le
    have hlast := h.le_last
    omega

theorem not_moves_image (hvalid : run.imagesValid) (hapart : run.apart other)
    (h : run.Moves n) : ¬ other.Moves (run.image n) := by
  intro hother
  have hfirst := h.first_le
  have hlast := h.le_last
  have hfirst' := hother.first_le
  have hlast' := hother.le_last
  simp only [apart, avoids, Bool.or_eq_true, Bool.and_eq_true, Nat.blt_eq, Nat.beq_eq] at hapart
  rcases hapart with (hbelow | habove) | ⟨⟨heven, hstep⟩, hparity⟩
  · unfold image at *
    omega
  · unfold image at *
    omega
  · have hn := even_of_moves heven h
    have hm : (run.image n - other.first) % 2 = 0 := by
      apply even_of_moves _ hother
      rw [isEven, Bool.or_eq_true, Nat.beq_eq]
      exact .inl hstep
    simp only [imagesValid, Bool.and_eq_true, decide_eq_true_eq] at hvalid
    unfold image at *
    omega

end CaseRun

/-! ## The table -/

/-- The dotted capital I, which has a counterpart of two characters, as a run of its own. -/
def dottedRun : CaseRun := ⟨0x0130, 0x0130, 1, 0⟩

theorem imagesValid_caseRuns : ∀ run ∈ caseRuns, run.imagesValid := by decide +kernel

theorem apart_caseRuns :
    (caseRuns.all fun run => (dottedRun :: caseRuns).all run.apart) = true := by
  decide +kernel

/-- A character that stays as it is, wherever it stands. -/
structure Settled (c : Char) : Prop where
  ne_sigma : c ≠ 'Σ'
  lower : lowerChar c = [c]

theorem settled_of_not_moves (h : ∀ run ∈ dottedRun :: caseRuns, ¬ run.Moves c.toNat) :
    Settled c := by
  constructor
  · rintro rfl
    have hsigma : ∃ run ∈ caseRuns, (run.lower? 'Σ').isSome := by decide +kernel
    obtain ⟨run, hrun, hsome⟩ := hsigma
    rw [CaseRun.lower?_eq_none_iff.mpr (h run (List.mem_cons_of_mem _ hrun))] at hsome
    exact nomatch hsome
  · have hdotted : c ≠ '\u0130' := by
      rintro rfl
      exact h dottedRun List.mem_cons_self ⟨Nat.le_refl _, Nat.le_refl _, rfl⟩
    have hlatin : ¬ (0x41 ≤ c.toNat ∧ c.toNat ≤ 0x5A) := by
      rintro ⟨hfirst, hlast⟩
      exact h ⟨0x41, 0x5A, 1, 32⟩ (List.mem_cons_of_mem _ List.mem_cons_self)
        ⟨hfirst, hlast, Nat.mod_one _⟩
    unfold lowerChar
    split
    next =>
      unfold Char.toLower
      split
      next hupper => exact absurd hupper hlatin
      next => rfl
    next =>
      have hnone : (caseRuns.findSome? fun run => run.lower? c) = none := by
        rw [List.findSome?_eq_none_iff]
        intro run hrun
        exact CaseRun.lower?_eq_none_iff.mpr (h run (List.mem_cons_of_mem _ hrun))
      rw [hnone, Option.getD_none]

/-- The images of the table stay as they are. -/
theorem settled_of_lower? {run : CaseRun} (hrun : run ∈ caseRuns) (h : run.lower? c = some d) :
    Settled d ∧ d ≠ '\x00' := by
  obtain ⟨hmoves, rfl⟩ := CaseRun.lower?_eq_some_iff.mp h
  obtain ⟨hchar, hzero⟩ := CaseRun.isValidChar_image (imagesValid_caseRuns run hrun) hmoves
  have himage := toNat_ofNat hchar
  constructor
  · apply settled_of_not_moves
    intro other hother
    rw [himage]
    have hapart := List.all_eq_true.mp (List.all_eq_true.mp apart_caseRuns run hrun) other hother
    exact CaseRun.not_moves_image (imagesValid_caseRuns run hrun) hapart hmoves
  · intro hnul
    rw [hnul] at himage
    exact hzero himage.symm

theorem settled_ascii : ∀ n < 0x80, lowerChar ((Char.ofNat n).toLower) = [(Char.ofNat n).toLower] ∧
    (Char.ofNat n).toLower ≠ 'Σ' ∧ ((Char.ofNat n).toLower = '\x00' → n = 0) := by
  decide +kernel

theorem settled_of_mem_lowerChar (hc : c ≠ 'Σ') (hd : d ∈ lowerChar c) :
    Settled d ∧ (d = '\x00' → c = '\x00') := by
  unfold lowerChar at hd
  split at hd
  next hascii =>
    obtain ⟨hlower, hsigma, hzero⟩ := settled_ascii c.toNat hascii
    obtain rfl := List.mem_singleton.mp hd
    rw [Char.ofNat_toNat] at hlower hsigma hzero
    refine ⟨⟨hsigma, hlower⟩, fun h => ?_⟩
    rw [← Char.ofNat_toNat c, hzero h]
  next hascii =>
    split at hd
    next =>
      rcases List.mem_cons.mp hd with rfl | hd
      · exact ⟨⟨by decide, by decide +kernel⟩, fun h => absurd h (by decide)⟩
      · obtain rfl := List.mem_singleton.mp hd
        exact ⟨⟨by decide, by decide +kernel⟩, fun h => absurd h (by decide)⟩
    next hdotted =>
      obtain rfl := List.mem_singleton.mp hd
      cases hrun : caseRuns.findSome? fun run => run.lower? c with
      | none =>
          rw [Option.getD_none]
          refine ⟨⟨hc, ?_⟩, id⟩
          rw [lowerChar, if_neg hascii, if_neg hdotted, hrun, Option.getD_none]
      | some d =>
          obtain ⟨run, hmem, hlower⟩ := List.exists_of_findSome?_eq_some hrun
          obtain ⟨hsettled, hzero⟩ := settled_of_lower? hmem hlower
          exact ⟨hsettled, fun h => absurd h hzero⟩

/-! ## Texts -/

theorem settled_of_mem_lowerFrom (hd : d ∈ lowerFrom before cs) :
    Settled d ∧ (d = '\x00' → '\x00' ∈ cs) := by
  have hsmall : Settled 'σ' ∧ Settled 'ς' :=
    ⟨⟨by decide, by decide +kernel⟩, ⟨by decide, by decide +kernel⟩⟩
  induction cs generalizing before with
  | nil => exact nomatch hd
  | cons c rest ih =>
      rw [lowerFrom] at hd
      rcases List.mem_append.mp hd with hd | hd
      · split at hd
        next =>
          obtain rfl := List.mem_singleton.mp hd
          split
          next => exact ⟨hsmall.2, fun h => absurd h (by decide)⟩
          next => exact ⟨hsmall.1, fun h => absurd h (by decide)⟩
        next hc =>
          obtain ⟨hsettled, hzero⟩ := settled_of_mem_lowerChar hc hd
          exact ⟨hsettled, fun h => List.mem_cons.mpr (.inl (hzero h).symm)⟩
      · obtain ⟨hsettled, hzero⟩ := ih hd
        exact ⟨hsettled, fun h => List.mem_cons_of_mem c (hzero h)⟩

theorem lowerFrom_eq_self (h : ∀ c ∈ cs, Settled c) : lowerFrom before cs = cs := by
  induction cs generalizing before with
  | nil => rfl
  | cons c rest ih =>
      obtain ⟨hsigma, hlower⟩ := h c List.mem_cons_self
      rw [lowerFrom, if_neg hsigma, hlower, ih fun d hd => h d (List.mem_cons_of_mem c hd),
        List.singleton_append]

theorem lowercase_lowercase (text : String) : lowercase (lowercase text) = lowercase text := by
  rw [lowercase, lowercase, String.toList_ofList]
  rw [lowerFrom_eq_self fun d hd => (settled_of_mem_lowerFrom hd).1]

theorem zero_not_mem_lowercase {text : String} (h : '\x00' ∉ text.toList) :
    '\x00' ∉ (lowercase text).toList := by
  rw [lowercase, String.toList_ofList]
  intro hmem
  exact h ((settled_of_mem_lowerFrom hmem).2 rfl)

theorem lowerChar_ne_nil (c : Char) : lowerChar c ≠ [] := by
  unfold lowerChar
  repeat' split
  all_goals exact List.cons_ne_nil _ _

theorem lowercase_ne_empty {text : String} (h : text ≠ "") : lowercase text ≠ "" := by
  intro hempty
  have hchars := String.ofList_eq_empty_iff.mp hempty
  cases htext : text.toList with
  | nil => exact h (String.toList_inj.mp htext)
  | cons c rest =>
      rw [htext, lowerFrom, List.append_eq_nil_iff] at hchars
      have hfirst := hchars.1
      split at hfirst
      next => exact List.cons_ne_nil _ _ hfirst
      next => exact lowerChar_ne_nil c hfirst

end BootServer.Text
