/-!
# Cutting and trimming texts

`split` cuts at every separator and keeps empty pieces, so joining the pieces gives the text back.
-/

namespace BootServer.Text

/-- The pieces between the elements that pass the test, empty ones included. -/
def split {α : Type} (isSeparator : α → Bool) : List α → List (List α)
  | [] => [[]]
  | c :: rest =>
    if isSeparator c then [] :: split isSeparator rest
    else match split isSeparator rest with
      | [] => [[c]]
      | piece :: pieces => (c :: piece) :: pieces

/-- The pieces with one separator between two neighbours. -/
def join (separator : List Char) : List (List Char) → List Char
  | [] => []
  | [piece] => piece
  | piece :: next :: pieces => piece ++ separator ++ join separator (next :: pieces)

def cutAt? (mark : Char) : List Char → Option (List Char × List Char)
  | [] => none
  | c :: rest =>
    if c = mark then some ([], rest)
    else (cutAt? mark rest).map fun parts => (c :: parts.1, parts.2)

/-- The list without its longest tail of elements that pass the test. -/
def dropTrailing (test : Char → Bool) (cs : List Char) : List Char :=
  (cs.reverse.dropWhile test).reverse

theorem split_ne_nil {α : Type} (isSeparator : α → Bool) (cs : List α) :
    split isSeparator cs ≠ [] := by
  cases cs with
  | nil => simp [split]
  | cons c rest =>
    simp only [split]
    split
    · simp
    · split <;> simp

section

variable {α : Type} {isSeparator : α → Bool} {cs : List α}

theorem split_append_cons {c : α} (hc : isSeparator c) (front rest : List α) :
    split isSeparator (front ++ c :: rest) = split isSeparator front ++ split isSeparator rest := by
  induction front with
  | nil => simp [split, hc]
  | cons d front ih =>
    simp only [List.cons_append, split, ih]
    split
    · rfl
    · cases hfront : split isSeparator front with
      | nil => exact absurd hfront (split_ne_nil isSeparator front)
      | cons piece pieces => rfl

theorem split_of_forall_not (h : ∀ c ∈ cs, ¬ isSeparator c) : split isSeparator cs = [cs] := by
  induction cs with
  | nil => rfl
  | cons c rest ih =>
    simp [split, h c List.mem_cons_self, ih fun d hd => h d (List.mem_cons_of_mem c hd)]

theorem split_congr {other : α → Bool} (h : ∀ c ∈ cs, isSeparator c = other c) :
    split isSeparator cs = split other cs := by
  induction cs with
  | nil => rfl
  | cons c rest ih =>
    rw [split, split, h c List.mem_cons_self, ih fun d hd => h d (List.mem_cons_of_mem c hd)]

theorem not_isSeparator_of_mem_split {piece : List α} (h : piece ∈ split isSeparator cs) :
    ∀ c ∈ piece, ¬ isSeparator c := by
  induction cs generalizing piece with
  | nil => simp_all [split]
  | cons c rest ih =>
    rw [split] at h
    split at h
    · rcases List.mem_cons.mp h with rfl | h
      · simp
      · exact ih h
    · cases hrest : split isSeparator rest with
      | nil => exact absurd hrest (split_ne_nil isSeparator rest)
      | cons first pieces => grind

theorem mem_of_mem_split {piece : List α} {c : α} (h : piece ∈ split isSeparator cs)
    (hc : c ∈ piece) : c ∈ cs := by
  induction cs generalizing piece with
  | nil => simp_all [split]
  | cons d rest ih =>
    rw [split] at h
    split at h
    · rcases List.mem_cons.mp h with rfl | h
      · exact nomatch hc
      · exact List.mem_cons_of_mem d (ih h hc)
    · cases hrest : split isSeparator rest with
      | nil => exact absurd hrest (split_ne_nil isSeparator rest)
      | cons first pieces => grind

end

/-! ### Joining -/

section

variable {c separator : Char} {pieces : List (List Char)}

theorem mem_join (h : c ∈ join [separator] pieces) :
    c = separator ∨ ∃ piece ∈ pieces, c ∈ piece := by
  fun_induction join [separator] pieces with
  | case1 => exact nomatch h
  | case2 piece => exact .inr ⟨piece, List.mem_cons_self, h⟩
  | case3 piece next pieces ih =>
      rw [List.append_assoc, List.mem_append, List.singleton_append, List.mem_cons] at h
      rcases h with h | rfl | h
      · exact .inr ⟨piece, List.mem_cons_self, h⟩
      · exact .inl rfl
      · rcases ih h with rfl | ⟨other, hother, hc⟩
        · exact .inl rfl
        · exact .inr ⟨other, List.mem_cons_of_mem _ hother, hc⟩

theorem split_join (hne : pieces ≠ []) (h : ∀ piece ∈ pieces, separator ∉ piece) :
    split (· == separator) (join [separator] pieces) = pieces := by
  have hpiece : ∀ piece ∈ pieces, split (· == separator) piece = [piece] := by
    intro piece hpiece
    apply split_of_forall_not
    intro c hc hsep
    exact h piece hpiece (beq_iff_eq.mp hsep ▸ hc)
  fun_induction join [separator] pieces with
  | case1 => exact absurd rfl hne
  | case2 piece => exact hpiece piece List.mem_cons_self
  | case3 piece next pieces ih =>
      rw [List.append_assoc, List.singleton_append, split_append_cons (by simp),
        hpiece piece List.mem_cons_self, List.singleton_append]
      rw [ih (List.cons_ne_nil _ _) (fun p hp => h p (List.mem_cons_of_mem _ hp))
        (fun p hp => hpiece p (List.mem_cons_of_mem _ hp))]

theorem prefix_join (marks piece : List Char) (pieces : List (List Char)) :
    piece <+: join marks (piece :: pieces) := by
  cases pieces with
  | nil => exact List.prefix_rfl
  | cons next pieces =>
      rw [join, List.append_assoc]
      exact List.prefix_append piece _

theorem length_le_length_join {marks : List Char} (h : ∀ piece ∈ pieces, piece ≠ []) :
    pieces.length ≤ (join marks pieces).length := by
  fun_induction join marks pieces with
  | case1 => exact Nat.le_refl 0
  | case2 piece => exact List.length_pos_iff.mpr (h piece List.mem_cons_self)
  | case3 piece next pieces ih =>
      obtain ⟨hpiece, hrest⟩ := List.forall_mem_cons.mp h
      have hpos := List.length_pos_iff.mpr hpiece
      have hle := ih hrest
      rw [List.length_cons, List.length_append, List.length_append]
      omega

end

/-! ### Cutting once -/

section

variable {mark : Char} {cs front rest : List Char}

theorem cutAt?_append (h : mark ∉ front) (rest : List Char) :
    cutAt? mark (front ++ mark :: rest) = some (front, rest) := by
  induction front with
  | nil => exact if_pos rfl
  | cons c front ih =>
      obtain ⟨hc, hfront⟩ := List.ne_and_not_mem_of_not_mem_cons h
      rw [List.cons_append, cutAt?, if_neg hc.symm, ih hfront, Option.map_some]

theorem eq_of_cutAt? (h : cutAt? mark cs = some (front, rest)) : cs = front ++ mark :: rest := by
  induction cs generalizing front with
  | nil => exact nomatch h
  | cons c cs ih =>
      rw [cutAt?] at h
      split at h
      next hc =>
        obtain ⟨rfl, rfl⟩ := Prod.mk.inj (Option.some.inj h)
        rw [hc, List.nil_append]
      next =>
        obtain ⟨⟨front', rest'⟩, hcut, heq⟩ := Option.map_eq_some_iff.mp h
        obtain ⟨rfl, rfl⟩ := Prod.mk.inj heq
        rw [ih hcut, List.cons_append]

theorem not_mem_of_cutAt? (h : cutAt? mark cs = some (front, rest)) : mark ∉ front := by
  induction cs generalizing front with
  | nil => exact nomatch h
  | cons c cs ih =>
      rw [cutAt?] at h
      split at h
      next =>
        obtain ⟨rfl, -⟩ := Prod.mk.inj (Option.some.inj h)
        exact List.not_mem_nil
      next hc =>
        obtain ⟨⟨front', rest'⟩, hcut, heq⟩ := Option.map_eq_some_iff.mp h
        obtain ⟨rfl, rfl⟩ := Prod.mk.inj heq
        exact List.not_mem_cons_of_ne_of_not_mem (Ne.symm hc) (ih hcut)

end

end BootServer.Text
