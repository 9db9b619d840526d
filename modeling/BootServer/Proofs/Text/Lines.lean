import BootServer.Text.Blank
import BootServer.Text.Decimal
import BootServer.Text.Lines

/-!
# Trimmed lines

Trimming leaves a text alone exactly when no blank stands at its ends, and a trimmed text is such a
one. Lines that each end with a line feed, hold none and do not end in a carriage return are read
back as they were.
-/

namespace BootServer.Text

variable {cs line : List Char}

/-! ## Trimming -/

theorem dropWhile_eq_self {test : Char → Bool} (h : ∀ c ∈ cs.head?, test c = false) :
    cs.dropWhile test = cs := by
  cases cs with
  | nil => rfl
  | cons c rest => rw [List.dropWhile_cons, h c rfl]; rfl

theorem not_head?_dropWhile (test : Char → Bool) (cs : List Char) :
    ∀ c ∈ (cs.dropWhile test).head?, test c = false := by
  intro c hc
  have hfirst := List.head?_dropWhile_not test cs
  rw [Option.mem_def.mp hc] at hfirst
  exact hfirst

theorem dropTrailing_eq_self {test : Char → Bool} (h : ∀ c ∈ cs.getLast?, test c = false) :
    dropTrailing test cs = cs := by
  rw [dropTrailing, dropWhile_eq_self, List.reverse_reverse]
  rw [List.head?_reverse]
  exact h

theorem not_getLast?_dropTrailing (test : Char → Bool) (cs : List Char) :
    ∀ c ∈ (dropTrailing test cs).getLast?, test c = false := by
  rw [dropTrailing, List.getLast?_reverse]
  exact not_head?_dropWhile test cs.reverse

theorem isPrefix_dropTrailing (test : Char → Bool) (cs : List Char) :
    dropTrailing test cs <+: cs := by
  rw [dropTrailing, ← List.reverse_suffix, List.reverse_reverse]
  exact List.dropWhile_suffix test

/-- No blank stands at either end. -/
structure NoBlankEnds (cs : List Char) : Prop where
  head : ∀ c ∈ cs.head?, isBlank c = false
  last : ∀ c ∈ cs.getLast?, isBlank c = false

theorem NoBlankEnds.trim_eq (h : NoBlankEnds cs) : trim cs = cs := by
  rw [trim, dropWhile_eq_self h.head, dropTrailing_eq_self h.last]

theorem noBlankEnds_trim (cs : List Char) : NoBlankEnds (trim cs) := by
  constructor
  · intro c hc
    apply not_head?_dropWhile isBlank cs
    -- what is kept of a text starts as the text does
    obtain ⟨tail, htail⟩ := isPrefix_dropTrailing isBlank (cs.dropWhile isBlank)
    rw [← htail, List.head?_append]
    rw [trim] at hc
    rw [Option.mem_def.mp hc]
    rfl
  · exact not_getLast?_dropTrailing isBlank _

theorem noBlankEnds_of_forall (h : ∀ c ∈ cs, isBlank c = false) : NoBlankEnds cs := by
  constructor
  · exact fun c hc => h c (List.mem_of_mem_head? hc)
  · exact fun c hc => h c (List.mem_of_mem_getLast? hc)

theorem isInfix_trim (cs : List Char) : trim cs <:+: cs :=
  (isPrefix_dropTrailing isBlank _).isInfix.trans (List.dropWhile_suffix isBlank).isInfix

theorem isBlank_of_isDigit {c : Char} (h : isDigit c = true) : isBlank c = false := by
  have hbounds : 48 ≤ c.toNat ∧ c.toNat ≤ 57 := by
    rw [isDigit, Bool.and_eq_true, decide_eq_true_eq, decide_eq_true_eq] at h
    exact h
  unfold isBlank
  simp only [Bool.or_eq_false_iff, Bool.and_eq_false_imp, beq_eq_false_iff_ne, decide_eq_true_eq,
    decide_eq_false_iff_not]
  omega

/-! ## Lines -/

theorem dropReturn_eq_self (h : line.getLast? ≠ some '\r') : dropReturn line = line := if_neg h

theorem isPrefix_dropReturn (line : List Char) : dropReturn line <+: line := by
  unfold dropReturn
  split
  next => exact List.dropLast_prefix line
  next => exact List.prefix_rfl

theorem feed_not_mem_of_mem_lines (h : line ∈ lines cs) : '\n' ∉ line := by
  have hpieces : ∀ piece ∈ split (· == '\n') cs, '\n' ∉ piece := by
    intro piece hpiece hfeed
    exact not_isSeparator_of_mem_split hpiece '\n' hfeed rfl
  unfold lines at h
  rcases List.mem_append.mp h with h | h
  · obtain ⟨piece, hpiece, rfl⟩ := List.mem_map.mp h
    intro hfeed
    exact hpieces piece (List.dropLast_subset _ hpiece) ((isPrefix_dropReturn piece).subset hfeed)
  · split at h
    next => exact nomatch h
    next hlast =>
      obtain rfl := List.mem_singleton.mp h
      apply hpieces
      rw [List.getLastD_eq_getLast?, List.getLast?_eq_some_getLast (split_ne_nil _ _)]
      exact List.getLast_mem _

/-- Lines with their ends are read back. -/
theorem lines_flatMap {list : List (List Char)} (hfeed : ∀ line ∈ list, '\n' ∉ line)
    (hreturn : ∀ line ∈ list, line.getLast? ≠ some '\r') :
    lines (list.flatMap (· ++ ['\n'])) = list := by
  have hsplit : split (· == '\n') (list.flatMap (· ++ ['\n'])) = list ++ [[]] := by
    clear hreturn
    induction list with
    | nil => rfl
    | cons line list ih =>
        have hline : ∀ c ∈ line, ¬ (c == '\n') = true := by
          intro c hc hc'
          exact hfeed line List.mem_cons_self (beq_iff_eq.mp hc' ▸ hc)
        rw [List.flatMap_cons, List.append_assoc, List.singleton_append,
          split_append_cons (by rfl), split_of_forall_not hline,
          ih fun l hl => hfeed l (List.mem_cons_of_mem _ hl), List.singleton_append,
          List.cons_append]
  have hmap : list.map dropReturn = list := by
    rw [List.map_congr_left fun line hline => dropReturn_eq_self (hreturn line hline)]
    exact List.map_id' list
  unfold lines
  dsimp only
  rw [hsplit, List.dropLast_concat, hmap, List.getLastD_concat]
  exact List.append_nil list

/-! ## Texts of one line -/

/-- A text that can stand on a line of its own and is not changed by trimming. -/
structure OneLine (text : String) : Prop where
  no_feed : '\n' ∉ text.toList
  ends : NoBlankEnds text.toList

theorem oneLine_iff {text : String} :
    OneLine text ↔ '\n' ∉ text.toList ∧ trim text.toList = text.toList := by
  constructor
  · exact fun h => ⟨h.no_feed, h.ends.trim_eq⟩
  · rintro ⟨hfeed, htrim⟩
    refine ⟨hfeed, ?_⟩
    rw [← htrim]
    exact noBlankEnds_trim text.toList

theorem oneLine_of_forall {text : String} (h : ∀ c ∈ text.toList, isBlank c = false) :
    OneLine text := by
  constructor
  · intro hfeed
    exact absurd (h '\n' hfeed) (by decide)
  · exact noBlankEnds_of_forall h

theorem oneLine_of_all {text : String} (h : (text.toList.all fun c => !isBlank c) = true) :
    OneLine text := by
  apply oneLine_of_forall
  intro c hc
  have hblank := List.all_eq_true.mp h c hc
  exact Bool.not_eq_true' (isBlank c) ▸ hblank

theorem oneLine_trim (h : '\n' ∉ cs) : OneLine (String.ofList (trim cs)) := by
  constructor
  · rw [String.toList_ofList]
    exact fun hfeed => h ((isInfix_trim cs).subset hfeed)
  · rw [String.toList_ofList]
    exact noBlankEnds_trim cs

end BootServer.Text
