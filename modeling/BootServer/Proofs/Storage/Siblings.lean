import BootServer.Config.Storage
import BootServer.Proofs.Storage.Paths

/-!
# Paths with another extension

A path with a file name at its end is a text up to a slash and that name behind it. Another extension
changes the name only, so the path so made is that of a sibling, and it is the path itself if the
sibling has the same name.
-/

namespace BootServer.Path

variable {path : String} {front last name stem ext : List Char}

/-- A component stands at the end of a path, behind a slash or nothing. -/
structure EndsIn (path : String) (front last : List Char) : Prop where
  toList_eq : path.toList = front ++ last
  front_eq : front = [] ∨ ∃ rest, front = rest ++ ['/']
  ne_nil : last ≠ []
  slash_not_mem : '/' ∉ last

theorem exists_endsIn (hne : path ≠ "") (hslash : endsInSlash path = false) :
    ∃ front last, EndsIn path front last := by
  by_cases hmem : '/' ∈ path.toList
  · obtain ⟨last, rest, hreverse, hlast⟩ := List.eq_append_cons_of_mem (List.mem_reverse.mpr hmem)
    have hpath : path.toList = rest.reverse ++ ['/'] ++ last.reverse := by
      rw [← List.reverse_reverse path.toList, hreverse]
      simp
    refine ⟨rest.reverse ++ ['/'], last.reverse, hpath, .inr ⟨rest.reverse, rfl⟩, ?_, ?_⟩
    · intro hnil
      rw [hnil, List.append_nil] at hpath
      rw [endsInSlash, hpath, List.getLast?_concat] at hslash
      cases hslash
    · exact fun h => hlast (List.mem_reverse.mp h)
  · refine ⟨[], path.toList, rfl, .inl rfl, ?_, hmem⟩
    exact fun hnil => hne (String.toList_eq_nil_iff.mp hnil)

namespace EndsIn

theorem not_isSeparator (h : EndsIn path front last) : ∀ c ∈ last, ¬ (c == '/') = true :=
  fun _ hc hslash => h.slash_not_mem (beq_iff_eq.mp hslash ▸ hc)

theorem split_eq (h : EndsIn path front last) :
    ∃ pieces, Text.split (· == '/') path.toList = pieces ++ [last] := by
  have hlast := Text.split_of_forall_not h.not_isSeparator
  rcases h.front_eq with rfl | ⟨rest, rfl⟩
  · exact ⟨[], by rw [h.toList_eq, List.nil_append, hlast, List.nil_append]⟩
  · refine ⟨Text.split (· == '/') rest, ?_⟩
    rw [h.toList_eq, List.append_assoc, List.singleton_append, Text.split_append_cons (by rfl), hlast]

theorem getLast?_components (h : EndsIn path front last) :
    (components path).getLast? = some (String.ofList last) := by
  obtain ⟨pieces, hsplit⟩ := h.split_eq
  have hkept : [last].filter (!·.isEmpty) = [last] := by simp [h.ne_nil]
  rw [components, hsplit, List.filter_append, hkept, List.map_append, List.map_singleton,
    List.getLast?_concat]

/-- Nothing follows the file name. -/
theorem body_eq (h : EndsIn path front last) (hdot : last ≠ ['.']) : body path = path.toList := by
  have hkept : dropTail (last.reverse ++ front.reverse) = last.reverse ++ front.reverse := by
    cases hreverse : last.reverse with
    | nil => exact absurd (List.reverse_eq_nil_iff.mp hreverse) h.ne_nil
    | cons c cs =>
        have hslash : ∀ d ∈ c :: cs, d ≠ '/' := by
          rintro d hd rfl
          exact h.slash_not_mem (List.mem_reverse.mp (hreverse ▸ hd))
        cases cs with
        | nil =>
            have hc : c ≠ '.' := by
              rintro rfl
              exact hdot (List.reverse_eq_iff.mp hreverse)
            have hne := hslash c List.mem_cons_self
            simp [dropTail, hc, hne]
        | cons d cs =>
            have hne := hslash c List.mem_cons_self
            have hnext := hslash d (List.mem_cons_of_mem c List.mem_cons_self)
            simp [dropTail, hne, hnext]
  rw [body, h.toList_eq, List.reverse_append, hkept, List.reverse_append, List.reverse_reverse,
    List.reverse_reverse]

theorem fileName?_eq (h : EndsIn path front last) (hdot : last ≠ ['.']) :
    fileName? path = if last = ['.', '.'] then none else some last := by
  obtain ⟨pieces, hsplit⟩ := h.split_eq
  unfold fileName?
  dsimp only
  rw [h.body_eq hdot, hsplit, List.getLastD_concat]
  simp [h.ne_nil, hdot]

end EndsIn

/-! ## Extensions -/

theorem stemAndExtension_none (h : stemAndExtension name = (stem, none)) : stem = name := by
  unfold stemAndExtension at h
  dsimp only at h
  split at h
  next =>
    split at h
    next => exact (Prod.mk.inj h).1.symm
    next => exact nomatch (Prod.mk.inj h).2
  next => exact (Prod.mk.inj h).1.symm

theorem stemAndExtension_some (h : stemAndExtension name = (stem, some ext)) :
    name = stem ++ '.' :: ext ∧ stem ≠ [] := by
  unfold stemAndExtension at h
  dsimp only at h
  split at h
  next dot before hbefore =>
    split at h
    next => exact nomatch (Prod.mk.inj h).2
    next hfilled =>
      obtain ⟨rfl, hext⟩ := Prod.mk.inj h
      obtain rfl := Option.some.inj hext
      obtain rfl : dot = '.' := by
        have hfirst := List.head?_dropWhile_not (· != '.') name.reverse
        rw [hbefore] at hfirst
        simpa using hfirst
      have hreverse : name.reverse = name.reverse.takeWhile (· != '.') ++ '.' :: before := by
        rw [← hbefore, List.takeWhile_append_dropWhile]
      have hname := congrArg List.reverse hreverse
      rw [List.reverse_reverse, List.reverse_append, List.reverse_cons, List.append_assoc] at hname
      exact ⟨hname, by simpa using hfilled⟩
  next => exact nomatch (Prod.mk.inj h).2

theorem stemAndExtension_concat (h : stem ≠ []) :
    stemAndExtension (stem ++ ['.']) = (stem, some []) := by
  simp [stemAndExtension, h]

/-- What stands behind the slash changes, and nothing before it. -/
theorem EndsIn.setExtension_eq (h : EndsIn path front last) (hdot : last ≠ ['.'])
    (hdots : last ≠ ['.', '.']) (extension : String) :
    setExtension path extension =
      String.ofList (front ++ (stemAndExtension last).1) ++ "." ++ extension := by
  have htake : path.toList.take (path.toList.length - last.length) = front := by
    rw [h.toList_eq, List.length_append, Nat.add_sub_cancel, List.take_left]
  unfold setExtension
  dsimp only
  rw [h.fileName?_eq hdot, if_neg hdots]
  dsimp only
  rw [h.body_eq hdot, htake]

/-- A stem of the last component with another extension. -/
theorem EndsIn.extended {extension : String} (h : EndsIn path front last)
    (hstem : ∀ c ∈ stem, c ∈ last) (hslash : '/' ∉ extension.toList) :
    EndsIn (String.ofList (front ++ stem) ++ "." ++ extension) front
      (stem ++ '.' :: extension.toList) where
  toList_eq := by simp
  front_eq := h.front_eq
  ne_nil := List.append_ne_nil_of_right_ne_nil _ (List.cons_ne_nil _ _)
  slash_not_mem := by
    intro hmem
    rcases List.mem_append.mp hmem with hmem | hmem
    · exact h.slash_not_mem (hstem '/' hmem)
    · rcases List.mem_cons.mp hmem with hmem | hmem
      · exact absurd hmem (by decide)
      · exact hslash hmem

/-- A path without as many characters as its extension has. -/
theorem EndsIn.cut (h : EndsIn path front (stem ++ '.' :: ext)) :
    EndsIn (String.ofList (path.toList.take (path.toList.length - (String.ofList ext).length))) front
      (stem ++ ['.']) where
  toList_eq := by
    have hsplit : front ++ (stem ++ '.' :: ext) = front ++ (stem ++ ['.']) ++ ext := by simp
    rw [String.toList_ofList, String.length_ofList, h.toList_eq, hsplit, List.length_append,
      Nat.add_sub_cancel, List.take_left]
  front_eq := h.front_eq
  ne_nil := by simp
  slash_not_mem := by
    intro hmem
    apply h.slash_not_mem
    rcases List.mem_append.mp hmem with hmem | hmem
    · exact List.mem_append_left _ hmem
    · exact absurd (List.mem_singleton.mp hmem) (by decide)

/-- The name of the sibling with another extension. -/
theorem EndsIn.withExtension (h : EndsIn path front last) (hdot : last ≠ ['.'])
    (hdots : last ≠ ['.', '.']) {extension : String} (hslash : '/' ∉ extension.toList) :
    ∃ name, EndsIn (withExtension path extension) front name := by
  unfold Path.withExtension extension?
  rw [h.fileName?_eq hdot, if_neg hdots, Option.bind_some]
  generalize hparts : stemAndExtension last = parts
  obtain ⟨stem, ext?⟩ := parts
  cases ext? with
  | none =>
      obtain rfl := stemAndExtension_none hparts
      refine ⟨stem ++ '.' :: extension.toList, ?_⟩
      simp only [Option.map_none]
      rw [h.setExtension_eq hdot hdots, hparts]
      exact h.extended (fun _ hc => hc) hslash
  | some ext =>
      obtain ⟨rfl, hstem⟩ := stemAndExtension_some hparts
      have hcut := h.cut
      have hcutDot : stem ++ ['.'] ≠ ['.'] := by simp [hstem]
      simp only [Option.map_some]
      -- the path up to its last dot ends in a name again, or in two dots
      by_cases hup : stem ++ ['.'] = ['.', '.']
      · refine ⟨stem ++ ['.'], ?_⟩
        rw [setExtension, hcut.fileName?_eq hcutDot, if_pos hup]
        exact hcut
      · refine ⟨stem ++ '.' :: extension.toList, ?_⟩
        rw [hcut.setExtension_eq hcutDot hup, stemAndExtension_concat hstem]
        exact h.extended (fun _ hc => List.mem_append_left _ hc) hslash

end BootServer.Path

namespace BootServer.Config

variable {path : String}

/-- A sibling with the name of the path is the path. -/
theorem temporaryPath_eq_self {name : String} (hslash : Path.endsInSlash path = false)
    (hname : (Path.components path).getLast? = some name) (hdot : name ≠ ".") (hdots : name ≠ "..")
    (h : (Path.components (temporaryPath path)).getLast? = some name) :
    temporaryPath path = path := by
  have hne : path ≠ "" := by
    rintro rfl
    exact nomatch hname
  obtain ⟨front, last, hpath⟩ := Path.exists_endsIn hne hslash
  obtain rfl : String.ofList last = name :=
    Option.some.inj (hpath.getLast?_components.symm.trans hname)
  obtain ⟨sibling, hsibling⟩ : ∃ sibling, Path.EndsIn (temporaryPath path) front sibling :=
    hpath.withExtension (fun hlast => hdot (hlast ▸ rfl)) (fun hlast => hdots (hlast ▸ rfl))
      (by decide)
  have hsame : sibling = last :=
    String.ofList_injective (Option.some.inj (hsibling.getLast?_components.symm.trans h))
  apply String.toList_injective
  rw [hsibling.toList_eq, hpath.toList_eq, hsame]

end BootServer.Config
