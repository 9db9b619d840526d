import BootServer.Proofs.Tftp.Confinement
import Mathlib.Data.List.Forall2

/-!
# Canonical paths

Going along a path changes a list of components part by part, so what stands before a separator
matters only through the components that it leads to. Hence the canonical form of a path can be put
in its place, and a marker leads to the same place from the directory as it was written and from its
canonical components.
-/

namespace BootServer.Tftp

/-- The components after going along a path from others. -/
def along (names : List String) (path : String) : List String :=
  (Text.split isSeparator path.toList).foldl enter names

variable {names : List String} {name path other : String}

theorem along_nil (path : String) : along [] path = canonical path := rfl

theorem along_slash (names : List String) (path rest : String) :
    along names (path ++ "/" ++ rest) = along (along names path) rest := by
  have hseam : (path ++ "/" ++ rest).toList = path.toList ++ '/' :: rest.toList := by simp
  rw [along, hseam, Text.split_append_cons rfl, List.foldl_append]
  rfl

theorem canonical_slash (path rest : String) :
    canonical (path ++ "/" ++ rest) = along (canonical path) rest :=
  along_slash [] path rest

/-! ## Canonical components -/

theorem along_component (h : IsComponent name) (names : List String) :
    along names name = names ++ [name] := by
  have hseparator : ∀ c ∈ name.toList, ¬ isSeparator c := by
    intro c hc hsep
    rcases Bool.or_eq_true_iff.mp hsep with hslash | hbackslash
    · exact h.slash_not_mem (beq_iff_eq.mp hslash ▸ hc)
    · exact h.backslash_not_mem (beq_iff_eq.mp hbackslash ▸ hc)
  have hplain : ¬ (name.toList = [] ∨ name.toList = ['.']) := by
    rintro (hempty | hdot)
    · exact h.ne_empty (String.toList_inj.mp hempty)
    · exact h.ne_dot (String.toList_inj.mp hdot)
  have hdots : name.toList ≠ ['.', '.'] := fun hdots => h.ne_dotDot (String.toList_inj.mp hdots)
  rw [along, Text.split_of_forall_not hseparator, List.foldl_cons, List.foldl_nil, enter,
    if_neg hplain, if_neg hdots, String.ofList_toList]

/-- Going along components enters them one after the other. -/
theorem along_joined (h : Plain names) (directory : List String) :
    along directory (joined names) = directory ++ names := by
  induction names generalizing directory with
  | nil => exact (List.append_nil directory).symm
  | cons name names ih =>
      obtain ⟨hname, hnames⟩ := List.forall_mem_cons.mp h
      cases names with
      | nil => exact along_component hname directory
      | cons next names =>
          calc
            along directory (joined (name :: next :: names))
            _ = along directory (name ++ "/" ++ joined (next :: names)) := by
                rw [joined, String.intercalate_cons_cons, joined]
            _ = along (along directory name) (joined (next :: names)) := along_slash _ _ _
            _ = directory ++ [name] ++ (next :: names) := by
                rw [along_component hname, ih hnames]
            _ = directory ++ name :: next :: names := by
                rw [List.append_assoc, List.singleton_append]

theorem canonical_joined_canonical (path : String) :
    canonical (joined (canonical path)) = canonical path :=
  along_joined (plain_canonical path) []

/-- The canonical form of what stands before a slash can be put in its place. -/
theorem canonical_joined_slash (path rest : String) :
    canonical (joined (canonical path) ++ "/" ++ rest) = canonical (path ++ "/" ++ rest) := by
  rw [canonical_slash, canonical_slash, canonical_joined_canonical]

/-! ## Separators and the way up -/

/-- Texts that are the same up to which of the separators they use. -/
def SameUpToSeparators (path other : String) : Prop :=
  List.Forall₂ (fun c d => c = d ∨ isSeparator c = true ∧ isSeparator d = true)
    path.toList other.toList

theorem split_of_forall₂ {cs ds : List Char}
    (h : List.Forall₂ (fun c d => c = d ∨ isSeparator c = true ∧ isSeparator d = true) cs ds) :
    Text.split isSeparator cs = Text.split isSeparator ds := by
  induction h with
  | nil => rfl
  | cons hhead _ ih =>
      rcases hhead with rfl | ⟨hc, hd⟩
      · rw [Text.split, Text.split, ih]
      · rw [Text.split, Text.split, if_pos hc, if_pos hd, ih]

theorem canonical_congr (h : SameUpToSeparators path other) : canonical path = canonical other := by
  rw [canonical, canonical, split_of_forall₂ h]

/-- Up from the root there is nothing. -/
theorem along_up (names : List String) : along names ".." = names.dropLast := rfl

theorem canonical_up_of_root (h : canonical path = []) (rest : String) :
    canonical (path ++ "/../" ++ rest) = canonical rest := by
  have hseam : path ++ "/../" ++ rest = path ++ "/" ++ ".." ++ "/" ++ rest := by
    simp only [String.append_assoc]
    rfl
  rw [hseam, canonical_slash, canonical_slash, h, along_up]
  rfl

/-- Putting a path into canonical form again changes nothing, nor does putting the canonical form of
a path before a slash in its place; so a marker leads from the canonical components of a directory
where it leads from the directory as it was written. Slashes and backslashes are the same, and going
up from the root leads nowhere. -/
theorem canonical_absorbs_canonical :
    (∀ path, canonical (joined (canonical path)) = canonical path) ∧
      (∀ path rest,
        canonical (joined (canonical path) ++ "/" ++ rest) = canonical (path ++ "/" ++ rest)) ∧
      (∀ directory content rest,
        destination (canonical directory) content rest =
          canonical (directory ++ "/" ++ Text.Utf8.decodeLossy content) ++ rest) ∧
      (∀ path other, SameUpToSeparators path other → canonical path = canonical other) ∧
      (∀ rest, canonical ("../" ++ rest) = canonical rest) ∧
      ∀ path rest, canonical path = [] → canonical (path ++ "/../" ++ rest) = canonical rest := by
  refine ⟨canonical_joined_canonical, canonical_joined_slash, ?_, fun _ _ => canonical_congr, ?_,
    fun _ rest h => canonical_up_of_root h rest⟩
  · intro directory content rest
    rw [destination, canonical_joined_slash]
  · intro rest
    exact canonical_slash ".." rest

end BootServer.Tftp
