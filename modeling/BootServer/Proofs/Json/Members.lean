import BootServer.Event.Json
import BootServer.Proofs.Json.CompactForm
import Mathlib.Data.List.Perm.Basic

/-!
# The members of an object

A reader that asks for members by name finds them in any order, and whatever other members stand
among them, as long as the name of every member has a text.
-/

namespace BootServer.Json

variable {members named : List (String × Json)} {doc : List (Option String × Json)} {name : String}
  {value : Json}

/-! ## Members by name -/

/-- A document has these members, in any order, and any others that have none of their names. -/
def Rearranged (members : List (String × Json)) (doc : List (Option String × Json)) : Prop :=
  (doc.filter fun member => member.1 ∈ members.map fun known => some known.1).Perm (lifted members)

theorem rearranged_lifted (members : List (String × Json)) : Rearranged members (lifted members) := by
  have hall : (lifted members).filter
      (fun member => member.1 ∈ members.map fun known => some known.1) = lifted members := by
    rw [List.filter_eq_self]
    intro member hmember
    obtain ⟨known, hknown, rfl⟩ := List.mem_map.mp hmember
    exact decide_eq_true (List.mem_map.mpr ⟨known, hknown, rfl⟩)
  rw [Rearranged, hall]

theorem Rearranged.mem (h : Rearranged members doc) (hmem : (name, value) ∈ members) :
    (some name, value) ∈ doc :=
  List.mem_of_mem_filter (h.mem_iff.mpr (List.mem_map.mpr ⟨(name, value), hmem, rfl⟩))

/-- A member with one of the names is one of the members. -/
theorem Rearranged.of_mem {member : Option String × Json} (h : Rearranged members doc)
    (hmem : member ∈ doc) (hknown : member.1 ∈ members.map fun known => some known.1) :
    ∃ known ∈ members, member = (some known.1, known.2) := by
  have hfound := h.mem_iff.mp (List.mem_filter.mpr ⟨hmem, decide_eq_true hknown⟩)
  obtain ⟨known, hknown, heq⟩ := List.mem_map.mp hfound
  exact ⟨known, hknown, heq.symm⟩

theorem lifted_injective_member :
    Function.Injective fun member : String × Json => (some member.1, member.2) := by
  rintro ⟨name, value⟩ ⟨other, json⟩ heq
  simpa using heq

/-- The members that a reader asks for, when every name has its text. -/
theorem Rearranged.perm (h : Rearranged members (lifted named)) :
    (named.filter fun member => member.1 ∈ members.map Prod.fst).Perm members := by
  have hknown : ∀ member : String × Json,
      (some member.1 ∈ members.map fun known => some known.1) ↔
        member.1 ∈ members.map Prod.fst := by
    simp
  rw [Rearranged, lifted, List.filter_map, lifted,
    List.map_perm_map_iff lifted_injective_member] at h
  simpa only [Function.comp_def, hknown] using h

theorem filter_name_of_mem (hnodup : (members.map Prod.fst).Nodup)
    (hmem : (name, value) ∈ members) :
    members.filter (fun member => member.1 = name) = [(name, value)] := by
  induction members with
  | nil => exact nomatch hmem
  | cons member members ih =>
      obtain ⟨hfirst, hrest⟩ := List.nodup_cons.mp hnodup
      rcases List.mem_cons.mp hmem with rfl | hmem
      · have hnone : members.filter (fun member => member.1 = name) = [] := by
          rw [List.filter_eq_nil_iff]
          intro other hother heq
          exact hfirst (List.mem_map.mpr ⟨other, hother, of_decide_eq_true heq⟩)
        rw [List.filter_cons_of_pos (by simp), hnone]
      · have hne : member.1 ≠ name := by
          rintro rfl
          exact hfirst (List.mem_map.mpr ⟨_, hmem, rfl⟩)
        rw [List.filter_cons_of_neg (by simpa using hne), ih hrest hmem]

/-- Each of the members is the only one with its name. -/
theorem Rearranged.unique? (h : Rearranged members (lifted named))
    (hnodup : (members.map Prod.fst).Nodup) (hmem : (name, value) ∈ members) :
    unique? name named = some (some value) := by
  have hname : name ∈ members.map Prod.fst := List.mem_map.mpr ⟨_, hmem, rfl⟩
  have hfilter : named.filter (fun member => member.1 = name) =
      (named.filter fun member => member.1 ∈ members.map Prod.fst).filter
        fun member => member.1 = name := by
    rw [List.filter_filter]
    refine List.filter_congr fun member _ => ?_
    by_cases heq : member.1 = name
    · simp [heq, hname]
    · simp [heq]
  have hperm := h.perm.filter fun member => member.1 = name
  rw [filter_name_of_mem hnodup hmem, List.perm_singleton] at hperm
  rw [Json.unique?, hfilter, hperm]

theorem Rearranged.field? (h : Rearranged members (lifted named))
    (hnodup : (members.map Prod.fst).Nodup) (hmem : (name, value) ∈ members) :
    field? named name = some value := by
  rw [Json.field?, h.unique? hnodup hmem]
  rfl

/-! ## Names without a text -/

theorem namedMembers?_cons (member : Option String × Json) :
    namedMembers? (member :: doc) =
      member.1.bind fun name => (namedMembers? doc).map ((name, member.2) :: ·) := by
  unfold namedMembers?
  rw [List.mapM_cons]
  cases member.1 with
  | none => rfl
  | some name => cases doc.mapM fun member => member.1.map fun name => (name, member.2) <;> rfl

theorem ne_none_of_namedMembers? (h : ∃ named, namedMembers? doc = some named) :
    ∀ member ∈ doc, member.1 ≠ none := by
  induction doc with
  | nil => exact fun _ hmember => nomatch hmember
  | cons member doc ih =>
      obtain ⟨named, hnamed⟩ := h
      rw [namedMembers?_cons] at hnamed
      obtain ⟨name, hname, hmore⟩ := Option.bind_eq_some_iff.mp hnamed
      obtain ⟨rest, hrest, -⟩ := Option.map_eq_some_iff.mp hmore
      rw [List.forall_mem_cons, hname]
      exact ⟨Option.some_ne_none name, ih ⟨rest, hrest⟩⟩

theorem ne_none_of_mem_lifted : ∀ member ∈ lifted named, member.1 ≠ none := by
  intro member hmember
  obtain ⟨known, -, rfl⟩ := List.mem_map.mp hmember
  exact Option.some_ne_none _

theorem exists_lifted (h : ∀ member ∈ doc, member.1 ≠ none) : ∃ named, doc = lifted named := by
  induction doc with
  | nil => exact ⟨[], rfl⟩
  | cons member doc ih =>
      obtain ⟨hmember, hdoc⟩ := List.forall_mem_cons.mp h
      obtain ⟨name, hname⟩ := Option.ne_none_iff_exists'.mp hmember
      obtain ⟨named, rfl⟩ := ih hdoc
      exact ⟨(name, member.2) :: named, by rw [lifted, lifted, List.map_cons, ← hname]⟩

end BootServer.Json
