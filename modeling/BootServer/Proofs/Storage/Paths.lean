import BootServer.Storage.Disk

/-!
# Paths below a directory

A name is a text that can stand for an entry of a directory. Names pushed onto the path of a
directory are its last components, and the path starts where it did. So whoever walks along it
comes by that directory, and ends at the place with these names below it.

What a path shows is all that a reader of the file tree learns from it.
-/

namespace BootServer

namespace Path

/-- A text that can name an entry of a directory. -/
structure IsName (part : String) : Prop where
  ne_empty : part ≠ ""
  ne_dot : part ≠ "."
  ne_dotDot : part ≠ ".."
  slash_not_mem : '/' ∉ part.toList

/-- A path is that of a directory with components behind it. -/
structure Below (base : String) (parts : List String) (path : String) : Prop where
  components_eq : components path = components base ++ parts
  isAbsolute_eq : isAbsolute path = isAbsolute base

variable {base part path : String} {parts : List String}

theorem components_of_slash {front rest : List Char} (h : path.toList = front ++ '/' :: rest) :
    components path = components (String.ofList front) ++ components (String.ofList rest) := by
  simp [components, h, Text.split_append_cons]

theorem components_dropWhile_slash (path : String) :
    components (String.ofList (path.toList.dropWhile (· == '/'))) = components path := by
  unfold components
  rw [String.toList_ofList]
  induction path.toList with
  | nil => rfl
  | cons c rest ih =>
      by_cases hslash : c = '/'
      · simpa [hslash, Text.split] using ih
      · simp [hslash]

theorem isAbsolute_dropWhile_slash (path : String) :
    isAbsolute (String.ofList (path.toList.dropWhile (· == '/'))) = false := by
  rw [isAbsolute, String.toList_ofList, beq_eq_false_iff_ne]
  intro hslash
  have hfirst := List.head?_dropWhile_not (· == '/') path.toList
  simp [hslash] at hfirst

/-- The path of a name below a directory: the slashes that the name starts with do not count. -/
inductive Under (base name : String) : String → Prop
  | intro {slashes : List Char} {rest : String} (hname : name.toList = slashes ++ rest.toList)
      (hslashes : ∀ c ∈ slashes, c = '/') (hrest : isAbsolute rest = false) :
      Under base name (push base rest)

theorem under_iff {name : String} :
    Under base name path ↔
      path = push base (String.ofList (name.toList.dropWhile (· == '/'))) := by
  constructor
  · rintro @⟨slashes, rest, hname, hslashes, hrest⟩
    have hkept : rest.toList.dropWhile (· == '/') = rest.toList := by
      unfold isAbsolute at hrest
      cases hcs : rest.toList with
      | nil => rfl
      | cons c cs =>
          rw [hcs] at hrest
          exact List.dropWhile_cons_of_neg (by simpa using hrest)
    rw [hname, List.dropWhile_append_of_pos fun c hc => beq_iff_eq.mpr (hslashes c hc), hkept,
      String.ofList_toList]
  · rintro rfl
    have hname : name.toList = name.toList.takeWhile (· == '/') ++
        (String.ofList (name.toList.dropWhile (· == '/'))).toList := by
      rw [String.toList_ofList, List.takeWhile_append_dropWhile]
    refine .intro hname ?_ (isAbsolute_dropWhile_slash name)
    intro c hc
    exact beq_iff_eq.mp (List.all_eq_true.mp List.all_takeWhile c hc)

theorem ne_empty_of_mem_components (h : part ∈ components path) : part ≠ "" := by
  obtain ⟨piece, hpiece, rfl⟩ := List.mem_map.mp h
  have hfilled : piece ≠ [] := by simpa using (List.mem_filter.mp hpiece).2
  intro hempty
  exact hfilled (String.ofList_injective hempty)

/-! ### A relative path behind a directory -/

theorem below_append {front : List Char} (hbase : base.toList = front ++ ['/']) (part : String) :
    Below base (components part) (base ++ part) where
  components_eq := by
    have hpath : (base ++ part).toList = front ++ '/' :: part.toList := by
      rw [String.toList_append, hbase, List.append_assoc]
      rfl
    rw [components_of_slash hpath, components_of_slash hbase, String.ofList_toList]
    simp [components, Text.split]
  isAbsolute_eq := by simp [isAbsolute, hbase, List.head?_append]

theorem below_append_slash (hbase : base ≠ "") (part : String) :
    Below base (components part) (base ++ "/" ++ part) where
  components_eq := by
    have hpath : (base ++ "/" ++ part).toList = base.toList ++ '/' :: part.toList := by simp
    rw [components_of_slash hpath, String.ofList_toList, String.ofList_toList]
  isAbsolute_eq := by
    have hne : base.toList ≠ [] := fun hnil => hbase (String.toList_eq_nil_iff.mp hnil)
    obtain ⟨c, rest, hcons⟩ := List.exists_cons_of_ne_nil hne
    simp [isAbsolute, hcons]

/-- A relative path that is pushed onto a path does not take its place. -/
theorem below_push (h : isAbsolute part = false) (base : String) :
    Below base (components part) (push base part) := by
  rw [push, h, if_neg Bool.false_ne_true]
  split
  next hempty =>
    rcases Bool.or_eq_true_iff.mp hempty with hempty | hslash
    · obtain rfl := String.isEmpty_iff.mp hempty
      rw [String.empty_append]
      exact ⟨rfl, h⟩
    · obtain ⟨front, hfront⟩ := List.getLast?_eq_some_iff.mp (eq_of_beq hslash)
      exact below_append hfront part
  next hfilled =>
    have hbase : base ≠ "" := fun hempty => hfilled (by simp [hempty])
    exact below_append_slash hbase part

namespace IsName

theorem components_eq (h : IsName part) : components part = [part] := by
  have hsplit : Text.split (· == '/') part.toList = [part.toList] := by
    apply Text.split_of_forall_not
    intro c hc hslash
    exact h.slash_not_mem (eq_of_beq hslash ▸ hc)
  have hne : part.toList ≠ [] := fun hnil => h.ne_empty (String.toList_eq_nil_iff.mp hnil)
  simp [components, hsplit, hne]

theorem isAbsolute_eq (h : IsName part) : isAbsolute part = false := by
  rw [isAbsolute, beq_eq_false_iff_ne]
  exact fun hslash => h.slash_not_mem (List.mem_of_mem_head? hslash)

theorem below_push (h : IsName part) (base : String) : Below base [part] (push base part) := by
  rw [← h.components_eq]
  exact Path.below_push h.isAbsolute_eq base

end IsName

theorem below_descend (hparts : ∀ part ∈ parts, IsName part) (base : String) :
    Below base parts (descend base parts) := by
  induction parts generalizing base with
  | nil => exact ⟨(List.append_nil _).symm, rfl⟩
  | cons part parts ih =>
      have hfirst := (hparts part List.mem_cons_self).below_push base
      have hrest := ih (fun next hnext => hparts next (List.mem_cons_of_mem part hnext))
        (push base part)
      refine ⟨?_, hrest.isAbsolute_eq.trans hfirst.isAbsolute_eq⟩
      rw [descend, List.foldl_cons, ← descend, hrest.components_eq, hfirst.components_eq,
        List.append_assoc, List.singleton_append]

/-- Names with slashes between them are the components of a relative path. -/
theorem components_intercalate (hparts : ∀ part ∈ parts, IsName part) :
    components (String.intercalate "/" parts) = parts := by
  induction parts with
  | nil => rfl
  | cons part parts ih =>
      have hpart := (hparts part List.mem_cons_self).components_eq
      have hrest := ih fun next hnext => hparts next (List.mem_cons_of_mem part hnext)
      cases parts with
      | nil => exact hpart
      | cons next parts =>
          have hpath : (String.intercalate "/" (part :: next :: parts)).toList =
              part.toList ++ '/' :: (String.intercalate "/" (next :: parts)).toList := by
            simp [String.toList_intercalate, List.intercalate]
          rw [components_of_slash hpath, String.ofList_toList, String.ofList_toList, hpart, hrest,
            List.singleton_append]

/-! ### Names behind a path, as text -/

/-- A slash goes between such a path and what is pushed onto it. -/
structure EndsInName (path : String) : Prop where
  isEmpty_eq : path.isEmpty = false
  endsInSlash_eq : endsInSlash path = false

theorem IsName.endsInName (h : IsName part) (front : String) : EndsInName (front ++ part) where
  isEmpty_eq := by
    rw [Bool.eq_false_iff, Ne, String.isEmpty_iff]
    exact fun hempty => h.ne_empty (String.append_eq_empty_iff.mp hempty).2
  endsInSlash_eq := by
    have hne : part.toList ≠ [] := fun hnil => h.ne_empty (String.toList_eq_nil_iff.mp hnil)
    obtain ⟨last, hlast⟩ := Option.ne_none_iff_exists'.mp (mt List.getLast?_eq_none_iff.mp hne)
    rw [endsInSlash, String.toList_append, List.getLast?_append, hlast, Option.some_or,
      beq_eq_false_iff_ne]
    exact fun hslash => h.slash_not_mem (List.mem_of_getLast? (hlast.trans hslash))

theorem EndsInName.push_eq (h : EndsInName base) (hpart : IsName part) :
    push base part = base ++ "/" ++ part := by
  rw [push, hpart.isAbsolute_eq, h.isEmpty_eq, h.endsInSlash_eq]
  rfl

theorem EndsInName.descend_eq (h : EndsInName base) (hne : parts ≠ [])
    (hparts : ∀ part ∈ parts, IsName part) :
    descend base parts = base ++ "/" ++ String.intercalate "/" parts := by
  induction parts generalizing base with
  | nil => exact absurd rfl hne
  | cons part parts ih =>
      obtain ⟨hpart, hrest⟩ := List.forall_mem_cons.mp hparts
      rw [descend, List.foldl_cons, ← descend, h.push_eq hpart]
      cases parts with
      | nil => rfl
      | cons next parts =>
          rw [ih (hpart.endsInName _) (List.cons_ne_nil next parts) hrest,
            String.intercalate_cons_cons]
          simp only [String.append_assoc]

/-- Names behind a path stand at its end with slashes between them. -/
theorem exists_descend_eq (hne : parts ≠ []) (hparts : ∀ part ∈ parts, IsName part)
    (base : String) : ∃ front, descend base parts = front ++ String.intercalate "/" parts := by
  obtain ⟨part, parts, rfl⟩ := List.exists_cons_of_ne_nil hne
  obtain ⟨hpart, hrest⟩ := List.forall_mem_cons.mp hparts
  obtain ⟨front, hfront⟩ : ∃ front, push base part = front ++ part := by
    rw [push, hpart.isAbsolute_eq, if_neg Bool.false_ne_true]
    split
    · exact ⟨base, rfl⟩
    · exact ⟨base ++ "/", rfl⟩
  refine ⟨front, ?_⟩
  rw [descend, List.foldl_cons, ← descend, hfront]
  cases parts with
  | nil => rfl
  | cons next parts =>
      rw [(hpart.endsInName front).descend_eq (List.cons_ne_nil next parts) hrest,
        String.intercalate_cons_cons]
      simp only [String.append_assoc]

end Path

namespace Disk

variable {disk : Disk} {here place : Place} {entry : Entry} {base path : String}
  {parts : List String}

/-- Where the walk along a path ends. -/
def placeOf (disk : Disk) (path : String) : Except Fault Place :=
  disk.walk (disk.start path) (Path.components path)

theorem walk_append (disk : Disk) (here : Place) (first rest : List String) :
    disk.walk here (first ++ rest) =
      (disk.walk here first).bind fun there => disk.walk there rest := by
  induction first generalizing here with
  | nil => rfl
  | cons part first ih =>
      simp only [List.cons_append, walk]
      cases disk.step here part with
      | error fault => rfl
      | ok next => exact ih next

theorem walk_concat (disk : Disk) (here : Place) (parts : List String) (part : String) :
    disk.walk here (parts ++ [part]) =
      (disk.walk here parts).bind fun there => disk.step there part := by
  have hlast : ∀ there, disk.walk there [part] = disk.step there part := by
    intro there
    rw [walk]
    cases disk.step there part <;> rfl
  rw [walk_append]
  simp only [hlast]

theorem step_eq_ok {part : String} (h : disk.step here part = .ok place) :
    place = if part = "." then here else if part = ".." then here.dropLast else here ++ [part] := by
  unfold step at h
  grind

theorem step_of_isName {part : String} (hpart : Path.IsName part)
    (h : disk.step here part = .ok place) : place = here ++ [part] := by
  rw [step_eq_ok h, if_neg hpart.ne_dot, if_neg hpart.ne_dotDot]

theorem walk_of_names (hparts : ∀ part ∈ parts, Path.IsName part)
    (h : disk.walk here parts = .ok place) : place = here ++ parts := by
  induction parts generalizing here with
  | nil => simp_all
  | cons part parts ih =>
      rw [walk] at h
      cases hstep : disk.step here part with
      | error fault => simp [hstep] at h
      | ok next =>
          rw [hstep] at h
          have hnext := step_of_isName (hparts part List.mem_cons_self) hstep
          have hrest := ih (fun next hnext => hparts next (List.mem_cons_of_mem part hnext)) h
          rw [hrest, hnext, List.append_assoc, List.singleton_append]

theorem placeOf_of_locate (h : disk.locate path = .ok (place, entry)) :
    disk.placeOf path = .ok place ∧ disk.entryAt place = some entry := by
  simp only [locate, bind, Except.bind] at h
  unfold placeOf
  grind

theorem locate_of_file? {file : FileId} (h : disk.file? path = some file) :
    ∃ place, disk.locate path = .ok (place, .file file) := by
  unfold file? at h
  split at h
  next place id hlocate =>
    obtain rfl := Option.some.inj h
    exact ⟨place, hlocate⟩
  next => exact nomatch h

/-- Who walks along a path below a directory comes by that directory. -/
theorem locate_behind (hpath : Path.Below base parts path)
    (h : disk.locate path = .ok (place, entry)) :
    ∃ top, disk.placeOf base = .ok top ∧ disk.walk top parts = .ok place ∧
      disk.entryAt place = some entry := by
  obtain ⟨hplace, hentry⟩ := placeOf_of_locate h
  have hstart : disk.start path = disk.start base := by
    rw [start, start, hpath.isAbsolute_eq]
  rw [placeOf, hstart, hpath.components_eq, walk_append] at hplace
  cases htop : disk.walk (disk.start base) (Path.components base) with
  | error fault => simp [htop, Except.bind] at hplace
  | ok top =>
      rw [htop] at hplace
      exact ⟨top, htop, hplace, hentry⟩

/-- What is found by a path below a directory is below the place of that directory. -/
theorem locate_below (hpath : Path.Below base parts path)
    (hparts : ∀ part ∈ parts, Path.IsName part) (h : disk.locate path = .ok (place, entry)) :
    ∃ top, disk.placeOf base = .ok top ∧ place = top ++ parts ∧
      disk.entryAt place = some entry := by
  obtain ⟨top, htop, hwalk, hentry⟩ := locate_behind hpath h
  exact ⟨top, htop, walk_of_names hparts hwalk, hentry⟩

/-! ## What paths show -/

/-- What a path shows: that it leads to a directory, or the octets of the file there. -/
def look (disk : Disk) (path : String) : Except Fault (Option Bytes) :=
  match disk.locate path with
  | .error fault => .error fault
  | .ok (_, .directory) => .ok none
  | .ok (_, .file id) => .ok (some (disk.content id))

/-- Two file trees show the same under the given paths, as far as they let one read what is there. -/
def AgreeOn (disk other : Disk) (paths : List String) : Prop :=
  ∀ path ∈ paths, disk.look path = other.look path ∧
    disk.refusals.contents path = other.refusals.contents path

theorem look_eq_file_iff {octets : Bytes} :
    disk.look path = .ok (some octets) ↔
      ∃ id, disk.file? path = some id ∧ octets = disk.content id := by
  unfold look file?
  grind

theorem isSome_file?_congr {other : Disk} (h : disk.look path = other.look path) :
    (disk.file? path).isSome = (other.file? path).isSome := by
  unfold look at h
  unfold file?
  grind

end Disk

end BootServer
