import BootServer.Proofs.Storage.Paths
import BootServer.Tftp.Resolve

/-!
# Requests stay below the root

Neither the text of a request nor the contents of a marker can put anything but names into a path:
that holds of the components of a request, of those that a marker is replaced by, and so after any
number of markers. Hence every path that is looked up on the way, and the one that comes out, leads
below the root. What is looked up decides what comes out.
-/

namespace BootServer.Tftp

/-- A name that no separator of requests cuts. -/
structure IsComponent (name : String) : Prop extends Path.IsName name where
  backslash_not_mem : '\\' ∉ name.toList

def Plain (names : List String) : Prop := ∀ name ∈ names, IsComponent name

variable {disk other : Disk} {root path request : String}
  {names directory parts rest target : List String} {followMarkers : Bool} {content : Bytes}

namespace Plain

theorem isName (h : Plain names) : ∀ name ∈ names, Path.IsName name :=
  fun name hname => (h name hname).toIsName

theorem append (h : Plain names) (hrest : Plain rest) : Plain (names ++ rest) :=
  List.forall_mem_append.mpr ⟨h, hrest⟩

theorem dropLast (h : Plain names) : Plain names.dropLast :=
  fun name hname => h name (List.dropLast_subset names hname)

theorem of_append (h : Plain (names ++ rest)) : Plain names := (List.forall_mem_append.mp h).1

end Plain

/-! ## Names only -/

theorem isComponent_of_part {part : List Char} (hpart : ∀ c ∈ part, ¬ isSeparator c)
    (hdot : ¬ (part = [] ∨ part = ['.'])) (hdots : part ≠ ['.', '.']) :
    IsComponent (String.ofList part) where
  ne_empty h := hdot (.inl (by simpa using congrArg String.toList h))
  ne_dot h := hdot (.inr (by simpa using congrArg String.toList h))
  ne_dotDot h := hdots (by simpa using congrArg String.toList h)
  slash_not_mem h := hpart '/' (by simpa using h) rfl
  backslash_not_mem h := hpart '\\' (by simpa using h) rfl

theorem plain_enter (h : Plain names) {part : List Char} (hpart : ∀ c ∈ part, ¬ isSeparator c) :
    Plain (enter names part) := by
  unfold enter
  split
  next => exact h
  next hdot =>
    split
    next => exact h.dropLast
    next hdots =>
      refine h.append ?_
      intro name hname
      rw [List.mem_singleton.mp hname]
      exact isComponent_of_part hpart hdot hdots

theorem plain_foldl_enter {pieces : List (List Char)}
    (hpieces : ∀ piece ∈ pieces, ∀ c ∈ piece, ¬ isSeparator c) (h : Plain names) :
    Plain (pieces.foldl enter names) := by
  induction pieces generalizing names with
  | nil => exact h
  | cons piece pieces ih =>
      exact ih (fun next hnext => hpieces next (List.mem_cons_of_mem piece hnext))
        (plain_enter h (hpieces piece List.mem_cons_self))

theorem plain_canonical (request : String) : Plain (canonical request) :=
  plain_foldl_enter (fun _ => Text.not_isSeparator_of_mem_split) fun _ hname => nomatch hname

/-! ## Markers -/

/-- What a file is on the way down a path: a marker that leads on, or the end of the way. -/
def markerFrom (disk : Disk) (path : String) (directory rest : List String) (content : Bytes) :
    Except Fault (Option (List String)) :=
  if fitsMarker content then
    (disk.refusals.contents path).elim
      (.ok (if isMarkerText content then some (destination directory content rest) else none)) .error
  else .ok none

theorem candidateFrom_cons (disk : Disk) (root : String) (directory : List String) (part : String)
    (rest : List String) :
    candidateFrom disk root directory (part :: rest) =
      match disk.look (located root (directory ++ [part])) with
      | .error _ => .ok none
      | .ok none => candidateFrom disk root (directory ++ [part]) rest
      | .ok (some content) =>
        markerFrom disk (located root (directory ++ [part])) directory rest content := by
  rw [candidateFrom, Disk.look]
  cases disk.locate (located root (directory ++ [part])) with
  | error fault => rfl
  | ok found =>
      obtain ⟨place, entry⟩ := found
      cases entry with
      | directory => rfl
      | file id =>
          simp only [markerFrom, Disk.readFile]
          cases disk.refusals.contents (located root (directory ++ [part])) <;> rfl

/-- A marker that is followed is short text, and is read. -/
theorem markerFrom_eq_some_iff {path : String} :
    markerFrom disk path directory rest content = .ok (some target) ↔
      (fitsMarker content = true ∧ isMarkerText content = true) ∧
        disk.refusals.contents path = none ∧ destination directory content rest = target := by
  unfold markerFrom
  by_cases hfits : fitsMarker content = true
  · cases disk.refusals.contents path with
    | none => simp [hfits]
    | some fault => simp [hfits]
  · simp [hfits]

theorem plain_candidateFrom (hparts : Plain parts)
    (h : candidateFrom disk root directory parts = .ok (some target)) : Plain target := by
  induction parts generalizing directory with
  | nil => exact nomatch h
  | cons part parts ih =>
      have hrest : Plain parts := fun name hname => hparts name (List.mem_cons_of_mem part hname)
      rw [candidateFrom_cons] at h
      split at h
      next => exact nomatch h
      next => exact ih hrest h
      next =>
        obtain ⟨-, -, rfl⟩ := markerFrom_eq_some_iff.mp h
        exact (plain_canonical _).append hrest

theorem follow_eq_some_iff :
    follow disk root names = .ok (some target) ↔
      candidate disk root names = .ok (some target) ∧ namesFile disk root target = true := by
  unfold follow
  cases candidate disk root names with
  | error fault => simp [Except.map]
  | ok found => simp [Except.map, Option.filter_eq_some_iff]

/-- A marker is replaced by names, at least one of them, with the rest of the path behind them. -/
theorem plain_of_follow (hnames : Plain names) (h : follow disk root names = .ok (some target)) :
    target ≠ [] ∧ Plain target := by
  obtain ⟨hcandidate, hfile⟩ := follow_eq_some_iff.mp h
  refine ⟨?_, plain_candidateFrom hnames hcandidate⟩
  rintro rfl
  simp [namesFile] at hfile

theorem plain_of_mem_trail {hops : Nat} (hnames : Plain names)
    (h : target ∈ trail disk root hops names) : target ≠ [] ∧ Plain target := by
  induction hops generalizing names with
  | zero => simp [trail] at h
  | succ hops ih =>
      rw [trail] at h
      split at h
      next first hfirst =>
        have hplain := plain_of_follow hnames hfirst
        rcases List.mem_cons.mp h with rfl | h
        · exact hplain
        · exact ih hplain.2 h
      next => simp at h

theorem plain_of_mem_hopsOf (h : target ∈ hopsOf disk root followMarkers request) :
    target ≠ [] ∧ Plain target := by
  unfold hopsOf at h
  split at h
  · exact plain_of_mem_trail (plain_canonical request) h
  · simp at h

theorem eq_of_arrive (h : arrive disk root request target = .ok names) :
    names = target ∧ follow disk root target = .ok none := by
  unfold arrive at h
  split at h
  next => exact nomatch h
  next => exact nomatch h
  next hend => exact ⟨(Except.ok.inj h).symm, hend⟩

theorem mem_cons_hopsOf_of_resolve (h : resolve disk root followMarkers request = .ok names) :
    canonical request ≠ [] ∧
      names ∈ canonical request :: hopsOf disk root followMarkers request := by
  unfold resolve at h
  dsimp only at h
  split at h
  next => exact nomatch h
  next hfilled =>
    refine ⟨fun hempty => hfilled (by simp [hempty]), ?_⟩
    split at h
    next =>
      rw [(eq_of_arrive h).1]
      exact List.getLastD_mem_cons
    next =>
      obtain rfl := Except.ok.inj h
      exact List.mem_cons_self

/-- What a request stands for is at least one name, and nothing but names. -/
theorem plain_of_resolve (h : resolve disk root followMarkers request = .ok names) :
    names ≠ [] ∧ Plain names := by
  obtain ⟨hrequest, hnames⟩ := mem_cons_hopsOf_of_resolve h
  rcases List.mem_cons.mp hnames with rfl | hnames
  · exact ⟨hrequest, plain_canonical request⟩
  · exact plain_of_mem_hopsOf hnames

/-! ## Look-ups -/

/-- The paths looked up on the way down to the first component that is no directory. -/
def lookupsFrom (disk : Disk) (root : String) (directory : List String) :
    List String → List String
  | [] => []
  | part :: rest =>
    let path := located root (directory ++ [part])
    path :: match disk.look path with
      | .ok none => lookupsFrom disk root (directory ++ [part]) rest
      | _ => []

/-- Where the first marker on a path leads, if it is read. -/
def candidate? (disk : Disk) (root : String) (names : List String) : Option (List String) :=
  (candidate disk root names).toOption.join

/-- The paths looked up for one marker: the way down to it, then where it leads. -/
def markerLookups (disk : Disk) (root : String) (names : List String) : List String :=
  lookupsFrom disk root [] names ++
    ((candidate? disk root names).filter (!·.isEmpty)).toList.map (located root)

/-- The paths looked up for a request. -/
def lookups (disk : Disk) (root : String) (followMarkers : Bool) (request : String) :
    List String :=
  if followMarkers then
    (canonical request :: hopsOf disk root followMarkers request).flatMap (markerLookups disk root)
  else []

theorem candidate?_eq_some_iff :
    candidate? disk root names = some target ↔ candidate disk root names = .ok (some target) := by
  unfold candidate?
  cases candidate disk root names <;> simp [Except.toOption]

theorem exists_of_mem_lookupsFrom (h : path ∈ lookupsFrom disk root directory parts) :
    ∃ front rest, parts = front ++ rest ∧ path = located root (directory ++ front) := by
  induction parts generalizing directory with
  | nil => simp [lookupsFrom] at h
  | cons part parts ih =>
      rcases List.mem_cons.mp h with rfl | h
      · exact ⟨[part], parts, rfl, rfl⟩
      · split at h
        next =>
          obtain ⟨front, rest, rfl, rfl⟩ := ih h
          exact ⟨part :: front, rest, rfl, by rw [List.append_assoc]; rfl⟩
        next => simp at h

theorem exists_of_mem_markerLookups (hnames : Plain names)
    (h : path ∈ markerLookups disk root names) :
    ∃ names, Plain names ∧ path = located root names := by
  rcases List.mem_append.mp h with h | h
  · obtain ⟨front, rest, rfl, rfl⟩ := exists_of_mem_lookupsFrom h
    exact ⟨front, hnames.of_append, rfl⟩
  · obtain ⟨target, htarget, rfl⟩ := List.mem_map.mp h
    have hcandidate : candidate? disk root names = some target :=
      (Option.filter_eq_some_iff.mp (Option.mem_toList.mp htarget)).1
    exact ⟨target, plain_candidateFrom hnames (candidate?_eq_some_iff.mp hcandidate), rfl⟩

theorem exists_of_mem_lookups (h : path ∈ lookups disk root followMarkers request) :
    ∃ names, Plain names ∧ path = located root names := by
  unfold lookups at h
  split at h
  · obtain ⟨names, hnames, hpath⟩ := List.mem_flatMap.mp h
    have hplain : Plain names := by
      rcases List.mem_cons.mp hnames with rfl | hnames
      · exact plain_canonical request
      · exact (plain_of_mem_hopsOf hnames).2
    exact exists_of_mem_markerLookups hplain hpath
  · simp at h

/-! ## Nothing else is looked up -/

theorem candidateFrom_congr (h : disk.AgreeOn other (lookupsFrom disk root directory parts)) :
    candidateFrom disk root directory parts = candidateFrom other root directory parts := by
  induction parts generalizing directory with
  | nil => rfl
  | cons part parts ih =>
      obtain ⟨hfirst, hrefusal⟩ := h (located root (directory ++ [part])) List.mem_cons_self
      rw [candidateFrom_cons, candidateFrom_cons, ← hfirst]
      cases hlook : disk.look (located root (directory ++ [part])) with
      | error fault => rfl
      | ok shown =>
          cases shown with
          | some content => simp only [markerFrom, hrefusal]
          | none =>
              refine ih fun path hpath => h path ?_
              simp [lookupsFrom, hlook, hpath]

theorem namesFile_congr (h : names ≠ [] → disk.look (located root names) =
    other.look (located root names)) : namesFile disk root names = namesFile other root names := by
  cases names with
  | nil => rfl
  | cons name names =>
      rw [namesFile, namesFile, Disk.isSome_file?_congr (h (List.cons_ne_nil name names))]

theorem follow_congr (h : disk.AgreeOn other (markerLookups disk root names)) :
    follow disk root names = follow other root names := by
  have hcandidate : candidate disk root names = candidate other root names :=
    candidateFrom_congr fun path hpath => h path (List.mem_append_left _ hpath)
  rw [follow, follow, ← hcandidate]
  cases htarget : candidate disk root names with
  | error fault => rfl
  | ok found =>
      cases found with
      | none => rfl
      | some target =>
          have hcandidate := candidate?_eq_some_iff.mpr htarget
          have hfile : namesFile disk root target = namesFile other root target := by
            refine namesFile_congr fun hne => (h _ (List.mem_append_right _ ?_)).1
            simp [hcandidate, Option.filter_some, hne]
          simp only [Except.map, Option.filter_some, hfile]

theorem trail_congr {hops : Nat}
    (h : disk.AgreeOn other
      ((names :: trail disk root hops names).flatMap (markerLookups disk root))) :
    trail disk root hops names = trail other root hops names := by
  induction hops generalizing names with
  | zero => rfl
  | succ hops ih =>
      have hfirst : follow disk root names = follow other root names :=
        follow_congr fun path hpath => h path (List.mem_append_left _ hpath)
      rw [trail, trail, ← hfirst]
      split
      next target htarget =>
        have hrest : trail disk root hops target = trail other root hops target := by
          refine ih fun path hpath => h path ?_
          rw [trail, htarget, List.flatMap_cons]
          exact List.mem_append_right _ hpath
        rw [hrest]
      next => rfl

/-- What a request stands for depends on nothing but what the paths show that are looked up. -/
theorem resolve_congr (h : disk.AgreeOn other (lookups disk root followMarkers request)) :
    resolve disk root followMarkers request = resolve other root followMarkers request := by
  cases followMarkers with
  | false => rfl
  | true =>
      have hhops : hopsOf disk root true request = hopsOf other root true request := trail_congr h
      have hlast : (hopsOf disk root true request).getLastD (canonical request) ∈
          canonical request :: hopsOf disk root true request := List.getLastD_mem_cons
      have hfollow := follow_congr fun path hpath =>
        h path (List.mem_flatMap_of_mem hlast hpath)
      simp only [resolve, arrive, hfollow, ← hhops]

/-! ## Confinement -/

/-- A path is that of the root with names behind it, and leads nowhere but below the root. -/
structure Confined (disk : Disk) (root : String) (names : List String) (path : String) : Prop where
  plain : Plain names
  path_eq : path = located root names
  below : Path.Below root names path
  leads : ∀ place entry, disk.locate path = .ok (place, entry) →
    ∃ top, disk.placeOf root = .ok top ∧ place = top ++ names ∧ disk.entryAt place = some entry

theorem Plain.confined (h : Plain names) (disk : Disk) (root : String) :
    Confined disk root names (located root names) :=
  have hbelow := Path.below_descend h.isName root
  ⟨h, rfl, hbelow, fun _ _ hfound => Disk.locate_below hbelow h.isName hfound⟩

end BootServer.Tftp
