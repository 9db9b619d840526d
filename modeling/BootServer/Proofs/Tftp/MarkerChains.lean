import BootServer.Proofs.Storage.Refusals
import BootServer.Proofs.Tftp.Confinement

/-!
# Chains of markers

A marker on a path is substituted by the path that it holds, with the rest of the path behind it. A
request comes by a chain of substitutions to a file to which none applies. It is resolved to that
file just when every path on the way there names a file itself: a marker is followed only to a file,
so one that stands for a directory is followed where it leads to a file at once, and not to another
marker of a directory. Chains are made of what files hold; they are followed where files can be
read.
-/

namespace BootServer.Tftp

/-- The shortest part of a path that is no directory is a marker, and where it leads takes its
place. -/
inductive Substitution (disk : Disk) (root : String) : List String → List String → Prop
  | marker {directory rest : List String} {name : String} {content : Bytes}
      (hdirectory : ∀ part, part ≠ [] → part <+: directory →
        disk.look (located root part) = .ok none)
      (hfile : disk.look (located root (directory ++ [name])) = .ok (some content))
      (hlength : 1 ≤ content.length ∧ content.length ≤ 199)
      (htext : ∀ b ∈ content, 32 ≤ b ∧ b ≤ 127) :
      Substitution disk root (directory ++ name :: rest)
        (canonical (joined directory ++ "/" ++ Text.Utf8.decodeLossy content) ++ rest)

/-- Substitution after substitution, a path comes through others to the last of them, which names a
file and to which no substitution applies. -/
inductive Leads (disk : Disk) (root : String) :
    List String → List (List String) → List String → Prop
  | arrived {path : List String} (hfile : namesFile disk root path = true)
      (hend : ∀ next, ¬ Substitution disk root path next) : Leads disk root path [] path
  | hop {path next last : List String} {hops : List (List String)}
      (hfirst : Substitution disk root path next) (hrest : Leads disk root next hops last) :
      Leads disk root path (next :: hops) last

variable {disk : Disk} {root request : String}
  {directory parts path next target last : List String} {hops : List (List String)}

/-! ## Substitutions and the walk down a path -/

theorem marker_iff {content : Bytes} :
    fitsMarker content = true ∧ isMarkerText content = true ↔
      (1 ≤ content.length ∧ content.length ≤ 199) ∧ ∀ b ∈ content, 32 ≤ b ∧ b ≤ 127 := by
  have hpos : content ≠ [] ↔ 1 ≤ content.length := List.length_pos_iff.symm
  simp only [fitsMarker, isMarkerText, markerLimit, ← hpos, Bool.and_eq_true, Bool.not_eq_true',
    List.isEmpty_eq_false_iff, decide_eq_true_eq, List.all_eq_true, Nat.lt_succ_iff]
  constructor
  · rintro ⟨hfits, -, htext⟩
    exact ⟨hfits, htext⟩
  · rintro ⟨hfits, htext⟩
    exact ⟨hfits, hfits.1, htext⟩

/-- The walk down a path comes to a marker behind nothing but directories. -/
theorem exists_of_candidateFrom (h : candidateFrom disk root directory parts = .ok (some target)) :
    ∃ front name rest content, parts = front ++ name :: rest ∧
      (∀ part, part ≠ [] → part <+: front →
        disk.look (located root (directory ++ part)) = .ok none) ∧
      disk.look (located root (directory ++ front ++ [name])) = .ok (some content) ∧
      (fitsMarker content = true ∧ isMarkerText content = true) ∧
      destination (directory ++ front) content rest = target := by
  induction parts generalizing directory with
  | nil => exact nomatch h
  | cons name parts ih =>
      rw [candidateFrom_cons] at h
      split at h
      next => exact nomatch h
      next hlook =>
        obtain ⟨front, marker, rest, content, rfl, hfront, hmarker⟩ := ih h
        simp only [List.append_assoc, List.singleton_append] at hfront hmarker
        refine ⟨name :: front, marker, rest, content, rfl, ?_, by simpa using hmarker⟩
        intro part hne hpart
        rcases List.prefix_cons_iff.mp hpart with rfl | ⟨tail, rfl, htail⟩
        · exact absurd rfl hne
        · cases tail with
          | nil => exact hlook
          | cons first tail => exact hfront _ (List.cons_ne_nil first tail) htail
      next content hlook =>
        obtain ⟨hmarker, -, htarget⟩ := markerFrom_eq_some_iff.mp h
        refine ⟨[], name, parts, content, rfl, ?_, by simpa using hlook, hmarker, ?_⟩
        · intro part hne hpart
          exact absurd (List.prefix_nil.mp hpart) hne
        · simpa using htarget

theorem candidateFrom_append {front : List String}
    (h : ∀ part, part ≠ [] → part <+: front →
      disk.look (located root (directory ++ part)) = .ok none) :
    candidateFrom disk root directory (front ++ parts) =
      candidateFrom disk root (directory ++ front) parts := by
  induction front generalizing directory with
  | nil => rw [List.append_nil, List.nil_append]
  | cons name front ih =>
      have hname : disk.look (located root (directory ++ [name])) = .ok none :=
        h [name] (List.cons_ne_nil name []) ⟨front, rfl⟩
      have hfront : ∀ part, part ≠ [] → part <+: front →
          disk.look (located root (directory ++ [name] ++ part)) = .ok none := by
        intro part _ hpart
        rw [List.append_assoc]
        exact h _ (List.cons_ne_nil name part) (List.cons_prefix_cons.mpr ⟨rfl, hpart⟩)
      rw [List.cons_append, candidateFrom_cons, hname]
      simp only [ih hfront, List.append_assoc, List.singleton_append]

/-- What the walk down a path finds is what a substitution puts in its place. -/
theorem substitution_of_candidate (h : candidate disk root path = .ok (some target)) :
    Substitution disk root path target := by
  obtain ⟨directory, name, rest, content, rfl, hdirectory, hfile, hmarker, rfl⟩ :=
    exists_of_candidateFrom h
  obtain ⟨hlength, htext⟩ := marker_iff.mp hmarker
  simp only [List.nil_append] at hdirectory hfile ⊢
  exact .marker hdirectory hfile hlength htext

theorem substitution_of_candidate? (h : candidate? disk root path = some target) :
    Substitution disk root path target :=
  substitution_of_candidate (candidate?_eq_some_iff.mp h)

/-- Where files can be read, the walk down a path finds nothing else, and it does find that. -/
theorem candidate_eq_some_iff (hreadable : disk.Readable) :
    candidate disk root path = .ok (some target) ↔ Substitution disk root path target := by
  refine ⟨substitution_of_candidate, ?_⟩
  intro h
  cases h with
  | @marker directory rest name content hdirectory hfile hlength htext =>
      have hmarker := marker_iff.mpr ⟨hlength, htext⟩
      have hwalk : candidateFrom disk root [] (directory ++ name :: rest) =
          candidateFrom disk root directory (name :: rest) := by
        apply candidateFrom_append
        simpa only [List.nil_append] using hdirectory
      rw [candidate, hwalk, candidateFrom_cons, hfile]
      exact markerFrom_eq_some_iff.mpr ⟨hmarker, hreadable.contents_eq _, rfl⟩

theorem refuses_of_markerFrom {path : String} {rest : List String} {content : Bytes} {fault : Fault}
    (h : markerFrom disk path directory rest content = .error fault) : disk.Refuses fault := by
  unfold markerFrom at h
  split at h
  next => exact .contents (Disk.answer_eq_error_iff.mp h)
  next => exact nomatch h

/-- The walk down a path fails only where a file on it is not read. -/
theorem refuses_of_candidateFrom {fault : Fault}
    (h : candidateFrom disk root directory parts = .error fault) : disk.Refuses fault := by
  induction parts generalizing directory with
  | nil => exact nomatch h
  | cons part parts ih =>
      rw [candidateFrom_cons] at h
      split at h
      next => exact nomatch h
      next => exact ih h
      next => exact refuses_of_markerFrom h

theorem refuses_of_follow {fault : Fault} (h : follow disk root path = .error fault) :
    disk.Refuses fault := by
  unfold follow at h
  cases hcandidate : candidate disk root path with
  | error cause =>
      rw [hcandidate] at h
      obtain rfl := Except.error.inj h
      exact refuses_of_candidateFrom hcandidate
  | ok found =>
      rw [hcandidate] at h
      exact nomatch h

/-- Where files can be read, following a marker comes to an end of some kind. -/
theorem exists_follow_eq (hreadable : disk.Readable) (root : String) (path : List String) :
    ∃ target?, follow disk root path = .ok target? := by
  cases hfollow : follow disk root path with
  | error fault => exact absurd (refuses_of_follow hfollow) (hreadable fault)
  | ok target? => exact ⟨target?, rfl⟩

theorem not_substitution (hreadable : disk.Readable) (h : candidate? disk root path = none)
    (next : List String) : ¬ Substitution disk root path next := by
  intro hnext
  have hsome := candidate?_eq_some_iff.mpr ((candidate_eq_some_iff hreadable).mpr hnext)
  exact nomatch h.symm.trans hsome

theorem Substitution.ne_nil (h : Substitution disk root path target) : path ≠ [] := by
  cases h with
  | marker => exact List.append_ne_nil_of_right_ne_nil _ (List.cons_ne_nil _ _)

theorem Substitution.follow_eq (h : Substitution disk root path target)
    (hreadable : disk.Readable) :
    follow disk root path = .ok (if namesFile disk root target then some target else none) := by
  rw [follow, (candidate_eq_some_iff hreadable).mpr h, Except.map, Option.filter_some]

theorem follow_eq_none (hreadable : disk.Readable)
    (h : ∀ next, ¬ Substitution disk root path next) : follow disk root path = .ok none := by
  obtain ⟨target?, hfollow⟩ := exists_follow_eq hreadable root path
  cases target? with
  | none => exact hfollow
  | some target =>
      exact absurd (substitution_of_candidate (follow_eq_some_iff.mp hfollow).1) (h target)

/-! ## Chains -/

namespace Leads

theorem namesFile (h : Leads disk root path hops last) : namesFile disk root last = true := by
  induction h with
  | arrived hfile _ => exact hfile
  | hop _ _ ih => exact ih

theorem ends (h : Leads disk root path hops last) :
    ∀ next, ¬ Substitution disk root last next := by
  induction h with
  | arrived _ hend => exact hend
  | hop _ _ ih => exact ih

/-- Markers are followed as far as the chain goes, if that is from file to file. -/
theorem trail_eq (hreadable : disk.Readable) {count : Nat} (h : Leads disk root path hops last)
    (hcount : hops.length ≤ count)
    (hfiles : ∀ next ∈ hops, Tftp.namesFile disk root next = true) :
    trail disk root count path = hops := by
  induction h generalizing count with
  | arrived _ hend =>
      cases count with
      | zero => rfl
      | succ count => rw [trail, follow_eq_none hreadable hend]
  | @hop path next last hops hfirst hrest ih =>
      cases count with
      | zero => simp at hcount
      | succ count =>
          have hnext : Tftp.namesFile disk root next = true := hfiles next List.mem_cons_self
          have htail : trail disk root count next = hops := by
            apply ih
            · simpa using hcount
            · exact fun other hother => hfiles other (List.mem_cons_of_mem next hother)
          rw [trail, hfirst.follow_eq hreadable, if_pos hnext]
          simp only [htail]

theorem ne_nil (h : Leads disk root path hops last) : path ≠ [] := by
  cases h with
  | arrived hfile _ =>
      rintro rfl
      simp [Tftp.namesFile] at hfile
  | hop hfirst _ => exact hfirst.ne_nil

theorem getLastD_eq (h : Leads disk root path hops last) : hops.getLastD path = last := by
  induction h with
  | arrived _ _ => rfl
  | hop _ _ ih => rw [List.getLastD_cons, ih]

/-- Where following markers ends at the end of the chain, it went from file to file. -/
theorem files_of_trail (hreadable : disk.Readable) {count : Nat}
    (h : Leads disk root path hops last)
    (htrail : (trail disk root count path).getLastD path = last) :
    ∀ next ∈ hops, Tftp.namesFile disk root next = true := by
  induction h generalizing count with
  | arrived _ _ => exact List.forall_mem_nil _
  | @hop path next last hops hfirst hrest ih =>
      -- the chain goes on from here, so the trail does not stop here
      have hgoes : path ≠ last := by
        rintro rfl
        exact hrest.ends next hfirst
      cases count with
      | zero => exact absurd htrail hgoes
      | succ count =>
          rw [trail, hfirst.follow_eq hreadable] at htrail
          by_cases hnext : Tftp.namesFile disk root next = true
          · rw [if_pos hnext, List.getLastD_cons] at htrail
            exact List.forall_mem_cons.mpr ⟨hnext, ih htrail⟩
          · rw [if_neg hnext] at htrail
            exact absurd htrail hgoes

end Leads

/-- Where files can be read, a request that comes to a file by a chain of at most eight markers is
resolved to that file just when every path of the chain behind the request names a file. -/
theorem resolve_chain_iff (hreadable : disk.Readable)
    (hchain : Leads disk root (canonical request) hops last) (hlength : hops.length ≤ 8) :
    resolve disk root true request = .ok last ↔
      ∀ next ∈ hops, namesFile disk root next = true := by
  have hresolve : resolve disk root true request = arrive disk root request
      ((trail disk root hopsMax (canonical request)).getLastD (canonical request)) := by
    simp [resolve, hopsOf, hchain.ne_nil]
  rw [hresolve]
  constructor
  · intro harrive
    exact hchain.files_of_trail hreadable (eq_of_arrive harrive).1.symm
  · intro hfiles
    have htrail : trail disk root hopsMax (canonical request) = hops :=
      hchain.trail_eq hreadable hlength hfiles
    rw [htrail, hchain.getLastD_eq, arrive,
      follow_eq_none hreadable hchain.ends]

/-! ## A tree of markers -/

namespace Small

/-- One marker stands for the directory of a version, another one for the first, and a third one in
that directory for the file beside it. -/
def versions : Disk where
  entries := ⟨[(["srv"], .directory), (["srv", "stable"], .file 0), (["srv", "current"], .file 1),
    (["srv", "v2"], .directory), (["srv", "v2", "linux"], .file 2),
    (["srv", "v2", "vmlinuz"], .file 3)]⟩
  contents := ⟨[(0, "v2".toUTF8.toList), (1, "stable".toUTF8.toList), (2, [0]),
    (3, "linux".toUTF8.toList)]⟩
  nextFile := 4
  workingDirectory := []

theorem versions_readable : versions.Readable := Disk.readable_of_refusals_eq rfl

theorem leads_stable : Leads versions "/srv" ["stable", "vmlinuz"]
    [["v2", "vmlinuz"], ["v2", "linux"]] ["v2", "linux"] := by
  apply Leads.hop (substitution_of_candidate? (by decide +kernel))
  apply Leads.hop (substitution_of_candidate? (by decide +kernel))
  exact .arrived (by decide +kernel) (not_substitution versions_readable (by decide +kernel))

theorem leads_current : Leads versions "/srv" ["current", "linux"]
    [["stable", "linux"], ["v2", "linux"]] ["v2", "linux"] := by
  apply Leads.hop (substitution_of_candidate? (by decide +kernel))
  apply Leads.hop (substitution_of_candidate? (by decide +kernel))
  exact .arrived (by decide +kernel) (not_substitution versions_readable (by decide +kernel))

end Small

/-- The first marker stands for a directory, the next one for a file in it. -/
theorem small_resolve_chain :
    let hops := [["v2", "vmlinuz"], ["v2", "linux"]]
    Leads Small.versions "/srv" (canonical "/stable/vmlinuz") hops ["v2", "linux"] ∧
      hops.length ≤ 8 ∧
      (∀ next ∈ hops, namesFile Small.versions "/srv" next = true) ∧
      resolve Small.versions "/srv" true "/stable/vmlinuz" = .ok ["v2", "linux"] := by
  intro hops
  have hrequest : canonical "/stable/vmlinuz" = ["stable", "vmlinuz"] := by decide +kernel
  have hchain := Small.leads_stable
  rw [← hrequest] at hchain
  have hlength : hops.length ≤ 8 := by decide
  have hfiles : ∀ next ∈ hops, namesFile Small.versions "/srv" next = true := by
    decide +kernel
  exact ⟨hchain, hlength, hfiles, 
    (resolve_chain_iff Small.versions_readable hchain hlength).mpr hfiles⟩

/-- A marker of a directory that leads to another one is not followed: the chain goes on to a file,
and the request is resolved to itself. -/
theorem directory_marker_chain_stops :
    let hops := [["stable", "linux"], ["v2", "linux"]]
    Leads Small.versions "/srv" (canonical "current/linux") hops ["v2", "linux"] ∧
      hops.length ≤ 8 ∧
      resolve Small.versions "/srv" true "current/linux" = .ok ["current", "linux"] ∧
      resolve Small.versions "/srv" true "current/linux" ≠ .ok ["v2", "linux"] := by
  intro hops
  have hrequest : canonical "current/linux" = ["current", "linux"] := by decide +kernel
  have hresolve : resolve Small.versions "/srv" true "current/linux" =
      .ok ["current", "linux"] :=
    eq_ok_of_toOption (by decide +kernel)
  rw [hresolve, hrequest]
  exact ⟨Small.leads_current, by decide, rfl, by simp⟩

end BootServer.Tftp
