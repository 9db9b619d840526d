import BootServer.Proofs.Tftp.MarkerChains
import BootServer.Proofs.Tftp.ServedFiles

/-!
# Following markers ends

Markers are followed until a path has none or until eight have been followed and there is a ninth,
and then the request fails; whether the markers form a cycle makes no difference. A file that may be
a marker and cannot be read ends it as well. What a marker is followed to is a file, so where files
can be read a request that was followed is never told that its file is missing.
-/

namespace BootServer.Tftp

/-- Where following a path's marker leads, so many times in turn. -/
def followed (disk : Disk) (root : String) : Nat → List String → Option (List String)
  | 0, path => some path
  | count + 1, path =>
    match follow disk root path with
    | .ok (some target) => followed disk root count target
    | _ => none

/-- Markers are followed call by call, with a count of those followed so far: how many calls it
takes, and what comes of it. Nothing bounds the calls but the count. -/
inductive Follows (disk : Disk) (root request : String) :
    (hops : Nat) → (path : List String) → (calls : Nat) → Except Failure (List String) → Prop
  | arrived {hops : Nat} {path : List String} (hnone : follow disk root path = .ok none) :
      Follows disk root request hops path 1 (.ok path)
  | unread {hops : Nat} {path : List String} {fault : Fault}
      (hfault : follow disk root path = .error fault) :
      Follows disk root request hops path 1 (.error (.system fault))
  | refused {path target : List String} (htarget : follow disk root path = .ok (some target)) :
      Follows disk root request hopsMax path 1 (.error (.tooManyHops request))
  | hop {hops calls : Nat} {path target : List String} {result : Except Failure (List String)}
      (htarget : follow disk root path = .ok (some target)) (hlimit : hops ≠ hopsMax)
      (hrest : Follows disk root request (hops + 1) target calls result) :
      Follows disk root request hops path (calls + 1) result

variable {disk : Disk} {root request : String} {path target last other : List String}
  {hops calls count : Nat} {result : Except Failure (List String)}

/-! ## Repeated following -/

theorem followed_succ (h : follow disk root path = .ok (some target)) (count : Nat) :
    followed disk root (count + 1) path = followed disk root count target := by
  rw [followed, h]

theorem followed_of_stop (h : ∀ target, follow disk root path ≠ .ok (some target)) (count : Nat) :
    followed disk root (count + 1) path = none := by
  rw [followed]
  split
  next target htarget => exact absurd htarget (h target)
  next => rfl

/-- The last of several hops. -/
theorem exists_of_followed_succ (h : followed disk root (count + 1) path = some last) :
    ∃ previous, followed disk root count path = some previous ∧
      follow disk root previous = .ok (some last) := by
  induction count generalizing path with
  | zero =>
      rw [followed] at h
      split at h
      next target htarget =>
        obtain rfl := Option.some.inj h
        exact ⟨path, rfl, htarget⟩
      next => exact nomatch h
  | succ count ih =>
      rw [followed] at h
      split at h
      next target htarget =>
        rw [followed_succ htarget]
        exact ih h
      next => exact nomatch h

/-- Nothing is followed beyond a path at which following stops. -/
theorem le_of_followed (hlast : followed disk root count path = some last)
    (hend : ∀ target, follow disk root last ≠ .ok (some target)) {later : Nat}
    (hlater : (followed disk root later path).isSome) : later ≤ count := by
  -- both go the same way, and the first one stops
  induction count generalizing path later with
  | zero =>
      obtain rfl := Option.some.inj hlast
      cases later with
      | zero => exact Nat.le_refl 0
      | succ later => simp [followed_of_stop hend] at hlater
  | succ count ih =>
      cases later with
      | zero => exact Nat.zero_le _
      | succ later =>
          rw [followed] at hlast
          split at hlast
          next target htarget =>
            rw [followed_succ htarget] at hlater
            exact Nat.succ_le_succ (ih hlast hlater)
          next => exact nomatch hlast

theorem ne_some_of_none (h : follow disk root path = .ok none) (target : List String) :
    follow disk root path ≠ .ok (some target) := by
  rw [h]
  exact fun hsome => nomatch hsome

theorem ne_some_of_fault {fault : Fault} (h : follow disk root path = .error fault)
    (target : List String) : follow disk root path ≠ .ok (some target) := by
  rw [h]
  exact fun hsome => nomatch hsome

theorem exists_of_arrive_refused
    (h : arrive disk root request path = .error (.tooManyHops request)) :
    ∃ target, follow disk root path = .ok (some target) := by
  unfold arrive at h
  split at h
  next => exact nomatch h
  next target htarget => exact ⟨target, htarget⟩
  next => exact nomatch h

/-! ## Calls -/

namespace Follows

theorem unique (h : Follows disk root request hops path calls result) {calls' : Nat}
    {result' : Except Failure (List String)}
    (h' : Follows disk root request hops path calls' result') :
    calls' = calls ∧ result' = result := by
  induction h generalizing calls' result' with
  | arrived hnone =>
      cases h' with
      | arrived _ => exact ⟨rfl, rfl⟩
      | unread hfault => exact nomatch hnone.symm.trans hfault
      | refused htarget | hop htarget _ _ => exact absurd htarget (ne_some_of_none hnone _)
  | unread hfault =>
      cases h' with
      | arrived hnone => exact nomatch hnone.symm.trans hfault
      | unread hother =>
          obtain rfl := Except.error.inj (hfault.symm.trans hother)
          exact ⟨rfl, rfl⟩
      | refused htarget | hop htarget _ _ => exact absurd htarget (ne_some_of_fault hfault _)
  | refused htarget =>
      cases h' with
      | arrived hnone => exact absurd htarget (ne_some_of_none hnone _)
      | unread hfault => exact absurd htarget (ne_some_of_fault hfault _)
      | refused _ => exact ⟨rfl, rfl⟩
      | hop _ hlimit _ => exact absurd rfl hlimit
  | hop htarget hlimit _ ih =>
      cases h' with
      | arrived hnone => exact absurd htarget (ne_some_of_none hnone _)
      | unread hfault => exact absurd htarget (ne_some_of_fault hfault _)
      | refused _ => exact absurd rfl hlimit
      | hop htarget' _ hrest' =>
          obtain rfl := Option.some.inj (Except.ok.inj (htarget.symm.trans htarget'))
          obtain ⟨rfl, rfl⟩ := ih hrest'
          exact ⟨rfl, rfl⟩

/-- What comes of following says how often it was possible. -/
theorem followed_cases (h : Follows disk root request hops path calls result)
    (hhops : hops ≤ hopsMax) :
    ∃ count, (followed disk root count path).isSome ∧
      ((hops + count ≤ hopsMax ∧ ∃ last, followed disk root count path = some last ∧
          (∀ target, follow disk root last ≠ .ok (some target)) ∧
          result = arrive disk root request last) ∨
        (hops + count = hopsMax + 1 ∧ result = .error (.tooManyHops request))) := by
  -- `count` is of the markers from here on, `hops` of those before
  induction h with
  | @arrived hops path hnone =>
      refine ⟨0, rfl, .inl ⟨hhops, path, rfl, ne_some_of_none hnone, ?_⟩⟩
      rw [arrive, hnone]
  | @unread hops path fault hfault =>
      refine ⟨0, rfl, .inl ⟨hhops, path, rfl, ne_some_of_fault hfault, ?_⟩⟩
      rw [arrive, hfault]
  | @refused path target htarget =>
      refine ⟨1, ?_, .inr ⟨rfl, rfl⟩⟩
      rw [followed_succ htarget]
      rfl
  | @hop hops calls path target result htarget hlimit _ ih =>
      have hnext : hops + 1 ≤ hopsMax := by omega
      obtain ⟨count, hsome, hcases⟩ := ih hnext
      refine ⟨count + 1, ?_, ?_⟩
      · rw [followed_succ htarget]
        exact hsome
      · rw [followed_succ htarget, ← Nat.add_assoc, Nat.add_right_comm]
        exact hcases

/-- Where files can be read, following arrives or goes too far. -/
theorem ok_or_error (h : Follows disk root request hops path calls result)
    (hreadable : disk.Readable) :
    (∃ last, result = .ok last) ∨ result = .error (.tooManyHops request) := by
  induction h with
  | arrived _ => exact .inl ⟨_, rfl⟩
  | @unread _ path fault hfault =>
      obtain ⟨target?, hfollow⟩ := exists_follow_eq hreadable root path
      exact nomatch hfault.symm.trans hfollow
  | refused _ => exact .inr rfl
  | hop _ _ _ ih => exact ih

theorem ok_iff (h : Follows disk root request 0 path calls result) :
    result = .ok last ↔ ∃ count ≤ hopsMax,
      followed disk root count path = some last ∧ follow disk root last = .ok none := by
  obtain ⟨count, hsome, ⟨hcount, arrived, hlast, hend, rfl⟩ | ⟨hcount, rfl⟩⟩ :=
    h.followed_cases (Nat.zero_le _)
  · constructor
    · intro hresult
      obtain ⟨rfl, hnone⟩ := eq_of_arrive hresult
      exact ⟨count, by omega, hlast, hnone⟩
    · rintro ⟨other, -, hother, hnone⟩
      have hle : count ≤ other := le_of_followed hother (ne_some_of_none hnone) hsome
      have hge : other ≤ count := le_of_followed hlast hend (Option.isSome_of_eq_some hother)
      obtain rfl := Nat.le_antisymm hle hge
      obtain rfl := Option.some.inj (hlast.symm.trans hother)
      rw [arrive, hnone]
  · refine iff_of_false (by rintro ⟨⟩) ?_
    rintro ⟨other, hother, hlast, hnone⟩
    have hle : count ≤ other := le_of_followed hlast (ne_some_of_none hnone) hsome
    omega

theorem error_iff (h : Follows disk root request 0 path calls result) :
    result = .error (.tooManyHops request) ↔
      (followed disk root (hopsMax + 1) path).isSome := by
  obtain ⟨count, hsome, ⟨hcount, arrived, hlast, hend, rfl⟩ | ⟨hcount, rfl⟩⟩ :=
    h.followed_cases (Nat.zero_le _)
  · constructor
    · intro hresult
      obtain ⟨target, htarget⟩ := exists_of_arrive_refused hresult
      exact absurd htarget (hend target)
    · intro hmore
      have hle : hopsMax + 1 ≤ count := le_of_followed hlast hend hmore
      omega
  · rw [Nat.zero_add] at hcount
    rw [← hcount]
    exact iff_of_true rfl hsome

end Follows

/-- The trail of markers is what following them call by call goes through. -/
theorem follows_trail (disk : Disk) (root request : String) (hcount : hops + count = hopsMax)
    (path : List String) :
    ∃ calls ≤ count + 1, Follows disk root request hops path calls
      (arrive disk root request ((trail disk root count path).getLastD path)) := by
  induction count generalizing hops path with
  | zero =>
      obtain rfl : hops = hopsMax := hcount
      refine ⟨1, Nat.le_refl 1, ?_⟩
      rw [trail, List.getLastD_nil, arrive]
      split
      next hfault => exact .unread hfault
      next htarget => exact .refused htarget
      next hnone => exact .arrived hnone
  | succ count ih =>
      rw [trail]
      split
      next target htarget =>
        have hnext : hops + 1 + count = hopsMax := by omega
        have hlimit : hops ≠ hopsMax := by omega
        obtain ⟨calls, hcalls, hrest⟩ := ih hnext target
        refine ⟨calls + 1, Nat.succ_le_succ hcalls, ?_⟩
        rw [List.getLastD_cons]
        exact .hop htarget hlimit hrest
      next hstop =>
        refine ⟨1, by omega, ?_⟩
        rw [List.getLastD_nil, arrive]
        split
        next hfault => exact .unread hfault
        next target htarget => exact absurd htarget (hstop target)
        next hnone => exact .arrived hnone

theorem follows_resolve (disk : Disk) (root : String) (h : canonical request ≠ []) :
    ∃ calls ≤ hopsMax + 1, Follows disk root request 0 (canonical request) calls
      (resolve disk root true request) := by
  obtain ⟨calls, hcalls, hfollows⟩ :=
    follows_trail disk root request (Nat.zero_add hopsMax) (canonical request)
  refine ⟨calls, hcalls, ?_⟩
  simpa [resolve, h, hopsOf] using hfollows

/-! ## Requests that are followed -/

theorem file_of_follow (h : follow disk root path = .ok (some target)) :
    target ≠ [] ∧ ∃ file, disk.file? (located root target) = some file := by
  have hfile := (follow_eq_some_iff.mp h).2
  simpa [namesFile, Option.isSome_iff_exists] using hfile

theorem file_of_followed (h : followed disk root (count + 1) path = some last) :
    ∃ file, disk.file? (located root last) = some file := by
  obtain ⟨previous, -, hlast⟩ := exists_of_followed_succ h
  exact (file_of_follow hlast).2

theorem openResolved_of_file (hreadable : disk.Readable) {file : FileId}
    (h : disk.file? (located root path) = some file) :
    openResolved disk root path = .ok (.ofFile disk (joined path) file) := by
  obtain ⟨place, hlocate⟩ := Disk.locate_of_file? h
  simp only [openResolved, Transfer.open, hreadable.openPath_eq hlocate]

/-- A transfer starts with its first block or with its options. -/
theorem firstPacket_reply {transfer after : Transfer} {options : Options} {reply : Packet}
    (h : firstPacket disk transfer options = .ok (after, reply)) :
    (∃ payload, reply = .data 1 payload) ∨ ∃ granted, reply = .optionAck granted := by
  unfold firstPacket at h
  split at h
  · exact .inl ⟨_, (Transfer.sendBlock_inv h).2.1⟩
  · exact .inr ⟨_, (Prod.mk.inj (Except.ok.inj h)).2.symm⟩

/-- The only thing to keep a transfer from starting is that its first block cannot be read. -/
theorem firstPacket_eq_error {transfer : Transfer} {options : Options} {failure : Failure}
    (h : firstPacket disk transfer options = .error failure) :
    (granted options transfer.size).isEmpty ∧ ∃ cause, failure = .system cause ∧
      disk.refusals.reading transfer.file 0 transfer.blockSize.toNat = some cause := by
  unfold firstPacket at h
  split at h
  next hnothing =>
    obtain ⟨cause, hread, rfl⟩ := Transfer.fault_of_sendBlock h
    rw [Transfer.readBlock_one] at hread
    exact ⟨hnothing, cause, rfl, Disk.answer_eq_error_iff.mp hread⟩
  next => cases h

theorem exists_firstPacket_eq (hreadable : disk.Readable) (transfer : Transfer)
    (options : Options) :
    ∃ after packet, firstPacket disk transfer options = .ok (after, packet) := by
  cases hfirst : firstPacket disk transfer options with
  | ok first => exact ⟨first.1, first.2, rfl⟩
  | error failure =>
      obtain ⟨-, cause, -, hrefuses⟩ := firstPacket_eq_error hfirst
      exact absurd (.reading ⟨_, _, hrefuses⟩) (hreadable cause)

theorem launch_reply (hreadable : disk.Readable) (sessions : Sessions) (client : IPv4)
    (transfer : Transfer) (mode : String) (options : Options) :
    (∃ payload, (launch disk sessions client transfer mode options).reply =
        some (.data 1 payload)) ∨
      ∃ granted, (launch disk sessions client transfer mode options).reply =
        some (.optionAck granted) := by
  obtain ⟨after, packet, hfirst⟩ := exists_firstPacket_eq hreadable transfer options
  have hreply : (launch disk sessions client transfer mode options).reply = some packet := by
    simp only [launch, hfirst, Work.reply]
  rw [hreply]
  rcases firstPacket_reply hfirst with ⟨payload, rfl⟩ | ⟨granted, rfl⟩
  · exact .inl ⟨payload, rfl⟩
  · exact .inr ⟨granted, rfl⟩

/-- Where files can be read, a request that was followed is answered from the file that it was
followed to, or it was followed too far. -/
theorem reply_of_follow (hreadable : disk.Readable) {config : Config}
    (hmarkers : config.tftp.followMarkers = true)
    (htarget : follow disk config.tftp.root (canonical request) = .ok (some target))
    (sessions : Sessions) (now : Nat) (client : IPv4) (port : UInt16) (mode : String)
    (options : Options) :
    let answer := handle config disk sessions now client port (.readRequest request mode options)
    answer.reply = some (Failure.tooManyHops request).packet ∨
      (∃ payload, answer.reply = some (.data 1 payload)) ∨
      ∃ granted, answer.reply = some (.optionAck granted) := by
  intro answer
  have hne : canonical request ≠ [] := by
    intro hempty
    have hnone : follow disk config.tftp.root [] = .ok none := rfl
    rw [hempty, hnone] at htarget
    cases htarget
  obtain ⟨calls, -, hfollows⟩ := follows_resolve disk config.tftp.root hne
  unfold answer
  rw [handle, finish_reply, perform]
  rcases hfollows.ok_or_error hreadable with ⟨last, hlast⟩ | hmany
  · obtain ⟨count, -, hcount, hend⟩ := hfollows.ok_iff.mp hlast
    have hfile : ∃ file, disk.file? (located config.tftp.root last) = some file := by
      cases count with
      | zero =>
          obtain rfl := Option.some.inj hcount
          exact absurd htarget (ne_some_of_none hend _)
      | succ count => exact file_of_followed hcount
    obtain ⟨file, hfile⟩ := hfile
    simp only [onRead, openRequested, hmarkers, hlast, openResolved_of_file hreadable hfile]
    exact .inr (launch_reply hreadable _ _ _ _ _)
  · refine .inl ?_
    simp only [onRead, openRequested, hmarkers, hmany, Work.reply]

/-- Following markers ends, whatever they lead to: after at most nine calls, with the path that so
many of them lead to and that has no marker, or with the failure of a ninth one to follow, and where
files can be read there is no other end. Every path that a marker leads to names a file, so what was
followed there is never said to be missing. -/
theorem marker_following_is_bounded (disk : Disk) (root request : String)
    (h : canonical request ≠ []) :
    let answer := resolve disk root true request
    (∀ path, answer = .ok path ↔ ∃ count ≤ 8,
      followed disk root count (canonical request) = some path ∧
        follow disk root path = .ok none) ∧
    (answer = .error (.tooManyHops request) ↔
      (followed disk root 9 (canonical request)).isSome) ∧
    (disk.Readable → (∃ path, answer = .ok path) ∨ answer = .error (.tooManyHops request)) ∧
    (∃ calls ≤ 9, ∀ count result,
      Follows disk root request 0 (canonical request) count result ↔
        count = calls ∧ result = answer) ∧
    (∀ path target, follow disk root path = .ok (some target) →
      target ≠ [] ∧ ∃ file, disk.file? (located root target) = some file) ∧
    (disk.Readable → ∀ config : Config, config.tftp.root = root →
      config.tftp.followMarkers = true →
      (∃ target, follow disk root (canonical request) = .ok (some target)) →
      ∀ sessions now client port mode options message,
        (handle config disk sessions now client port (.readRequest request mode options)).reply ≠
          some (.error .fileNotFound message)) := by
  intro answer
  obtain ⟨calls, hcalls, hfollows⟩ := follows_resolve disk root h
  refine ⟨fun path => hfollows.ok_iff, hfollows.error_iff, hfollows.ok_or_error, ?_, ?_, ?_⟩
  · refine ⟨calls, hcalls, fun count result => ⟨hfollows.unique, ?_⟩⟩
    rintro ⟨rfl, rfl⟩
    exact hfollows
  · exact fun path target => file_of_follow
  · rintro hreadable config rfl hmarkers ⟨target, htarget⟩ sessions now client port mode options
      message hmissing
    rcases reply_of_follow hreadable hmarkers htarget sessions now client port mode options with
      hmany | ⟨payload, hdata⟩ | ⟨granted, hoptions⟩
    · exact nomatch hmany.symm.trans hmissing
    · exact nomatch hdata.symm.trans hmissing
    · exact nomatch hoptions.symm.trans hmissing

namespace Small

/-- A marker stands for a directory, and a marker in there and one beside it lead to each other. Two
other markers lead on to a kernel. -/
def cycle : Disk where
  entries := ⟨[(["srv"], .directory), (["srv", "stable"], .file 0), (["srv", "v2"], .directory),
    (["srv", "v2", "linux"], .file 1), (["srv", "linux"], .file 2), (["srv", "latest"], .file 3),
    (["srv", "image"], .file 4), (["srv", "kernel"], .file 5)]⟩
  contents := ⟨[(0, "v2".toUTF8.toList), (1, "../linux".toUTF8.toList),
    (2, "v2/linux".toUTF8.toList), (3, "image".toUTF8.toList), (4, "kernel".toUTF8.toList),
    (5, data)]⟩
  nextFile := 6
  workingDirectory := []

end Small

/-- Around the cycle there is no end, and a request that comes to it is refused. The other two
markers are followed to the kernel, which is not said to be missing. -/
theorem small_cycle_is_refused :
    canonical "stable/linux" ≠ [] ∧
      (followed Small.cycle "/srv" 9 (canonical "stable/linux")).isSome ∧
      resolve Small.cycle "/srv" true "stable/linux" = .error (.tooManyHops "stable/linux") ∧
      followed Small.cycle "/srv" 2 (canonical "latest") = some ["kernel"] ∧
      resolve Small.cycle "/srv" true "latest" = .ok ["kernel"] ∧
      ∀ message, (handle Small.markedConfig Small.cycle (.empty 0) 0 Small.client 2000
        (.readRequest "latest" "octet" [])).reply ≠ some (.error .fileNotFound message) := by
  have hrequest : canonical "stable/linux" ≠ [] := by decide +kernel
  have hlatest : canonical "latest" ≠ [] := by decide +kernel
  have hfollowed : (followed Small.cycle "/srv" 9 (canonical "stable/linux")).isSome := by
    decide +kernel
  have htwice : followed Small.cycle "/srv" 2 (canonical "latest") = some ["kernel"] := by
    decide +kernel
  have hend : follow Small.cycle "/srv" ["kernel"] = .ok none :=
    eq_ok_of_toOption (by decide +kernel)
  have hfirst : follow Small.cycle "/srv" (canonical "latest") = .ok (some ["image"]) :=
    eq_ok_of_toOption (by decide +kernel)
  obtain ⟨-, hrefused, -⟩ := marker_following_is_bounded Small.cycle "/srv" "stable/linux" hrequest
  obtain ⟨harrived, -, -, -, -, hfound⟩ :=
    marker_following_is_bounded Small.cycle "/srv" "latest" hlatest
  exact ⟨hrequest, hfollowed, hrefused.mpr hfollowed, htwice,
    (harrived _).mpr ⟨2, by decide, htwice, hend⟩,
    hfound (Disk.readable_of_refusals_eq rfl) Small.markedConfig rfl rfl ⟨_, hfirst⟩ _ _ _ _ _ _⟩

end BootServer.Tftp
