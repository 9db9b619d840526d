import BootServer.Storage.Disk

/-!
# What is refused

A path that leads nowhere cannot be opened, and the file service may be refused what the tree
allows. What it is not refused is what the tree holds.
-/

namespace BootServer

/-- Of what may be refused, only results are left as options. -/
theorem eq_ok_of_toOption {ε α : Type} {answer : Except ε α} {a : α}
    (h : answer.toOption = some a) : answer = .ok a := by
  cases answer with
  | error fault => exact nomatch h
  | ok result => exact congrArg Except.ok (Option.some.inj h)

namespace Disk

/-- An open file cannot be read somewhere. -/
def RefusesReading (disk : Disk) (file : FileId) (fault : Fault) : Prop :=
  ∃ offset length, disk.refusals.reading file offset length = some fault

/-- Why something is refused that the tree allows. -/
inductive Refuses (disk : Disk) : Fault → Prop
  | opening {path : String} {fault : Fault} (h : disk.refusals.opening path = some fault) :
      Refuses disk fault
  | contents {path : String} {fault : Fault} (h : disk.refusals.contents path = some fault) :
      Refuses disk fault
  | reading {file : FileId} {fault : Fault} (h : disk.RefusesReading file fault) :
      Refuses disk fault

/-- All files can be opened and read. -/
def Readable (disk : Disk) : Prop := ∀ fault, ¬ disk.Refuses fault

/-- An open file holds `data` and can be read. -/
structure Holds (disk : Disk) (file : FileId) (data : Bytes) : Prop where
  content_eq : disk.content file = data
  readable : ∀ fault, ¬ disk.RefusesReading file fault

variable {disk : Disk} {path : String} {file : FileId} {offset length : Nat} {entry : Entry}
  {data : Bytes} {fault : Fault}

theorem answer_eq_ok_iff {α : Type} {refusal : Option Fault} {answer other : α} :
    refusal.elim (.ok answer) .error = (.ok other : Except Fault α) ↔
      refusal = none ∧ answer = other := by
  cases refusal with
  | none => simp
  | some fault => simp

theorem answer_eq_error_iff {α : Type} {refusal : Option Fault} {answer : α} :
    refusal.elim (.ok answer) .error = (.error fault : Except Fault α) ↔ refusal = some fault := by
  cases refusal with
  | none => simp
  | some cause => simp

theorem locate_of_openPath (h : disk.openPath path = .ok entry) :
    ∃ place, disk.locate path = .ok (place, entry) := by
  unfold openPath at h
  split at h
  next => exact nomatch h
  next place found hlocate =>
    obtain ⟨-, rfl⟩ := answer_eq_ok_iff.mp h
    exact ⟨place, hlocate⟩

/-- What cannot be opened is not found, or it is found and refused. -/
theorem openPath_eq_error (h : disk.openPath path = .error fault) :
    disk.locate path = .error fault ∨
      (∃ place entry, disk.locate path = .ok (place, entry)) ∧ disk.Refuses fault := by
  unfold openPath at h
  split at h
  next hlocate =>
    obtain rfl := Except.error.inj h
    exact .inl hlocate
  next place found hlocate =>
    exact .inr ⟨⟨place, found, hlocate⟩, .opening (answer_eq_error_iff.mp h)⟩

theorem readPart_cases (disk : Disk) (file : FileId) (offset length : Nat) :
    disk.readPart file offset length = .ok (Bytes.slice (disk.content file) offset length) ∨
      ∃ fault, disk.readPart file offset length = .error fault ∧
        disk.RefusesReading file fault := by
  unfold readPart
  cases hrefusal : disk.refusals.reading file offset length with
  | none => exact .inl rfl
  | some fault => exact .inr ⟨fault, rfl, offset, length, hrefusal⟩

namespace Readable

theorem openPath_eq (h : disk.Readable) {place : Place}
    (hlocate : disk.locate path = .ok (place, entry)) : disk.openPath path = .ok entry := by
  cases hopen : disk.openPath path with
  | ok found =>
      obtain ⟨other, hother⟩ := locate_of_openPath hopen
      obtain ⟨-, rfl⟩ := Prod.mk.inj (Except.ok.inj (hlocate.symm.trans hother))
      rfl
  | error fault =>
      rcases openPath_eq_error hopen with hnowhere | ⟨-, hrefuses⟩
      · exact nomatch hlocate.symm.trans hnowhere
      · exact absurd hrefuses (h fault)

theorem contents_eq (h : disk.Readable) (path : String) : disk.refusals.contents path = none :=
  Option.eq_none_iff_forall_ne_some.mpr fun fault hfault => h fault (.contents hfault)

theorem holds (h : disk.Readable) (file : FileId) : disk.Holds file (disk.content file) where
  content_eq := rfl
  readable fault hrefuses := h fault (.reading hrefuses)

end Readable

theorem readable_of_refusals_eq (h : disk.refusals = {}) : disk.Readable := by
  intro fault hrefuses
  cases hrefuses with
  | opening hfault | contents hfault =>
      rw [h] at hfault
      exact nomatch hfault
  | reading hfault =>
      obtain ⟨offset, length, hfault⟩ := hfault
      rw [h] at hfault
      exact nomatch hfault

end Disk

end BootServer
