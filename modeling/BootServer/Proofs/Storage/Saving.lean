import BootServer.Config.Storage
import BootServer.Proofs.Storage.Paths
import BootServer.Proofs.Text.Utf8

/-!
# Files written and renamed

Where a path leads is a matter of the directories on its way, and writing or renaming a file leaves
the directories alone. So a configuration that could be saved once can be saved again, and what is
read at its path is what was written.
-/

namespace BootServer

namespace Disk

variable {disk other : Disk} {here place : Place} {path part name : String} {data : Bytes}
  {parts : List String}

/-! ## Directories -/

/-- Two trees with the same directories and the same working directory. -/
structure SameDirectories (disk other : Disk) : Prop where
  workingDirectory : other.workingDirectory = disk.workingDirectory
  directory_iff : ∀ place,
    other.entryAt place = some .directory ↔ disk.entryAt place = some .directory

theorem SameDirectories.symm (h : SameDirectories disk other) : SameDirectories other disk where
  workingDirectory := h.workingDirectory.symm
  directory_iff place := (h.directory_iff place).symm

theorem SameDirectories.trans {third : Disk} (h : SameDirectories disk other)
    (hnext : SameDirectories other third) : SameDirectories disk third where
  workingDirectory := hnext.workingDirectory.trans h.workingDirectory
  directory_iff place := (hnext.directory_iff place).trans (h.directory_iff place)

theorem directory_of_step (h : disk.step here part = .ok place) :
    disk.entryAt here = some .directory := by
  unfold step at h
  split at h
  next => cases h
  next => cases h
  next hhere => exact hhere

/-- Every place that a walk to a directory comes by is a directory. -/
theorem directory_of_walk (h : disk.walk here parts = .ok place)
    (hplace : disk.entryAt place = some .directory) : disk.entryAt here = some .directory := by
  cases parts with
  | nil =>
      obtain rfl := Except.ok.inj h
      exact hplace
  | cons part parts =>
      rw [walk] at h
      split at h
      next => cases h
      next next hstep => exact directory_of_step hstep

theorem step_of_directory (h : disk.entryAt here = some .directory) (part : String) :
    disk.step here part =
      if part = "." then .ok here
      else if part = ".." then .ok here.dropLast
      else if nameMax < part.utf8ByteSize then .error .nameTooLong
      else if (disk.entryAt (here ++ [part])).isSome then .ok (here ++ [part])
      else .error .notFound := by
  rw [step, h]

theorem step_congr (hdirs : SameDirectories disk other) (h : disk.step here part = .ok place)
    (hplace : disk.entryAt place = some .directory) : other.step here part = .ok place := by
  have hhere := directory_of_step h
  rw [step_of_directory hhere] at h
  rw [step_of_directory ((hdirs.directory_iff here).mpr hhere)]
  by_cases hdot : part = "."
  · rw [if_pos hdot] at h ⊢
    exact h
  · rw [if_neg hdot] at h ⊢
    by_cases hup : part = ".."
    · rw [if_pos hup] at h ⊢
      exact h
    · rw [if_neg hup] at h ⊢
      by_cases hlong : nameMax < part.utf8ByteSize
      · rw [if_pos hlong] at h
        cases h
      · rw [if_neg hlong] at h ⊢
        split at h
        next =>
          obtain rfl := Except.ok.inj h
          rw [(hdirs.directory_iff _).mpr hplace]
          rfl
        next => cases h

theorem walk_congr (hdirs : SameDirectories disk other) (h : disk.walk here parts = .ok place)
    (hplace : disk.entryAt place = some .directory) : other.walk here parts = .ok place := by
  induction parts generalizing here with
  | nil => exact h
  | cons part parts ih =>
      rw [walk] at h ⊢
      split at h
      next => cases h
      next next hstep =>
        rw [step_congr hdirs hstep (directory_of_walk h hplace)]
        exact ih h

/-! ## Names in directories -/

/-- A path names an entry of a directory, whether there is one or not. -/
structure Names (disk : Disk) (path : String) (here : Place) (name : String) : Prop where
  text : checkText path = .ok ()
  walk : disk.walk (disk.start path) (Path.components path).dropLast = .ok here
  directory : disk.entryAt here = some .directory
  last : (Path.components path).getLast? = some name
  ne_dot : name ≠ "."
  ne_dotDot : name ≠ ".."
  short : name.utf8ByteSize ≤ nameMax

theorem locateSlot_eq_ok_iff :
    disk.locateSlot path = .ok (here, some name) ↔ disk.Names path here name := by
  constructor
  · intro h
    simp only [locateSlot, bind, Except.bind] at h
    split at h
    next => exact nomatch h
    next htext =>
      split at h
      next => exact nomatch h
      next place hwalk =>
        split at h
        next => exact nomatch h
        next => exact nomatch h
        next hdirectory =>
          split at h
          next => exact nomatch h
          next last hlast =>
            split at h
            next => exact nomatch h
            next hdots =>
              split at h
              next => exact nomatch h
              next hshort =>
                obtain ⟨rfl, hname⟩ := Prod.mk.inj (Except.ok.inj h)
                obtain rfl := Option.some.inj hname
                rw [not_or] at hdots
                exact ⟨htext, hwalk, hdirectory, hlast, hdots.1, hdots.2, Nat.le_of_not_lt hshort⟩
  · intro h
    simp only [locateSlot, bind, Except.bind, h.text, h.walk, h.directory, h.last]
    rw [if_neg (not_or.mpr ⟨h.ne_dot, h.ne_dotDot⟩), if_neg (Nat.not_lt.mpr h.short)]

theorem Names.unique {there : Place} {newName : String} (h : disk.Names path here name)
    (hother : disk.Names path there newName) : here = there ∧ name = newName := by
  have hslot := (locateSlot_eq_ok_iff.mpr h).symm.trans (locateSlot_eq_ok_iff.mpr hother)
  obtain ⟨hplace, hname⟩ := Prod.mk.inj (Except.ok.inj hslot)
  exact ⟨hplace, Option.some.inj hname⟩

theorem Names.congr (h : disk.Names path here name) (hdirs : SameDirectories disk other) :
    other.Names path here name := by
  have hstart : other.start path = disk.start path := by
    rw [start, start, hdirs.workingDirectory]
  refine { h with walk := ?_, directory := ?_ }
  · rw [hstart]
    exact walk_congr hdirs h.walk h.directory
  · exact (hdirs.directory_iff here).mpr h.directory

theorem Names.placeOf_eq (h : disk.Names path here name) :
    disk.placeOf path =
      if (disk.entryAt (here ++ [name])).isSome then .ok (here ++ [name]) else .error .notFound := by
  obtain ⟨front, hfront⟩ := List.getLast?_eq_some_iff.mp h.last
  have hfirst := h.walk
  rw [hfront, List.dropLast_concat] at hfirst
  rw [placeOf, hfront, walk_concat, hfirst, Except.bind, step_of_directory h.directory,
    if_neg h.ne_dot, if_neg h.ne_dotDot, if_neg (Nat.not_lt.mpr h.short)]

/-- The file that a name of a directory stands for is found by its path. -/
theorem Names.locate {id : FileId} (h : disk.Names path here name)
    (hentry : disk.entryAt (here ++ [name]) = some (.file id))
    (hslash : Path.endsInSlash path = false) :
    disk.locate path = .ok (here ++ [name], .file id) := by
  have hwalk : disk.walk (disk.start path) (Path.components path) = .ok (here ++ [name]) := by
    rw [← placeOf, h.placeOf_eq, hentry]
    rfl
  simp only [Disk.locate, bind, Except.bind, h.text, hwalk, hentry, hslash]
  rfl

/-! ## Writing -/

theorem entryAt_append (disk : Disk) (here : Place) (name : String) :
    disk.entryAt (here ++ [name]) = disk.entries.get? (here ++ [name]) := by
  rw [entryAt, if_neg]
  simp

/-- The file at a place after octets have been stored there. -/
theorem entryAt_store (disk : Disk) (here : Place) (name : String) (data : Bytes) :
    ∃ id, (disk.store (here ++ [name]) data).entryAt (here ++ [name]) = some (.file id) ∧
      (disk.store (here ++ [name]) data).content id = data := by
  unfold store
  split
  next id hid =>
    refine ⟨id, hid, ?_⟩
    rw [content, Table.get?_insert_self]
    rfl
  next =>
    refine ⟨disk.nextFile, ?_, ?_⟩
    · rw [entryAt_append, Table.get?_insert_self]
    · rw [content, Table.get?_insert_self]
      rfl

theorem entryAt_store_of_ne (data : Bytes) {elsewhere : Place} (h : elsewhere ≠ place) :
    (disk.store place data).entryAt elsewhere = disk.entryAt elsewhere := by
  unfold store
  split
  next => rfl
  next =>
    unfold entryAt
    split
    next => rfl
    next => exact Table.get?_insert_of_ne _ _ h

theorem sameDirectories_store (data : Bytes)
    (h : disk.entryAt (here ++ [name]) ≠ some .directory) :
    SameDirectories disk (disk.store (here ++ [name]) data) where
  workingDirectory := by
    unfold store
    split <;> rfl
  directory_iff elsewhere := by
    by_cases hplace : elsewhere = here ++ [name]
    · subst hplace
      obtain ⟨id, hentry, -⟩ := entryAt_store disk here name data
      rw [hentry]
      exact ⟨nofun, fun hdirectory => absurd hdirectory h⟩
    · rw [entryAt_store_of_ne data hplace]

/-- What it takes to make or overwrite the file that a path names. -/
structure Writable (disk : Disk) (path : String) (here : Place) (name : String) : Prop where
  names : disk.Names path here name
  no_slash : Path.endsInSlash path = false
  no_directory : disk.entryAt (here ++ [name]) ≠ some .directory

theorem Writable.congr (h : disk.Writable path here name) (hdirs : SameDirectories disk other) :
    other.Writable path here name where
  names := h.names.congr hdirs
  no_slash := h.no_slash
  no_directory hdirectory := h.no_directory ((hdirs.directory_iff _).mp hdirectory)

theorem write_eq_ok_iff {written : Disk} :
    disk.write path data = .ok written ↔
      ∃ here name, disk.Writable path here name ∧ written = disk.store (here ++ [name]) data := by
  constructor
  · intro h
    simp only [write, bind, Except.bind] at h
    split at h
    next => exact nomatch h
    next slot hslot =>
      split at h
      next => exact nomatch h
      next here name =>
        split at h
        next => exact nomatch h
        next hfree =>
          obtain rfl := Except.ok.inj h
          rw [Bool.or_eq_true, not_or, beq_iff_eq] at hfree
          exact ⟨here, name, ⟨locateSlot_eq_ok_iff.mp hslot, eq_false_of_ne_true hfree.1, hfree.2⟩,
            rfl⟩
  · rintro ⟨here, name, hwritable, rfl⟩
    have hfree : (Path.endsInSlash path || disk.entryAt (here ++ [name]) == some .directory) =
        false := by
      rw [hwritable.no_slash, Bool.false_or]
      exact beq_eq_false_iff_ne.mpr hwritable.no_directory
    simp only [write, bind, Except.bind, locateSlot_eq_ok_iff.mpr hwritable.names, hfree]
    rfl

/-! ## Renaming -/

/-- The tree in which the file at one place has been given another one. -/
def moved (disk : Disk) (source target : Place) (id : FileId) : Disk :=
  { disk with entries := (disk.entries.erase source).insert target (.file id) }

variable {source target : Place} {id : FileId}

theorem entryAt_moved_self (disk : Disk) (source here : Place) (name : String) (id : FileId) :
    (disk.moved source (here ++ [name]) id).entryAt (here ++ [name]) = some (.file id) := by
  rw [entryAt_append, moved, Table.get?_insert_self]

theorem entryAt_moved_of_ne {there : Place} (id : FileId) (htarget : place ≠ there)
    (hsource : place ≠ source) :
    (disk.moved source there id).entryAt place = disk.entryAt place := by
  unfold moved entryAt
  split
  next => rfl
  next => rw [Table.get?_insert_of_ne _ _ htarget, Table.get?_erase_of_ne _ hsource]

theorem entryAt_moved_source {there : Place} {id : FileId}
    (hsource : disk.entryAt source = some (.file id)) (hne : source ≠ there) :
    (disk.moved source there id).entryAt source = none := by
  unfold moved
  unfold entryAt at hsource ⊢
  split
  next hroot => cases if_pos hroot ▸ hsource
  next => rw [Table.get?_insert_of_ne _ _ hne, Table.get?_erase_self]

theorem sameDirectories_moved (hsource : disk.entryAt source = some (.file id))
    (htarget : disk.entryAt (here ++ [name]) ≠ some .directory) :
    SameDirectories disk (disk.moved source (here ++ [name]) id) where
  workingDirectory := rfl
  directory_iff place := by
    by_cases hplace : place = here ++ [name]
    · subst hplace
      rw [entryAt_moved_self]
      exact ⟨nofun, fun hdirectory => absurd hdirectory htarget⟩
    · by_cases hold : place = source
      · subst hold
        rw [entryAt_moved_source hsource hplace, hsource]
        exact ⟨nofun, nofun⟩
      · rw [entryAt_moved_of_ne id hplace hold]

theorem rename_eq_ok_iff {source target : String} {renamed : Disk} :
    disk.rename source target = .ok renamed ↔
      ∃ here name there newName id, disk.Names source here name ∧
        Path.endsInSlash source = false ∧ disk.entryAt (here ++ [name]) = some (.file id) ∧
        disk.Writable target there newName ∧
        renamed = disk.moved (here ++ [name]) (there ++ [newName]) id := by
  constructor
  · intro h
    simp only [rename, bind, Except.bind] at h
    split at h
    next => exact nomatch h
    next slot hslot =>
      split at h
      next => exact nomatch h
      next newSlot hnewSlot =>
        split at h
        next name newName hname hnewName =>
          split at h
          next => exact nomatch h
          next => exact nomatch h
          next id hentry =>
            split at h
            next => exact nomatch h
            next hslash =>
              split at h
              next => exact nomatch h
              next hdirectory =>
                obtain rfl := Except.ok.inj h
                rw [Bool.or_eq_true, not_or] at hslash
                have hnames : disk.Names source slot.1 name := by
                  rw [← locateSlot_eq_ok_iff, ← hname]
                  exact hslot
                have hnewNames : disk.Names target newSlot.1 newName := by
                  rw [← locateSlot_eq_ok_iff, ← hnewName]
                  exact hnewSlot
                exact ⟨slot.1, name, newSlot.1, newName, id, hnames, eq_false_of_ne_true hslash.1,
                  hentry, ⟨hnewNames, eq_false_of_ne_true hslash.2, hdirectory⟩, rfl⟩
        next => exact nomatch h
  · rintro ⟨here, name, there, newName, id, hnames, hslash, hentry, hwritable, rfl⟩
    simp only [rename, bind, Except.bind, locateSlot_eq_ok_iff.mpr hnames,
      locateSlot_eq_ok_iff.mpr hwritable.names, hentry, hslash, hwritable.no_slash, Bool.or_self]
    exact if_neg hwritable.no_directory

end Disk

/-! ## Saving a configuration -/

namespace Config

open Disk

variable {config other : Config} {disk saved : Disk} {path : String}

/-- What it takes to save a configuration: its file and the file's sibling can be written. -/
structure Savable (disk : Disk) (path : String) : Prop where
  sibling : ∃ here name, disk.Writable (temporaryPath path) here name
  file : ∃ here name, disk.Writable path here name

theorem Savable.congr {next : Disk} (h : Savable disk path) (hdirs : SameDirectories disk next) :
    Savable next path where
  sibling := h.sibling.imp fun _ => Exists.imp fun _ hwritable => hwritable.congr hdirs
  file := h.file.imp fun _ => Exists.imp fun _ hwritable => hwritable.congr hdirs

/-- The tree after a configuration's text was written to one place. -/
def written (config : Config) (disk : Disk) (path : String) (place : Place) : Disk :=
  disk.store place (Text.Utf8.encode (config.serialized path))

theorem sameDirectories_written {here : Place} {name : String} (config : Config)
    (h : disk.Writable (temporaryPath path) here name) :
    SameDirectories disk (config.written disk path (here ++ [name])) :=
  sameDirectories_store _ h.no_directory

theorem save_of_rename {middle : Disk}
    (hwrite : disk.write (temporaryPath path) (Text.Utf8.encode (config.serialized path)) =
      .ok middle)
    (hrename : middle.rename (temporaryPath path) path = .ok saved) :
    config.save disk path = (saved, .ok ()) := by
  unfold save
  rw [hwrite]
  dsimp only
  rw [hrename]

theorem save_eq_ok_iff :
    config.save disk path = (saved, .ok ()) ↔
      ∃ here name there newName id, disk.Writable (temporaryPath path) here name ∧
        disk.Writable path there newName ∧
        (config.written disk path (here ++ [name])).entryAt (here ++ [name]) = some (.file id) ∧
        saved = (config.written disk path (here ++ [name])).moved (here ++ [name])
          (there ++ [newName]) id := by
  constructor
  · intro h
    unfold save at h
    split at h
    next => exact nomatch (Prod.mk.inj h).2
    next hwrite =>
      obtain ⟨here, name, hsibling, rfl⟩ := write_eq_ok_iff.mp hwrite
      have hdirs := sameDirectories_written config hsibling
      split at h
      next => exact nomatch (Prod.mk.inj h).2
      next hrename =>
        obtain ⟨rfl, -⟩ := Prod.mk.inj h
        obtain ⟨_, _, there, newName, id, hnames, -, hentry, hfile, rfl⟩ :=
          rename_eq_ok_iff.mp hrename
        obtain ⟨rfl, rfl⟩ := hnames.unique (hsibling.names.congr hdirs)
        exact ⟨_, _, there, newName, id, hsibling, hfile.congr hdirs.symm, hentry, rfl⟩
  · intro h
    obtain ⟨here, name, there, newName, id, hsibling, hfile, hentry, hsaved⟩ := h
    have hdirs := sameDirectories_written config hsibling
    have hwrite : disk.write (temporaryPath path) (Text.Utf8.encode (config.serialized path)) =
        .ok (config.written disk path (here ++ [name])) :=
      write_eq_ok_iff.mpr ⟨here, name, hsibling, rfl⟩
    have hrename : (config.written disk path (here ++ [name])).rename (temporaryPath path) path =
        .ok ((config.written disk path (here ++ [name])).moved (here ++ [name])
          (there ++ [newName]) id) :=
      rename_eq_ok_iff.mpr ⟨here, name, there, newName, id, hsibling.names.congr hdirs,
        hsibling.no_slash, hentry, hfile.congr hdirs, rfl⟩
    rw [hsaved]
    exact save_of_rename hwrite hrename

theorem save_of_savable (config : Config) (h : Savable disk path) :
    ∃ saved, config.save disk path = (saved, .ok ()) := by
  obtain ⟨here, name, hsibling⟩ := h.sibling
  obtain ⟨there, newName, hfile⟩ := h.file
  obtain ⟨id, hentry, -⟩ :=
    entryAt_store disk here name (Text.Utf8.encode (config.serialized path))
  exact ⟨_, save_eq_ok_iff.mpr ⟨here, name, there, newName, id, hsibling, hfile, hentry, rfl⟩⟩

theorem savable_of_save (h : config.save disk path = (saved, .ok ())) : Savable disk path := by
  obtain ⟨here, name, there, newName, -, hsibling, hfile, -, -⟩ := save_eq_ok_iff.mp h
  exact ⟨⟨here, name, hsibling⟩, ⟨there, newName, hfile⟩⟩

theorem sameDirectories_save (h : config.save disk path = (saved, .ok ())) :
    SameDirectories disk saved := by
  obtain ⟨here, name, there, newName, id, hsibling, hfile, hentry, rfl⟩ := save_eq_ok_iff.mp h
  have hdirs := sameDirectories_written config hsibling
  exact hdirs.trans (sameDirectories_moved hentry (hfile.congr hdirs).no_directory)

/-- What can be saved once can be saved again, whatever the configuration is then. -/
theorem save_again (h : config.save disk path = (saved, .ok ())) (other : Config) :
    ∃ again, other.save saved path = (again, .ok ()) :=
  save_of_savable other ((savable_of_save h).congr (sameDirectories_save h))

theorem locate_save (h : config.save disk path = (saved, .ok ())) :
    ∃ place id, saved.locate path = .ok (place, .file id) ∧
      saved.content id = Text.Utf8.encode (config.serialized path) := by
  have hdirs := sameDirectories_save h
  obtain ⟨here, name, there, newName, id, hsibling, hfile, hentry, rfl⟩ := save_eq_ok_iff.mp h
  obtain ⟨stored, hstored, hcontent⟩ :=
    entryAt_store disk here name (Text.Utf8.encode (config.serialized path))
  obtain rfl : id = stored := Entry.file.inj (Option.some.inj (hentry.symm.trans hstored))
  exact ⟨there ++ [newName], id,
    (hfile.names.congr hdirs).locate (entryAt_moved_self _ _ _ _ _) hfile.no_slash, hcontent⟩

/-- The file of a saved configuration is there and holds the configuration's text. -/
theorem readText_save (h : config.save disk path = (saved, .ok ())) :
    saved.exists? path = true ∧ saved.readText path = .ok (config.serialized path) := by
  obtain ⟨place, id, hlocate, hcontent⟩ := locate_save h
  constructor
  · rw [exists?, hlocate]
    rfl
  · simp only [readText, Disk.read, bind, Except.bind, hlocate, hcontent,
      Text.Utf8.decode?_encode]

end Config

end BootServer
