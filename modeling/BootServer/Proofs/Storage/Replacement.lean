import BootServer.Proofs.Storage.Saving
import BootServer.Proofs.Storage.Siblings

/-!
# Saving replaces a file whole or not at all

What is written first is a sibling of the file, so until the sibling is renamed nothing else has
changed, and renaming fails only where the path can hold no file. A saved configuration is thus all
that its path holds, the sibling is gone, and no other entry is touched.
-/

namespace BootServer

namespace Disk

variable {disk other : Disk} {here there place source : Place} {name newName path : String}
  {data : Bytes} {id : FileId} {entry : Entry}

/-! ## Trees -/

/-- Every entry lies in a directory, no file has two names, and the next file has an identity of its
own. -/
structure IsTree (disk : Disk) : Prop where
  parent : ∀ {here : Place} {name : String} {entry : Entry},
    disk.entryAt (here ++ [name]) = some entry → disk.entryAt here = some .directory
  single : ∀ {place elsewhere : Place} {id : FileId}, disk.entryAt place = some (.file id) →
    disk.entryAt elsewhere = some (.file id) → place = elsewhere
  fresh : ∀ {place : Place} {id : FileId}, disk.entryAt place = some (.file id) → id < disk.nextFile

/-- What is at a place: nothing, a directory, or the octets of a file. -/
def held (disk : Disk) (place : Place) : Option (Option Bytes) :=
  (disk.entryAt place).map fun
    | .directory => none
    | .file id => some (disk.content id)

theorem entryAt_empty {place : Place} (h : empty.entryAt place = some entry) : entry = .directory := by
  unfold entryAt at h
  split at h
  next => exact (Option.some.inj h).symm
  next => cases h

theorem isTree_empty : empty.IsTree where
  parent {here name _} h := by
    rw [entryAt_append] at h
    exact nomatch h
  single h _ := nomatch entryAt_empty h
  fresh h := nomatch entryAt_empty h

theorem held_eq_file_iff {octets : Bytes} :
    disk.held place = some (some octets) ↔
      ∃ id, disk.entryAt place = some (.file id) ∧ disk.content id = octets := by
  unfold held
  cases hentry : disk.entryAt place with
  | none => exact ⟨nofun, fun ⟨_, h, _⟩ => nomatch h⟩
  | some entry =>
      cases entry with
      | directory => exact ⟨nofun, fun ⟨_, h, _⟩ => nomatch h⟩
      | file id =>
          constructor
          · intro h
            exact ⟨id, rfl, Option.some.inj (Option.some.inj h)⟩
          · rintro ⟨_, ⟨⟩, rfl⟩
            rfl

/-! ### Storing -/

theorem store_of_file (h : disk.entryAt place = some (.file id)) (data : Bytes) :
    disk.store place data = { disk with contents := disk.contents.insert id data } := by
  rw [store, h]

theorem store_of_none (h : disk.entryAt place = none) (data : Bytes) :
    disk.store place data =
      { disk with
        entries := disk.entries.insert place (.file disk.nextFile)
        contents := disk.contents.insert disk.nextFile data
        nextFile := disk.nextFile + 1 } := by
  rw [store, h]

/-- A file that could be written is there already or new. -/
theorem file_or_none (h : disk.entryAt place ≠ some .directory) :
    (∃ id, disk.entryAt place = some (.file id)) ∨ disk.entryAt place = none := by
  cases hentry : disk.entryAt place with
  | none => exact .inr rfl
  | some entry =>
      cases entry with
      | directory => exact absurd hentry h
      | file id => exact .inl ⟨id, rfl⟩

theorem content_store_of_ne (htree : disk.IsTree) (h : disk.entryAt source ≠ some .directory)
    (hne : place ≠ source) (hplace : disk.entryAt place = some (.file id)) (data : Bytes) :
    (disk.store source data).content id = disk.content id := by
  rcases file_or_none h with ⟨old, hold⟩ | hnone
  · have hid : id ≠ old := by
      rintro rfl
      exact hne (htree.single hplace hold)
    rw [store_of_file hold, content, Table.get?_insert_of_ne _ _ hid, content]
  · have hid : id ≠ disk.nextFile := Nat.ne_of_lt (htree.fresh hplace)
    rw [store_of_none hnone, content, Table.get?_insert_of_ne _ _ hid, content]

theorem held_store_of_ne (htree : disk.IsTree) (h : disk.entryAt source ≠ some .directory)
    (hne : place ≠ source) (data : Bytes) : (disk.store source data).held place = disk.held place := by
  rw [held, held, entryAt_store_of_ne data hne]
  cases hentry : disk.entryAt place with
  | none => rfl
  | some entry =>
      cases entry with
      | directory => rfl
      | file id =>
          have hcontent := content_store_of_ne htree h hne hentry data
          simp only [Option.map_some, hcontent]

/-- A tree is one still where a directory has got a file that is nowhere else. -/
theorem IsTree.of_file (htree : disk.IsTree) (hdirs : SameDirectories disk other)
    (hhere : disk.entryAt here = some .directory)
    (hnew : other.entryAt (here ++ [name]) = some (.file id))
    (hkept : ∀ {place entry}, place ≠ here ++ [name] → other.entryAt place = some entry →
      disk.entryAt place = some entry ∧ entry ≠ .file id)
    (hfresh : disk.nextFile ≤ other.nextFile) (hid : id < other.nextFile) : other.IsTree where
  parent {top part entry} hentry := by
    apply (hdirs.directory_iff top).mpr
    by_cases hplace : top ++ [part] = here ++ [name]
    · rw [(List.append_inj' hplace rfl).1]
      exact hhere
    · exact htree.parent (hkept hplace hentry).1
  single {place elsewhere file} hplace helsewhere := by
    by_cases hp : place = here ++ [name]
    · by_cases he : elsewhere = here ++ [name]
      · rw [hp, he]
      · rw [hp, hnew] at hplace
        exact absurd (Option.some.inj hplace).symm (hkept he helsewhere).2
    · by_cases he : elsewhere = here ++ [name]
      · rw [he, hnew] at helsewhere
        exact absurd (Option.some.inj helsewhere).symm (hkept hp hplace).2
      · exact htree.single (hkept hp hplace).1 (hkept he helsewhere).1
  fresh {place file} hplace := by
    by_cases hp : place = here ++ [name]
    · rw [hp, hnew] at hplace
      obtain rfl := Entry.file.inj (Option.some.inj hplace)
      exact hid
    · exact Nat.lt_of_lt_of_le (htree.fresh (hkept hp hplace).1) hfresh

theorem IsTree.store (htree : disk.IsTree) (hhere : disk.entryAt here = some .directory)
    (h : disk.entryAt (here ++ [name]) ≠ some .directory) (data : Bytes) :
    (disk.store (here ++ [name]) data).IsTree := by
  rcases file_or_none h with ⟨old, hold⟩ | hnone
  · -- the entries are the same
    rw [store_of_file hold]
    exact ⟨htree.parent, htree.single, htree.fresh⟩
  · have hnew : (disk.store (here ++ [name]) data).entryAt (here ++ [name]) =
        some (.file disk.nextFile) := by
      rw [store_of_none hnone, entryAt_append, Table.get?_insert_self]
    have hnext : (disk.store (here ++ [name]) data).nextFile = disk.nextFile + 1 := by
      rw [store_of_none hnone]
    refine htree.of_file (sameDirectories_store data h) hhere hnew ?_ (hnext ▸ Nat.le_succ _)
      (hnext ▸ Nat.lt_succ_self _)
    intro place entry hne hplace
    rw [entryAt_store_of_ne data hne] at hplace
    refine ⟨hplace, ?_⟩
    rintro rfl
    exact absurd (htree.fresh hplace) (Nat.lt_irrefl _)

/-! ### Moving -/

theorem held_moved_of_ne (id : FileId) (htarget : place ≠ there) (hsource : place ≠ source) :
    (disk.moved source there id).held place = disk.held place := by
  rw [held, held, entryAt_moved_of_ne id htarget hsource]
  rfl

theorem IsTree.moved (htree : disk.IsTree) (hsource : disk.entryAt source = some (.file id))
    (hthere : disk.entryAt there = some .directory)
    (h : disk.entryAt (there ++ [newName]) ≠ some .directory) :
    (disk.moved source (there ++ [newName]) id).IsTree := by
  refine htree.of_file (sameDirectories_moved hsource h) hthere (entryAt_moved_self ..) ?_
    (Nat.le_refl _) (htree.fresh hsource)
  intro place entry hne hplace
  have hold : place ≠ source := by
    rintro rfl
    rw [entryAt_moved_source hsource hne] at hplace
    cases hplace
  rw [entryAt_moved_of_ne id hne hold] at hplace
  refine ⟨hplace, ?_⟩
  rintro rfl
  exact hold (htree.single hplace hsource)

/-! ## What paths show -/

/-- The entry that a path names is at a place, whether there is one or not. -/
def NamesPlace (disk : Disk) (path : String) (place : Place) : Prop :=
  ∃ here name, disk.Names path here name ∧ place = here ++ [name]

theorem locate_file_iff :
    disk.locate path = .ok (place, .file id) ↔ checkText path = .ok () ∧
      disk.placeOf path = .ok place ∧ disk.entryAt place = some (.file id) ∧
        Path.endsInSlash path = false := by
  unfold placeOf
  simp only [locate, bind, Except.bind]
  constructor
  · intro h
    split at h
    next => cases h
    next htext =>
      split at h
      next => cases h
      next found hwalk =>
        split at h
        next => cases h
        next => cases (Prod.mk.inj (Except.ok.inj h)).2
        next hentry =>
          split at h
          next => cases h
          next hslash =>
            obtain ⟨rfl, hfile⟩ := Prod.mk.inj (Except.ok.inj h)
            obtain rfl := Entry.file.inj hfile
            exact ⟨htext, hwalk, hentry, eq_false_of_ne_true hslash⟩
  · rintro ⟨htext, hwalk, hentry, hslash⟩
    simp only [htext, hwalk, hentry, hslash]
    rfl

/-- What a step comes to is the part taken, unless it is a directory. -/
theorem named_of_step {part : String} (htree : disk.IsTree) (h : disk.step here part = .ok place)
    (hentry : disk.entryAt place = some (.file id)) :
    place = here ++ [part] ∧ part ≠ "." ∧ part ≠ ".." ∧ part.utf8ByteSize ≤ nameMax := by
  have hdirectory := directory_of_step h
  rw [step_of_directory hdirectory] at h
  split at h
  next =>
    obtain rfl := Except.ok.inj h
    cases hdirectory.symm.trans hentry
  next hdot =>
    split at h
    next =>
      -- above a directory there is a directory
      obtain rfl := Except.ok.inj h
      rcases List.eq_nil_or_concat here with rfl | ⟨up, last, rfl⟩
      · cases hentry
      · rw [List.concat_eq_append, List.dropLast_concat] at hentry
        rw [List.concat_eq_append] at hdirectory
        cases (htree.parent hdirectory).symm.trans hentry
    next hdots =>
      split at h
      next => cases h
      next hshort =>
        split at h
        next => exact ⟨(Except.ok.inj h).symm, hdot, hdots, Nat.le_of_not_lt hshort⟩
        next => cases h

/-- A path that leads to a file names it. -/
theorem names_of_file (htree : disk.IsTree) (h : disk.locate path = .ok (place, .file id)) :
    ∃ here name, disk.Names path here name ∧ place = here ++ [name] ∧
      Path.endsInSlash path = false := by
  obtain ⟨htext, hwalk, hentry, hslash⟩ := locate_file_iff.mp h
  have hne : path ≠ "" := by
    rintro rfl
    cases htext
  obtain ⟨front, last, hpath⟩ := Path.exists_endsIn hne hslash
  have hlast := hpath.getLast?_components
  obtain ⟨parts, hparts⟩ := List.getLast?_eq_some_iff.mp hlast
  rw [placeOf, hparts, walk_concat] at hwalk
  cases hhere : disk.walk (disk.start path) parts with
  | error fault =>
      rw [hhere] at hwalk
      cases hwalk
  | ok here =>
      rw [hhere] at hwalk
      obtain ⟨rfl, hdot, hdots, hshort⟩ := named_of_step htree hwalk hentry
      have hfront : disk.walk (disk.start path) (Path.components path).dropLast = .ok here := by
        rw [hparts, List.dropLast_concat, hhere]
      exact ⟨here, String.ofList last,
        ⟨htext, hfront, directory_of_step hwalk, hlast, hdot, hdots, hshort⟩, rfl, hslash⟩

theorem Names.exists?_eq_false (h : disk.Names path here name)
    (hnone : disk.entryAt (here ++ [name]) = none) : disk.exists? path = false := by
  have hwalk : disk.walk (disk.start path) (Path.components path) = .error .notFound := by
    rw [← placeOf, h.placeOf_eq, hnone]
    rfl
  simp only [exists?, Disk.locate, bind, Except.bind, h.text, hwalk]
  rfl

theorem look_of_file {octets : Bytes} (h : disk.Names path here name)
    (hslash : Path.endsInSlash path = false)
    (hheld : disk.held (here ++ [name]) = some (some octets)) :
    disk.look path = .ok (some octets) := by
  obtain ⟨id, hentry, rfl⟩ := held_eq_file_iff.mp hheld
  rw [look, h.locate hentry hslash]

theorem locate_directory_congr (hdirs : SameDirectories disk other)
    (h : disk.locate path = .ok (place, .directory)) :
    other.locate path = .ok (place, .directory) := by
  obtain ⟨hplace, hentry⟩ := placeOf_of_locate h
  have hagain := (hdirs.directory_iff place).mpr hentry
  have hwalk := walk_congr hdirs hplace hentry
  have hstart : other.start path = disk.start path := by
    rw [start, start, hdirs.workingDirectory]
  simp only [locate, bind, Except.bind] at h ⊢
  split at h
  next => cases h
  next htext =>
    rw [hstart, hwalk]
    simp only [hagain]

/-- A path shows the same in two trees that hold the same where it names a file. -/
theorem look_congr {shown : Option Bytes} (htree : disk.IsTree) (hdirs : SameDirectories disk other)
    (hfile : ∀ here name, disk.Names path here name → Path.endsInSlash path = false →
      other.held (here ++ [name]) = disk.held (here ++ [name]))
    (h : disk.look path = .ok shown) : other.look path = .ok shown := by
  cases hlocate : disk.locate path with
  | error fault =>
      rw [look, hlocate] at h
      exact nomatch h
  | ok found =>
      obtain ⟨place, entry⟩ := found
      rw [look, hlocate] at h
      cases entry with
      | directory =>
          rw [look, locate_directory_congr hdirs hlocate]
          exact h
      | file id =>
          obtain rfl := Except.ok.inj h
          obtain ⟨here, name, hnames, rfl, hslash⟩ := names_of_file htree hlocate
          apply look_of_file (hnames.congr hdirs) hslash
          rw [hfile here name hnames hslash]
          exact held_eq_file_iff.mpr ⟨id, (locate_file_iff.mp hlocate).2.2.1, rfl⟩

end Disk

namespace Config

open Disk

variable {config : Config} {disk saved middle : Disk} {path name : String} {here place : Place}
  {outcome : Except ConfigError Unit}

/-! ## Saving a configuration -/

theorem isTree_written (htree : disk.IsTree) (h : disk.Writable (temporaryPath path) here name) :
    (config.written disk path (here ++ [name])).IsTree :=
  htree.store h.names.directory h.no_directory _

theorem held_written_of_ne (htree : disk.IsTree) (h : disk.Writable (temporaryPath path) here name)
    (hne : place ≠ here ++ [name]) :
    (config.written disk path (here ++ [name])).held place = disk.held place :=
  held_store_of_ne htree h.no_directory hne _

/-- The sibling is at another place than the path, unless it is the path. -/
theorem sibling_ne {there : Place} {newName : String} (htemporary : temporaryPath path ≠ path)
    (hsibling : disk.Names (temporaryPath path) here name) (hpath : disk.Names path there newName)
    (hslash : Path.endsInSlash path = false) : there ++ [newName] ≠ here ++ [name] := by
  intro hplace
  obtain rfl : newName = name := by simpa using (List.append_inj' hplace rfl).2
  exact htemporary (temporaryPath_eq_self hslash hpath.last hpath.ne_dot hpath.ne_dotDot
    hsibling.last)

/-- Writing the sibling does not show at the path. -/
theorem look_written (htree : disk.IsTree) (h : disk.Writable (temporaryPath path) here name)
    (htemporary : temporaryPath path ≠ path) :
    ((config.written disk path (here ++ [name])).look path).toOption =
      (disk.look path).toOption := by
  have hdirs := sameDirectories_written config h
  have hforth : ∀ shown, disk.look path = .ok shown →
      (config.written disk path (here ++ [name])).look path = .ok shown := by
    intro shown
    apply look_congr htree hdirs
    intro there newName hnames hslash
    exact held_written_of_ne htree h (sibling_ne htemporary h.names hnames hslash)
  have hback : ∀ shown, (config.written disk path (here ++ [name])).look path = .ok shown →
      disk.look path = .ok shown := by
    intro shown
    apply look_congr (isTree_written htree h) hdirs.symm
    intro there newName hnames hslash
    exact (held_written_of_ne htree h
      (sibling_ne htemporary h.names (hnames.congr hdirs.symm) hslash)).symm
  cases hbefore : disk.look path with
  | ok shown => rw [hforth shown hbefore]
  | error fault =>
      cases hafter : (config.written disk path (here ++ [name])).look path with
      | ok shown => exact absurd ((hback shown hafter).symm.trans hbefore) nofun
      | error later => rfl

/-- An attempt that fails ends before the sibling is written or after. -/
theorem save_error_cases {error : ConfigError} (h : config.save disk path = (saved, .error error)) :
    saved = disk ∨ ∃ here name, disk.Writable (temporaryPath path) here name ∧
      saved = config.written disk path (here ++ [name]) ∧ temporaryPath path ≠ path := by
  have hfails : ¬ Savable disk path := by
    intro hsavable
    obtain ⟨_, hok⟩ := save_of_savable config hsavable
    exact absurd (h.symm.trans hok) (by simp)
  unfold save at h
  split at h
  next => exact .inl (Prod.mk.inj h).1.symm
  next hwrite =>
    obtain ⟨here, name, hsibling, rfl⟩ := write_eq_ok_iff.mp hwrite
    split at h
    next =>
      refine .inr ⟨here, name, hsibling, (Prod.mk.inj h).1.symm, ?_⟩
      intro htemporary
      exact hfails ⟨⟨here, name, hsibling⟩, ⟨here, name, htemporary ▸ hsibling⟩⟩
    next => exact nomatch (Prod.mk.inj h).2

theorem held_save_of_ne (htree : disk.IsTree) (h : config.save disk path = (saved, .ok ()))
    (hpath : ¬ disk.NamesPlace path place) (htemporary : ¬ disk.NamesPlace (temporaryPath path) place) :
    saved.held place = disk.held place := by
  obtain ⟨here, name, there, newName, id, hsibling, hfile, -, rfl⟩ := save_eq_ok_iff.mp h
  have hsource : place ≠ here ++ [name] :=
    fun hplace => htemporary ⟨here, name, hsibling.names, hplace⟩
  have htarget : place ≠ there ++ [newName] :=
    fun hplace => hpath ⟨there, newName, hfile.names, hplace⟩
  rw [held_moved_of_ne id htarget hsource, held_written_of_ne htree hsibling hsource]

theorem isTree_save (htree : disk.IsTree) (h : config.save disk path = (saved, .ok ())) :
    saved.IsTree := by
  obtain ⟨here, name, there, newName, id, hsibling, hfile, hentry, rfl⟩ := save_eq_ok_iff.mp h
  have hagain := hfile.congr (sameDirectories_written config hsibling)
  exact (isTree_written htree hsibling).moved hentry hagain.names.directory hagain.no_directory

theorem exists?_temporaryPath_save (h : config.save disk path = (saved, .ok ()))
    (htemporary : temporaryPath path ≠ path) : saved.exists? (temporaryPath path) = false := by
  have hdirs := sameDirectories_save h
  obtain ⟨here, name, there, newName, id, hsibling, hfile, hentry, rfl⟩ := save_eq_ok_iff.mp h
  have hne := sibling_ne htemporary hsibling.names hfile.names hfile.no_slash
  exact (hsibling.names.congr hdirs).exists?_eq_false (entryAt_moved_source hentry hne.symm)

/-- A saved configuration is all that its path holds then, its sibling is gone, and all else is as it
was. An attempt that fails changes nothing but the sibling; and so does the first of the two steps,
so the path shows what it showed, even if nothing comes after. -/
theorem save_replaces_or_keeps (config : Config) (path : String) (htree : disk.IsTree)
    (hsave : config.save disk path = (saved, outcome)) :
    saved.IsTree ∧
      (outcome = .ok () →
        saved.look path = .ok (some (Text.Utf8.encode (config.serialized path))) ∧
        (temporaryPath path = path ∨ saved.exists? (temporaryPath path) = false) ∧
        ∀ place, ¬ disk.NamesPlace path place → ¬ disk.NamesPlace (temporaryPath path) place →
          saved.held place = disk.held place) ∧
      (∀ error, outcome = .error error →
        (saved.look path).toOption = (disk.look path).toOption ∧
        ∀ place, ¬ disk.NamesPlace (temporaryPath path) place →
          saved.held place = disk.held place) ∧
      ∀ middle, disk.write (temporaryPath path) (Text.Utf8.encode (config.serialized path)) =
          .ok middle →
        (temporaryPath path ≠ path →
          (middle.look path).toOption = (disk.look path).toOption) ∧
        ∀ place, ¬ disk.NamesPlace (temporaryPath path) place →
          middle.held place = disk.held place := by
  have hwritten : ∀ {here name}, disk.Writable (temporaryPath path) here name →
      ∀ place, ¬ disk.NamesPlace (temporaryPath path) place →
        (config.written disk path (here ++ [name])).held place = disk.held place := by
    intro here name hsibling place hplace
    apply held_written_of_ne htree hsibling
    exact fun heq => hplace ⟨here, name, hsibling.names, heq⟩
  refine ⟨?_, ?_, ?_, ?_⟩
  · cases outcome with
    | ok _ => exact isTree_save htree hsave
    | error error =>
        rcases save_error_cases hsave with rfl | ⟨here, name, hsibling, rfl, -⟩
        · exact htree
        · exact isTree_written htree hsibling
  · rintro rfl
    obtain ⟨place, id, hlocate, hcontent⟩ := locate_save hsave
    refine ⟨?_, ?_, fun place => held_save_of_ne htree hsave⟩
    · rw [look, hlocate, ← hcontent]
    · exact Decidable.or_iff_not_imp_left.mpr (exists?_temporaryPath_save hsave)
  · rintro error rfl
    rcases save_error_cases hsave with rfl | ⟨here, name, hsibling, rfl, htemporary⟩
    · exact ⟨rfl, fun _ _ => rfl⟩
    · exact ⟨look_written htree hsibling htemporary, hwritten hsibling⟩
  · intro middle hmiddle
    obtain ⟨here, name, hsibling, rfl⟩ := write_eq_ok_iff.mp hmiddle
    exact ⟨look_written htree hsibling, hwritten hsibling⟩

namespace Small

/-- A file, and another one with the name of its sibling. -/
def savedDisk : Disk := (Disk.empty.store ["netboot.conf"] [1]).store ["netboot.tmp"] [2]

theorem isTree_savedDisk : savedDisk.IsTree := by
  have hfirst : (Disk.empty.store ([] ++ ["netboot.conf"]) [1]).IsTree :=
    isTree_empty.store rfl (by decide) [1]
  have hsecond : ((Disk.empty.store ["netboot.conf"] [1]).store ([] ++ ["netboot.tmp"]) [2]).IsTree :=
    hfirst.store rfl (by decide) [2]
  exact hsecond

end Small

/-- The file is replaced and the sibling gone; with a slash behind the name nothing is replaced. -/
theorem small_save_replaces_or_keeps :
    (∃ saved, default.save Small.savedDisk "/netboot.conf" = (saved, .ok ()) ∧
      saved.look "/netboot.conf" = .ok (some (Text.Utf8.encode default.render)) ∧
      saved.exists? "/netboot.tmp" = false) ∧
    ∃ kept error, default.save Small.savedDisk "/netboot.conf/" = (kept, .error error) ∧
      (kept.look "/netboot.conf/").toOption = none ∧
      kept.held ["netboot.conf"] = some (some [1]) := by
  constructor
  · have hsaved : (default.save Small.savedDisk "/netboot.conf").2.toOption = some () := by
      decide +kernel
    generalize hsave : default.save Small.savedDisk "/netboot.conf" = result at hsaved
    obtain ⟨saved, outcome⟩ := result
    cases outcome with
    | error error => exact nomatch hsaved
    | ok _ =>
        obtain ⟨-, hok, -, -⟩ := save_replaces_or_keeps default "/netboot.conf"
          Small.isTree_savedDisk hsave
        obtain ⟨hlook, hgone, -⟩ := hok rfl
        exact ⟨saved, rfl, hlook, hgone.resolve_left (by decide)⟩
  · have hfailed : (default.save Small.savedDisk "/netboot.conf/").2.toOption = none := by
      decide +kernel
    generalize hsave : default.save Small.savedDisk "/netboot.conf/" = result at hfailed
    obtain ⟨kept, outcome⟩ := result
    cases outcome with
    | ok _ => exact nomatch hfailed
    | error error =>
        obtain ⟨-, -, herror, -⟩ := save_replaces_or_keeps default "/netboot.conf/"
          Small.isTree_savedDisk hsave
        obtain ⟨hlook, hheld⟩ := herror error rfl
        refine ⟨kept, error, rfl, hlook.trans (by decide +kernel), ?_⟩
        have hplace : ¬ Small.savedDisk.NamesPlace (temporaryPath "/netboot.conf/")
            ["netboot.conf"] := by
          rintro ⟨here, name, hnames, hplace⟩
          have hname : (Path.components (temporaryPath "/netboot.conf/")).getLast? =
              some "netboot.tmp" := by decide +kernel
          obtain rfl := Option.some.inj (hname.symm.trans hnames.last)
          have hlast := congrArg List.getLast? hplace
          rw [List.getLast?_concat] at hlast
          exact absurd hlast (by decide)
        exact (hheld _ hplace).trans (by decide +kernel)

end Config

end BootServer
