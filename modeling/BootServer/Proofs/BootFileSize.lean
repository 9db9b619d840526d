import BootServer.Proofs.Dhcp.Answers
import BootServer.Proofs.Tftp.ServedFiles

/-!
# The announced size of the boot file

Where no size is configured, the address service announces the size of the file at the name of the
boot file under the root, read the way the file tree reads paths. The file service reads the same
name with backslashes as separators, clamped at the root, and follows markers. Where the two
readings come to the same file, the announced size is the size of the file that is served.
-/

namespace BootServer

namespace Path

/-- Components lead nowhere above where they start: going up takes away a name before it. -/
def staysBelow : (depth : Nat) → List String → Bool
  | _, [] => true
  | depth, part :: rest =>
    if part = "." then staysBelow depth rest
    else if part = ".." then 0 < depth && staysBelow (depth - 1) rest
    else staysBelow (depth + 1) rest

end Path

variable {config : Config} {disk : Disk} {top place : Place} {names parts : List String}

/-! ## Two readings of a name -/

namespace Tftp

/-- Take components one after the other, up from the first one is nothing. -/
def spelled (names parts : List String) : List String :=
  parts.foldl (fun names part => enter names part.toList) names

theorem canonical_eq_spelled {request : String} (h : '\\' ∉ request.toList) :
    canonical request = spelled [] (Path.components request) := by
  have hsplit : Text.split isSeparator request.toList =
      Text.split (· == '/') request.toList := by
    apply Text.split_congr
    intro c hc
    have hc : c ≠ '\\' := fun heq => h (heq ▸ hc)
    simp [isSeparator, hc]
  have henter : (fun (names : List String) (piece : List Char) =>
      if !piece.isEmpty then enter names piece else names) = enter := by
    funext names piece
    cases piece with
    | nil => simp [enter]
    | cons c rest => rfl
  rw [canonical, hsplit, spelled, Path.components, List.foldl_map, List.foldl_filter]
  simp only [String.toList_ofList, henter]

theorem enter_toList {part : String} (h : part ≠ "") :
    enter names part.toList =
      if part = "." then names else if part = ".." then names.dropLast else names ++ [part] := by
  have hdot : part.toList = ['.'] ↔ part = "." := by
    rw [← String.toList_inj]
    rfl
  have hdots : part.toList = ['.', '.'] ↔ part = ".." := by
    rw [← String.toList_inj]
    rfl
  have hnil : part.toList ≠ [] := fun hnil => h (String.toList_eq_nil_iff.mp hnil)
  simp [enter, hdot, hdots, hnil]

end Tftp

namespace Disk

/-- A step of the file tree below a place takes a component the way the file service does. -/
theorem step_eq_enter {part : String} (hpart : part ≠ "")
    (hstays : top = [] ∨ Path.staysBelow names.length (part :: parts) = true)
    (h : disk.step (top ++ names) part = .ok place) :
    place = top ++ Tftp.enter names part.toList ∧
      (top = [] ∨ Path.staysBelow (Tftp.enter names part.toList).length parts = true) := by
  rw [step_eq_ok h, Tftp.enter_toList hpart]
  rw [Path.staysBelow] at hstays
  by_cases hdot : part = "."
  · rw [if_pos hdot] at hstays
    rw [if_pos hdot, if_pos hdot]
    exact ⟨rfl, hstays⟩
  · by_cases hdots : part = ".."
    · simp only [if_neg hdot, if_pos hdots, Bool.and_eq_true, decide_eq_true_eq] at hstays ⊢
      rcases hstays with rfl | ⟨hdepth, hstays⟩
      · exact ⟨rfl, .inl rfl⟩
      · have hnames : names ≠ [] := List.ne_nil_of_length_pos hdepth
        rw [List.dropLast_append_of_ne_nil hnames, List.length_dropLast]
        exact ⟨rfl, .inr hstays⟩
    · simp only [if_neg hdot, if_neg hdots] at hstays ⊢
      rw [List.append_assoc, List.length_append]
      exact ⟨rfl, hstays⟩

theorem walk_eq_spelled (hparts : ∀ part ∈ parts, part ≠ "")
    (hstays : top = [] ∨ Path.staysBelow names.length parts = true)
    (h : disk.walk (top ++ names) parts = .ok place) :
    place = top ++ Tftp.spelled names parts := by
  induction parts generalizing names with
  | nil => exact (Except.ok.inj h).symm
  | cons part parts ih =>
      rw [walk] at h
      cases hstep : disk.step (top ++ names) part with
      | error fault => simp [hstep] at h
      | ok next =>
          rw [hstep] at h
          obtain ⟨rfl, hrest⟩ := step_eq_enter (hparts part List.mem_cons_self) hstays hstep
          exact ih (fun next hnext => hparts next (List.mem_cons_of_mem part hnext)) hrest h

end Disk

/-! ## What the address service announces -/

namespace Dhcp

/-- An answer has no other item of this code than that of the boot file's size. -/
theorem bootSize_of_mem_grant {packet : Packet} {kind : MessageType} {ip clientAddress : IPv4}
    {item : Item} (hitem : item ∈ (grant config disk packet kind ip clientAddress).items)
    (hcode : item.code = Code.bootFileSize) :
    ∃ size, bootSize? config disk = some size ∧
      item = Item.ofUInt16 Code.bootFileSize (bootBlocks size) := by
  have hleases : ∀ item ∈ leaseItems config, item.code ≠ Code.bootFileSize := by
    simp only [leaseItems, List.forall_mem_cons]
    exact ⟨show Code.serverIdentifier ≠ _ by decide, show Code.rebindingTime ≠ _ by decide,
      show Code.renewalTime ≠ _ by decide, show Code.leaseTime ≠ _ by decide, by simp⟩
  rw [items_grant] at hitem
  simp only [List.mem_cons, List.mem_append, List.not_mem_nil, or_false] at hitem
  rcases hitem with rfl | ((hrequested | hboot) | hlease) | rfl
  · exact absurd hcode (show Code.messageType ≠ Code.bootFileSize by decide)
  · obtain ⟨-, hanswer⟩ := mem_requestedItems hrequested
    rw [hcode] at hanswer
    cases hanswer
  · rcases mem_bootItems hboot with rfl | hsize | ⟨ip, -, rfl⟩
    · exact absurd hcode (show Code.bootFile ≠ Code.bootFileSize by decide)
    · exact hsize
    · exact absurd hcode (show Code.bootServer ≠ Code.bootFileSize by decide)
  · exact absurd hcode (hleases item hlease)
  · rw [packet.code_clientIdentifier] at hcode
    exact absurd hcode (by decide)

theorem file_of_bootSize? {size : Nat} (hprobed : config.bootFileSize = 0)
    (hsize : bootSize? config disk = some size) :
    ∃ file, disk.file? (bootPath config) = some file ∧ size = (disk.content file).length := by
  rw [bootSize?, if_neg (not_not_intro hprobed)] at hsize
  obtain ⟨file, hfile, rfl⟩ := Option.map_eq_some_iff.mp hsize
  exact ⟨file, hfile, rfl⟩

/-- The boot file as the file tree reads its name lies where the name, taken component after
component, leads below the root. -/
theorem entryAt_of_bootPath {file : FileId} (hfile : disk.file? (bootPath config) = some file)
    (hstays : disk.placeOf config.tftp.root = .ok [] ∨
      Path.staysBelow 0 (Path.components config.bootFile) = true) :
    ∃ top, disk.placeOf config.tftp.root = .ok top ∧
      disk.entryAt (top ++ Tftp.spelled [] (Path.components config.bootFile)) =
        some (.file file) := by
  have hbelow := Path.below_push (Path.isAbsolute_dropWhile_slash config.bootFile) config.tftp.root
  rw [Path.components_dropWhile_slash] at hbelow
  obtain ⟨place, hlocate⟩ := Disk.locate_of_file? hfile
  obtain ⟨top, htop, hwalk, hentry⟩ := Disk.locate_behind hbelow hlocate
  have hstays : top = [] ∨ Path.staysBelow 0 (Path.components config.bootFile) = true := by
    refine hstays.imp_left ?_
    intro hroot
    exact Except.ok.inj (htop.symm.trans hroot)
  rw [← List.append_nil top] at hwalk
  obtain rfl := Disk.walk_eq_spelled (fun _ => Path.ne_empty_of_mem_components) hstays hwalk
  exact ⟨top, htop, hentry⟩

end Dhcp

/-! ## What the file service grants -/

namespace Tftp

theorem firstPacket_eq_optionAck {transfer after : Transfer} {options given : Options}
    (h : firstPacket disk transfer options = .ok (after, .optionAck given)) :
    given = granted options transfer.size := by
  unfold firstPacket Transfer.sendBlock at h
  grind

/-- Options are granted in answer to a request that opens a file, and tell of its size. -/
theorem granted_of_optionAck {sessions : Sessions} {now : Nat} {client : IPv4} {port : UInt16}
    {name mode : String} {options given : Options}
    (h : (handle config disk sessions now client port (.readRequest name mode options)).reply =
      some (.optionAck given)) :
    ∃ opened, openRequested config disk name = .ok opened ∧
      given = granted options opened.size := by
  simp only [handle, finish_reply, perform, onRead] at h
  cases hopen : openRequested config disk name with
  | error failure => simp [hopen, Work.reply, Failure.packet] at h
  | ok opened =>
      refine ⟨opened, rfl, ?_⟩
      simp only [hopen, launch, Work.reply] at h
      cases hfirst : firstPacket disk (settled opened options) options with
      | error failure => simp [hfirst, Failure.packet] at h
      | ok first =>
          obtain ⟨after, packet⟩ := first
          simp only [hfirst, Option.some.injEq] at h
          subst h
          rw [firstPacket_eq_optionAck hfirst, size_settled]

theorem eq_of_mem_granted {options : Options} {size : UInt64} {n : Nat}
    (h : (sizeOption, toString n) ∈ granted options size) : n = size.toNat := by
  rcases List.mem_append.mp h with hblock | hsize
  · obtain ⟨blockSize, -, hblock⟩ := Option.map_eq_some_iff.mp (Option.mem_toList.mp hblock)
    exact absurd (Prod.mk.inj hblock).1 (by decide)
  · obtain ⟨asked, -, hsize⟩ := Option.map_eq_some_iff.mp (Option.mem_toList.mp hsize)
    exact (Text.eq_of_toString_eq (Prod.mk.inj hsize).2).symm

/-- A request that comes to no marker opens the file where its name leads below the root. -/
theorem entryAt_of_openRequested {name : String} {opened : Transfer}
    (hopen : openRequested config disk name = .ok opened)
    (hhops : hopsOf disk config.tftp.root config.tftp.followMarkers name = []) :
    ∃ top, disk.placeOf config.tftp.root = .ok top ∧
      disk.entryAt (top ++ canonical name) = some (.file opened.file) ∧
      opened.size = UInt64.ofNat (disk.content opened.file).length := by
  obtain ⟨names, place, file, hresolve, hlocate, rfl⟩ := openRequested_eq_ok hopen
  obtain ⟨-, hnames⟩ := mem_cons_hopsOf_of_resolve hresolve
  rw [hhops, List.mem_singleton] at hnames
  subst hnames
  obtain ⟨top, htop, rfl, hentry⟩ :=
    ((plain_canonical name).confined disk config.tftp.root).leads _ _ hlocate
  exact ⟨top, htop, hentry, rfl⟩

end Tftp

/-! ## Agreement -/

/-- An offer or acknowledgement announces a size of the boot file with this item. -/
def SizeAnnounced (config : Config) (disk : Disk) (item : Dhcp.Item) : Prop :=
  ∃ probe leases packet reply,
    (Dhcp.handle config disk probe leases packet).reply = some reply ∧ reply.granted?.isSome ∧
      item ∈ reply.items ∧ item.code = Dhcp.Code.bootFileSize

/-- A read request for the boot file is granted an option that tells this size. -/
def SizeGranted (config : Config) (disk : Disk) (size : Nat) : Prop :=
  ∃ sessions now client port mode options granted,
    (Tftp.handle config disk sessions now client port
        (.readRequest config.bootFile mode options)).reply = some (.optionAck granted) ∧
      (Tftp.sizeOption, toString size) ∈ granted

/-- Whatever size is announced is that of the file that is served, in units of 512 octets as far as
the field reaches. -/
def AnnouncesServedSize (config : Config) (disk : Disk) : Prop :=
  ∀ item size, SizeAnnounced config disk item → SizeGranted config disk size →
    item.payload = Bytes.ofUInt16 (UInt16.ofNat (min ((size + 511) / 512) 65535))

/-- A server that has an address for a newcomer announces the size of a boot file that it finds. -/
theorem sizeAnnounced_of_bootSize? {size : Nat} (ip : IPv4)
    (hcontains : (Dhcp.Pool.ofConfig config).contains ip = true) (hserver : ip ≠ config.address)
    (hname : config.bootFile.isEmpty = false) (hsize : Dhcp.bootSize? config disk = some size) :
    SizeAnnounced config disk (.ofUInt16 Dhcp.Code.bootFileSize (Dhcp.bootBlocks size)) := by
  have hverdict := Dhcp.verdict_looking hcontains hserver
  refine ⟨(Dhcp.Visit.looking ip).probe, .empty, (Dhcp.Visit.looking ip).packet,
    Dhcp.grant config disk (Dhcp.Visit.looking ip).packet .offer ip .unspecified, ?_, ?_, ?_, rfl⟩
  · rw [Dhcp.handle, Dhcp.settle, hverdict]
    rfl
  · rw [Dhcp.granted?_grant_offer]
    rfl
  · simp [Dhcp.items_grant, Dhcp.bootItems, hname, hsize]

/-- With no size configured, the announced size is that of the served file if no marker is followed,
the name of the boot file has no backslash, and it does not go up above the root, unless the root is
that of the file tree. -/
theorem announced_size_is_served_size (config : Config) (disk : Disk)
    (hprobed : config.bootFileSize = 0)
    (hfiles : ∀ file, (disk.content file).length < UInt64.size)
    (hhops : Tftp.hopsOf disk config.tftp.root config.tftp.followMarkers config.bootFile = [])
    (hbackslash : '\\' ∉ config.bootFile.toList)
    (hstays : disk.placeOf config.tftp.root = .ok [] ∨
      Path.staysBelow 0 (Path.components config.bootFile) = true) :
    AnnouncesServedSize config disk := by
  rintro item size ⟨probe, leases, packet, reply, hreply, hgrants, hitem, hcode⟩
    ⟨sessions, now, client, port, mode, options, granted, hanswer, hsize⟩
  obtain ⟨kind, ip, clientAddress, rfl⟩ := Dhcp.grant_of_granted hreply hgrants
  obtain ⟨announced, hannounced, rfl⟩ := Dhcp.bootSize_of_mem_grant hitem hcode
  obtain ⟨stored, hstored, rfl⟩ := Dhcp.file_of_bootSize? hprobed hannounced
  obtain ⟨top, htop, hentry⟩ := Dhcp.entryAt_of_bootPath hstored hstays
  obtain ⟨opened, hopen, rfl⟩ := Tftp.granted_of_optionAck hanswer
  obtain ⟨root, hroot, hserved, hopened⟩ := Tftp.entryAt_of_openRequested hopen hhops
  -- both names lead to one place, so it is one file
  obtain rfl : top = root := Except.ok.inj (htop.symm.trans hroot)
  rw [Tftp.canonical_eq_spelled hbackslash, hentry] at hserved
  obtain rfl : stored = opened.file := Entry.file.inj (Option.some.inj hserved)
  have hlength : size = (disk.content opened.file).length := by
    rw [Tftp.eq_of_mem_granted hsize, hopened]
    exact UInt64.toNat_ofNat_of_lt (hfiles _)
  rw [hlength]
  rfl

/-! ## A small tree -/

theorem Disk.length_content_lt {bound : Nat} (hpos : 0 < bound)
    (h : ∀ entry ∈ disk.contents.entries, entry.2.length < bound) (file : FileId) :
    (disk.content file).length < bound := by
  unfold Disk.content
  cases hfound : disk.contents.get? file with
  | none => exact hpos
  | some data => exact h _ (Table.mem_entries_of_get? hfound)

namespace Small

def image : Bytes := List.replicate 600 0

/-- Below the root, beside an image, is a marker that stands for it. In a directory is another image
whose path with a backslash for the slash is the name of a short file. A short file is above the
root, too. -/
def bootDisk : Disk where
  entries := ⟨[(["srv"], .directory), (["srv", "kernel"], .file 0), (["srv", "latest"], .file 1),
    (["srv", "boot"], .directory), (["srv", "boot", "kernel"], .file 2),
    (["srv", "boot\\kernel"], .file 3), (["kernel"], .file 4)]⟩
  contents := ⟨[(0, image), (1, "kernel".toUTF8.toList), (2, image), (3, [0]), (4, [0])]⟩
  nextFile := 5
  workingDirectory := []

def bootConfig (name : String) : Config :=
  .completed
    { address := .ofOctets 10 0 0 1, dhcp := { subnetMask := .ofOctets 255 255 255 0 },
      tftp := { root := "/srv" }, bootFile := name }

def client : IPv4 := .ofOctets 10 0 0 20

theorem sizeAnnounced {name : String} (size : Nat) (hname : name.isEmpty = false)
    (hsize : Dhcp.bootSize? (bootConfig name) bootDisk = some size) :
    SizeAnnounced (bootConfig name) bootDisk
      (.ofUInt16 Dhcp.Code.bootFileSize (Dhcp.bootBlocks size)) := by
  have hpool : Dhcp.Pool.ofConfig (bootConfig name) = Dhcp.Pool.ofConfig (bootConfig "") := rfl
  have hcontains : (Dhcp.Pool.ofConfig (bootConfig name)).contains client = true := by
    rw [hpool]
    decide
  have hserver : client ≠ (bootConfig name).address := show client ≠ .ofOctets 10 0 0 1 by decide
  exact sizeAnnounced_of_bootSize? client hcontains hserver hname hsize

theorem sizeGranted {name : String} (hanswer : (Tftp.handle (bootConfig name) bootDisk (.empty 0) 0
      client 2000 (.readRequest name "octet" [("tsize", "0")])).reply =
        some (.optionAck [("tsize", "600")])) :
    SizeGranted (bootConfig name) bootDisk 600 :=
  ⟨_, _, _, _, _, _, _, hanswer, List.mem_singleton_self _⟩

end Small

/-- The name of the boot file goes through a directory and back. -/
theorem small_announced_size_is_served_size :
    let config := Small.bootConfig "/boot/../kernel"
    AnnouncesServedSize config Small.bootDisk ∧
      SizeAnnounced config Small.bootDisk ⟨Dhcp.Code.bootFileSize, [0, 2]⟩ ∧
      SizeGranted config Small.bootDisk 600 := by
  intro config
  have hfiles : ∀ file, (Small.bootDisk.content file).length < UInt64.size := by
    apply Disk.length_content_lt (by decide)
    decide +kernel
  refine ⟨?_, ?_, ?_⟩
  · exact announced_size_is_served_size config Small.bootDisk rfl hfiles (by decide +kernel)
      (by decide +kernel) (.inr (by decide +kernel))
  · exact Small.sizeAnnounced 600 (by decide) (by decide +kernel)
  · exact Small.sizeGranted (by decide +kernel)

/-- Not so for a marker, for a name with a backslash, and for one that goes up above the root: the
announced size is that of a short file, and the file that is served has 600 octets. -/
theorem announced_size_is_not_served_size :
    let differs := fun name =>
      (Small.bootConfig name).bootFileSize = 0 ∧
        SizeAnnounced (Small.bootConfig name) Small.bootDisk ⟨Dhcp.Code.bootFileSize, [0, 1]⟩ ∧
        SizeGranted (Small.bootConfig name) Small.bootDisk 600 ∧
        ¬ AnnouncesServedSize (Small.bootConfig name) Small.bootDisk
    differs "latest" ∧ differs "boot\\kernel" ∧ differs "../kernel" := by
  intro differs
  have hdiffers : ∀ name size, name.isEmpty = false →
      Dhcp.bootSize? (Small.bootConfig name) Small.bootDisk = some size →
      Dhcp.bootBlocks size = 1 → SizeGranted (Small.bootConfig name) Small.bootDisk 600 →
      differs name := by
    intro name size hname hsize hshort hgranted
    have hannounced := Small.sizeAnnounced size hname hsize
    rw [hshort] at hannounced
    refine ⟨rfl, hannounced, hgranted, ?_⟩
    intro hagree
    exact absurd (hagree _ _ hannounced hgranted) (by decide)
  refine ⟨?_, ?_, ?_⟩
  · exact hdiffers "latest" 6 (by decide) (by decide +kernel) (by decide)
      (Small.sizeGranted (by decide +kernel))
  · exact hdiffers "boot\\kernel" 1 (by decide) (by decide +kernel) (by decide)
      (Small.sizeGranted (by decide +kernel))
  · exact hdiffers "../kernel" 1 (by decide) (by decide +kernel) (by decide)
      (Small.sizeGranted (by decide +kernel))

end BootServer
