import BootServer.Proofs.Dhcp.Answers
import BootServer.Proofs.Storage.Paths
import Mathlib.Data.List.Basic

/-!
# The items of offers and acknowledgements

What an offer or an acknowledgement lists is a matter of the configuration, of the codes that the client
asked for, one after the other, and of the boot file on disk. The rules are given here as relations,
with the codes as numbers, and the list that is sent is the only one they allow. The server of the boot
file stands in the header as well.
-/

namespace BootServer.Dhcp

variable {config : Config} {disk : Disk} {probe : Probe} {leases : Leases}
  {request answer packet : Packet} {item : Item} {items : List Item}
  {code : UInt8} {codes : List UInt8} {ip seen : IPv4} {kind : MessageType}

/-! ## What a request asks for -/

/-- The first item with a code. -/
structure IsFirst (code : UInt8) (items : List Item) (item : Item) : Prop where
  code_eq : item.code = code
  split : ∃ front back, items = front ++ item :: back ∧ ∀ other ∈ front, other.code ≠ code

theorem Packet.item?_eq_some_iff :
    packet.item? code = some item ↔ IsFirst code packet.items item := by
  rw [item?, List.find?_eq_some_iff_append]
  simp only [decide_eq_true_eq, Bool.not_eq_true', decide_eq_false_iff_not]
  constructor
  · rintro ⟨hcode, hsplit⟩
    exact ⟨hcode, hsplit⟩
  · intro h
    exact ⟨h.code_eq, h.split⟩

theorem Packet.item?_eq_none_iff :
    packet.item? code = none ↔ ∀ item, ¬ IsFirst code packet.items item := by
  rw [Option.eq_none_iff_forall_ne_some]
  exact forall_congr' fun _ => not_congr item?_eq_some_iff

/-- The codes of the first parameter request list. -/
inductive Asks (request : Packet) : List UInt8 → Prop
  | listed {item : Item} (h : IsFirst 55 request.items item) : Asks request item.payload
  | unlisted (h : ∀ item, ¬ IsFirst 55 request.items item) : Asks request []

theorem asks_iff : Asks request codes ↔ codes = request.parameterRequests := by
  unfold Packet.parameterRequests
  constructor
  · rintro (h | h)
    · have hitem : request.item? Code.parameterRequests = some _ := Packet.item?_eq_some_iff.mpr h
      rw [hitem, Option.map_some, Option.getD_some]
    · have hitem : request.item? Code.parameterRequests = none := Packet.item?_eq_none_iff.mpr h
      rw [hitem, Option.map_none, Option.getD_none]
  · rintro rfl
    cases hitem : request.item? Code.parameterRequests with
    | none => exact .unlisted (Packet.item?_eq_none_iff.mp hitem)
    | some item => exact .listed (Packet.item?_eq_some_iff.mp hitem)

/-- The client is named by its own identifier, or else by its hardware address. -/
inductive NamesClient (request : Packet) : Item → Prop
  | own {item : Item} (h : IsFirst 61 request.items item) (hne : item.payload ≠ []) :
      NamesClient request item
  | hardware (h : ∀ item, IsFirst 61 request.items item → item.payload = []) :
      NamesClient request ⟨61, request.hardwareOctets⟩

theorem namesClient_iff : NamesClient request item ↔ item = request.clientIdentifier := by
  rcases request.clientIdentifier_cases with ⟨own, hown, hne, heq⟩ | ⟨hempty, heq⟩
  · rw [heq]
    constructor
    · rintro (⟨h, -⟩ | h)
      · exact Option.some.inj ((Packet.item?_eq_some_iff.mpr h).symm.trans hown)
      · exact absurd (h own (Packet.item?_eq_some_iff.mp hown)) hne
    · rintro rfl
      exact .own (Packet.item?_eq_some_iff.mp hown) hne
  · rw [heq]
    constructor
    · rintro (⟨h, hne⟩ | -)
      · exact absurd (hempty item (Packet.item?_eq_some_iff.mpr h)) hne
      · rfl
    · rintro rfl
      exact .hardware fun own hown => hempty own (Packet.item?_eq_some_iff.mpr hown)

/-! ## What is told in answer -/

/-- The address 127.0.0.1 stands for the server. -/
inductive StandsFor (config : Config) : IPv4 → IPv4 → Prop
  | server : StandsFor config (.ofOctets 127 0 0 1) config.address
  | itself {ip : IPv4} (h : ip ≠ .ofOctets 127 0 0 1) : StandsFor config ip ip

theorem standsFor_iff : StandsFor config ip seen ↔ seen = forwarded config ip := by
  unfold forwarded
  constructor
  · rintro (_ | h)
    · exact (if_pos rfl).symm
    · exact (if_neg h).symm
  · rintro rfl
    split
    next h => exact h ▸ .server
    next h => exact .itself h

/-- The settings with an address that may stand for the server, by their codes. -/
def forwardedSettings (config : Config) : List (UInt8 × IPv4) :=
  [(3, config.dhcp.gateway), (6, config.dhcp.nameServer), (4, config.dhcp.timeServer)]

/-- An item tells of the setting that a code is for, which must not be blank. -/
inductive Tells (config : Config) : UInt8 → Item → Prop
  | subnetMask (h : config.dhcp.subnetMask ≠ .unspecified) :
      Tells config 1 ⟨1, config.dhcp.subnetMask.octets⟩
  | domainName (h : config.dhcp.domain ≠ "") :
      Tells config 15 ⟨15, Text.Utf8.encode config.dhcp.domain⟩
  | forwarded {code : UInt8} {setting ip : IPv4} (hcode : (code, setting) ∈ forwardedSettings config)
      (h : setting ≠ .unspecified) (hip : StandsFor config setting ip) :
      Tells config code ⟨code, ip.octets⟩

theorem tells_of_forwarded {setting : IPv4} (hcode : (code, setting) ∈ forwardedSettings config)
    (h : (setting.specified?.map fun ip => Item.ofAddress code (forwarded config ip)) = some item) :
    Tells config code item := by
  obtain ⟨ip, hip, rfl⟩ := Option.map_eq_some_iff.mp h
  obtain ⟨rfl, hne⟩ := IPv4.specified?_eq_some_iff.mp hip
  exact .forwarded hcode hne (standsFor_iff.mpr rfl)

theorem requestedItem?_of_forwarded {setting : IPv4}
    (hcode : (code, setting) ∈ forwardedSettings config) :
    requestedItem? config code =
      setting.specified?.map fun ip => Item.ofAddress code (forwarded config ip) := by
  simp only [forwardedSettings, List.mem_cons, Prod.mk.injEq, List.not_mem_nil, or_false] at hcode
  rcases hcode with ⟨rfl, rfl⟩ | ⟨rfl, rfl⟩ | ⟨rfl, rfl⟩ <;> rfl

theorem requestedItem?_eq_some_iff :
    requestedItem? config code = some item ↔ Tells config code item := by
  constructor
  · intro h
    unfold requestedItem? at h
    split_ifs at h with hcode hcode hcode hcode hempty hcode
    all_goals subst hcode
    · obtain ⟨ip, hip, rfl⟩ := Option.map_eq_some_iff.mp h
      obtain ⟨rfl, hne⟩ := IPv4.specified?_eq_some_iff.mp hip
      exact .subnetMask hne
    · exact tells_of_forwarded List.mem_cons_self h
    · exact tells_of_forwarded (List.mem_cons_of_mem _ List.mem_cons_self) h
    · obtain rfl := Option.some.inj h
      exact .domainName (mt String.isEmpty_iff.mpr hempty)
    · exact tells_of_forwarded (List.mem_cons_of_mem _ (List.mem_cons_of_mem _ List.mem_cons_self)) h
  · rintro (hmask | hdomain | ⟨hcode, hne, hip⟩)
    · exact Option.map_eq_some_iff.mpr ⟨_, IPv4.specified?_eq_some_iff.mpr ⟨rfl, hmask⟩, rfl⟩
    · exact if_neg (mt String.isEmpty_iff.mp hdomain)
    · obtain rfl := standsFor_iff.mp hip
      rw [requestedItem?_of_forwarded hcode]
      exact Option.map_eq_some_iff.mpr ⟨_, IPv4.specified?_eq_some_iff.mpr ⟨rfl, hne⟩, rfl⟩

/-- The one item that tells something, or nothing where no item does. -/
inductive OneIf (tells : Item → Prop) : List Item → Prop
  | told {item : Item} (h : tells item) : OneIf tells [item]
  | untold (h : ∀ item, ¬ tells item) : OneIf tells []

theorem oneIf_iff {tells : Item → Prop} {item? : Option Item}
    (h : ∀ item, item? = some item ↔ tells item) : OneIf tells items ↔ items = item?.toList := by
  constructor
  · rintro (htold | huntold)
    · rw [(h _).mpr htold, Option.toList_some]
    · have hnone : item? = none :=
        Option.eq_none_iff_forall_ne_some.mpr fun item hitem => huntold item ((h item).mp hitem)
      rw [hnone, Option.toList_none]
  · rintro rfl
    cases item? with
    | none => exact .untold fun item hitem => nomatch (h item).mpr hitem
    | some item => exact .told ((h item).mp rfl)

/-- What is told in answer to codes, one after the other. -/
inductive Told (config : Config) : List UInt8 → List Item → Prop
  | nil : Told config [] []
  | cons {code : UInt8} {codes : List UInt8} {first rest : List Item}
      (hfirst : OneIf (Tells config code) first) (hrest : Told config codes rest) :
      Told config (code :: codes) (first ++ rest)

theorem told_iff : Told config codes items ↔ items = codes.filterMap (requestedItem? config) := by
  rw [List.filterMap_eq_flatMap_toList]
  induction codes generalizing items with
  | nil =>
      constructor
      · rintro ⟨⟩
        rfl
      · rintro rfl
        exact .nil
  | cons code codes ih =>
      have hfirst : ∀ {first}, OneIf (Tells config code) first ↔
          first = (requestedItem? config code).toList :=
        oneIf_iff fun _ => requestedItem?_eq_some_iff
      rw [List.flatMap_cons]
      constructor
      · rintro (_ | ⟨hone, hrest⟩)
        rw [hfirst.mp hone, ih.mp hrest]
      · rintro rfl
        exact .cons (hfirst.mpr rfl) (ih.mpr rfl)

/-! ## The boot file -/

/-- The size of the boot file: the configured one, or that of the regular file under the directory of
boot files. -/
inductive BootSize (config : Config) (disk : Disk) : Nat → Prop
  | configured (h : config.bootFileSize ≠ 0) : BootSize config disk config.bootFileSize.toNat
  | stored {path : String} {octets : Bytes} (h : config.bootFileSize = 0)
      (hpath : Path.Under config.tftp.root config.bootFile path)
      (hfile : disk.look path = .ok (some octets)) : BootSize config disk octets.length

theorem bootSize?_eq_some_iff {size : Nat} :
    bootSize? config disk = some size ↔ BootSize config disk size := by
  unfold bootSize? storedBootSize?
  constructor
  · intro h
    split at h
    next hset =>
      obtain rfl := Option.some.inj h
      exact .configured hset
    next hunset =>
      obtain ⟨id, hid, rfl⟩ := Option.map_eq_some_iff.mp h
      exact .stored (Decidable.not_not.mp hunset) (Path.under_iff.mpr rfl)
        (Disk.look_eq_file_iff.mpr ⟨id, hid, rfl⟩)
  · rintro (hset | ⟨hunset, hpath, hfile⟩)
    · exact if_pos hset
    · obtain rfl := Path.under_iff.mp hpath
      obtain ⟨id, hid, rfl⟩ := Disk.look_eq_file_iff.mp hfile
      rw [if_neg (not_not_intro hunset), bootPath, hid, Option.map_some]

/-- The size in units of 512 octets, rounded up, and no more than two octets hold. -/
inductive TellsSize (config : Config) (disk : Disk) : Item → Prop
  | intro {size : Nat} {blocks : UInt16} (hsize : BootSize config disk size)
      (hblocks : blocks.toNat = min ((size + 511) / 512) 65535) :
      TellsSize config disk ⟨13, Bytes.ofUInt16 blocks⟩

theorem toNat_bootBlocks (size : Nat) :
    (bootBlocks size).toNat = min ((size + 511) / 512) 65535 := by
  have hle : min ((size + 511) / 512) 65535 < 2 ^ 16 :=
    Nat.lt_of_le_of_lt (Nat.min_le_right _ _) (by decide)
  exact UInt16.toNat_ofNat_of_lt' hle

theorem bootSizeItem_eq_some_iff :
    ((bootSize? config disk).map fun size =>
        Item.ofUInt16 Code.bootFileSize (bootBlocks size)) = some item ↔
      TellsSize config disk item := by
  rw [Option.map_eq_some_iff]
  constructor
  · rintro ⟨size, hsize, rfl⟩
    exact .intro (bootSize?_eq_some_iff.mp hsize) (toNat_bootBlocks size)
  · rintro @⟨size, blocks, hsize, hblocks⟩
    obtain rfl : bootBlocks size = blocks :=
      UInt16.toNat_inj.mp ((toNat_bootBlocks size).trans hblocks.symm)
    exact ⟨size, bootSize?_eq_some_iff.mpr hsize, rfl⟩

/-- The server of the boot file: this one where it serves files and no other is configured, or the
configured one. -/
inductive BootsFrom (config : Config) : IPv4 → Prop
  | own (henabled : config.tftp.enabled = true) (haddress : config.address ≠ .unspecified)
      (hother : config.dhcp.bootServer = .unspecified ∨ config.dhcp.bootServer = config.address) :
      BootsFrom config config.address
  | configured (h : config.dhcp.bootServer ≠ .unspecified) :
      BootsFrom config config.dhcp.bootServer

theorem BootsFrom.ne_unspecified (h : BootsFrom config ip) : ip ≠ .unspecified := by
  cases h with
  | own henabled haddress hother => exact haddress
  | configured h => exact h

theorem bootServer?_eq_some_iff : bootServer? config = some ip ↔ BootsFrom config ip := by
  have hown : (config.tftp.enabled && !config.address.isUnspecified &&
      (config.dhcp.bootServer.isUnspecified || config.dhcp.bootServer == config.address)) = true ↔
        config.tftp.enabled = true ∧ config.address ≠ .unspecified ∧
          (config.dhcp.bootServer = .unspecified ∨ config.dhcp.bootServer = config.address) := by
    simp only [Bool.and_eq_true, Bool.or_eq_true, Bool.not_eq_true', Bool.eq_false_iff,
      IPv4.isUnspecified_eq_true, beq_iff_eq, and_assoc, ne_eq]
  unfold bootServer?
  dsimp only
  constructor
  · intro h
    split at h
    next hserved =>
      obtain rfl := Option.some.inj h
      obtain ⟨henabled, haddress, hother⟩ := hown.mp hserved
      exact .own henabled haddress hother
    next =>
      obtain ⟨rfl, hset⟩ := IPv4.specified?_eq_some_iff.mp h
      exact .configured hset
  · rintro (⟨henabled, haddress, hother⟩ | hset)
    · exact if_pos (hown.mpr ⟨henabled, haddress, hother⟩)
    · split
      next hserved =>
        -- the configured server is this one
        obtain ⟨-, -, hother⟩ := hown.mp hserved
        exact congrArg some (hother.resolve_left hset).symm
      next => exact IPv4.specified?_eq_some_iff.mpr ⟨rfl, hset⟩

theorem bootServer?_eq_none_iff : bootServer? config = none ↔ ∀ ip, ¬ BootsFrom config ip := by
  rw [Option.eq_none_iff_forall_ne_some]
  exact forall_congr' fun _ => not_congr bootServer?_eq_some_iff

inductive TellsServer (config : Config) : Item → Prop
  | intro {ip : IPv4} (hip : BootsFrom config ip) :
      TellsServer config ⟨66, Text.Utf8.encode ip.toText⟩

theorem bootServerItem_eq_some_iff :
    ((bootServer? config).map fun ip => Item.ofText Code.bootServer ip.toText) = some item ↔
      TellsServer config item := by
  rw [Option.map_eq_some_iff]
  constructor
  · rintro ⟨ip, hip, rfl⟩
    exact .intro (bootServer?_eq_some_iff.mp hip)
  · rintro ⟨hip⟩
    exact ⟨_, bootServer?_eq_some_iff.mpr hip, rfl⟩

/-- What is told of the boot file, if there is one: its name, its size and its server. -/
inductive ToldOfBootFile (config : Config) (disk : Disk) : List Item → Prop
  | missing (h : config.bootFile = "") : ToldOfBootFile config disk []
  | named {size server : List Item} (h : config.bootFile ≠ "")
      (hsize : OneIf (TellsSize config disk) size) (hserver : OneIf (TellsServer config) server) :
      ToldOfBootFile config disk
        (⟨67, Text.Utf8.encode config.bootFile ++ [0]⟩ :: (size ++ server))

theorem toldOfBootFile_iff : ToldOfBootFile config disk items ↔ items = bootItems config disk := by
  have hsizes : ∀ {size}, OneIf (TellsSize config disk) size ↔ size = _ :=
    oneIf_iff fun _ => bootSizeItem_eq_some_iff
  have hservers : ∀ {server}, OneIf (TellsServer config) server ↔ server = _ :=
    oneIf_iff fun _ => bootServerItem_eq_some_iff
  unfold bootItems
  constructor
  · rintro (hempty | ⟨hfile, hsize, hserver⟩)
    · exact (if_pos (String.isEmpty_iff.mpr hempty)).symm
    · rw [if_neg (mt String.isEmpty_iff.mp hfile), hsizes.mp hsize, hservers.mp hserver]
      rfl
  · rintro rfl
    split
    next hempty => exact .missing (String.isEmpty_iff.mp hempty)
    next hfile =>
      exact .named (mt String.isEmpty_iff.mpr hfile) (hsizes.mpr rfl) (hservers.mpr rfl)

/-! ## Offers and acknowledgements -/

def tenDays : Bytes := Bytes.ofUInt32 (10 * 24 * 60 * 60)

/-- What an offer or an acknowledgement lists. -/
inductive Lists (config : Config) (disk : Disk) (request : Packet) (kind : MessageType) :
    List Item → Prop
  | intro {codes : List UInt8} {requested boot : List Item} {client : Item}
      (hcodes : Asks request codes) (hrequested : Told config codes requested)
      (hboot : ToldOfBootFile config disk boot) (hclient : NamesClient request client) :
      Lists config disk request kind
        (⟨53, [kind.code]⟩ :: (requested ++ boot ++
          [⟨54, config.address.octets⟩, ⟨59, tenDays⟩, ⟨58, tenDays⟩, ⟨51, tenDays⟩] ++ [client]))

theorem lists_iff_of_grant {clientAddress : IPv4} :
    Lists config disk request kind items ↔
      items = (grant config disk request kind ip clientAddress).items := by
  rw [items_grant]
  constructor
  · rintro ⟨hcodes, hrequested, hboot, hclient⟩
    obtain rfl := asks_iff.mp hcodes
    obtain rfl := told_iff.mp hrequested
    obtain rfl := toldOfBootFile_iff.mp hboot
    obtain rfl := namesClient_iff.mp hclient
    rfl
  · rintro rfl
    exact .intro (asks_iff.mpr rfl) (told_iff.mpr rfl) (toldOfBootFile_iff.mpr rfl)
      (namesClient_iff.mpr rfl)

/-- The header names the server of the boot file by its address, and by its text where there is a boot
file. -/
structure NamesBootServer (config : Config) (answer : Packet) : Prop where
  address : ∀ ip, BootsFrom config ip ↔ answer.serverAddress = ip ∧ ip ≠ .unspecified
  name : ∀ ip, answer.serverName.text = ip.toText ↔ config.bootFile ≠ "" ∧ BootsFrom config ip
  filled : ∀ ip, config.bootFile ≠ "" → BootsFrom config ip → answer.serverName.octets =
    Text.Utf8.encode ip.toText ++ List.replicate (64 - ip.toText.utf8ByteSize) 0
  blank : (∀ ip, config.bootFile ≠ "" → ¬ BootsFrom config ip) →
    answer.serverName.octets = List.replicate 64 0

theorem serverAddress_grant (config : Config) (disk : Disk) (packet : Packet) (kind : MessageType)
    (ip clientAddress : IPv4) :
    (grant config disk packet kind ip clientAddress).serverAddress =
      (bootServer? config).getD .unspecified := by
  unfold grant
  dsimp only
  split
  · rfl
  · cases bootServer? config <;> rfl

theorem serverName_grant (config : Config) (disk : Disk) (packet : Packet) (kind : MessageType)
    (ip clientAddress : IPv4) :
    (grant config disk packet kind ip clientAddress).serverName =
      if config.bootFile.isEmpty then .zero 64
      else (bootServer? config).elim (.zero 64) fun server => .ofText 64 server.toText := by
  unfold grant
  dsimp only
  split
  · rfl
  · cases bootServer? config <;> rfl

theorem serverName_of_known (disk : Disk) (packet : Packet) (kind : MessageType)
    (ip clientAddress : IPv4) {server : IPv4} (hfile : config.bootFile ≠ "")
    (hserver : BootsFrom config server) :
    (grant config disk packet kind ip clientAddress).serverName.octets =
      Text.Utf8.encode server.toText ++ List.replicate (64 - server.toText.utf8ByteSize) 0 := by
  rw [serverName_grant, if_neg (mt String.isEmpty_iff.mp hfile),
    bootServer?_eq_some_iff.mpr hserver, Option.elim_some]
  exact FixedField.octets_ofText (Nat.lt_of_le_of_lt server.utf8ByteSize_toText_le (by decide))

theorem serverName_of_unknown (disk : Disk) (packet : Packet) (kind : MessageType)
    (ip clientAddress : IPv4)
    (h : ∀ server, config.bootFile ≠ "" → ¬ BootsFrom config server) :
    (grant config disk packet kind ip clientAddress).serverName.octets = List.replicate 64 0 := by
  rw [serverName_grant]
  split
  next => rfl
  next hfile =>
    have hnone := bootServer?_eq_none_iff.mpr fun server =>
      h server (mt String.isEmpty_iff.mpr hfile)
    rw [hnone]
    rfl

theorem text_serverName_iff (disk : Disk) (packet : Packet) (kind : MessageType)
    (ip clientAddress server : IPv4) :
    (grant config disk packet kind ip clientAddress).serverName.text = server.toText ↔
      config.bootFile ≠ "" ∧ BootsFrom config server := by
  have hknown : ∀ {other}, config.bootFile ≠ "" → BootsFrom config other →
      (grant config disk packet kind ip clientAddress).serverName.text = other.toText :=
    fun {other} hfile hother => FixedField.text_eq_of_octets other.zero_not_mem_toText
      (serverName_of_known disk packet kind ip clientAddress hfile hother)
  constructor
  · intro hname
    by_cases h : config.bootFile ≠ "" ∧ ∃ other, BootsFrom config other
    · obtain ⟨hfile, other, hother⟩ := h
      obtain rfl := IPv4.toText_injective ((hknown hfile hother).symm.trans hname)
      exact ⟨hfile, hother⟩
    · -- zeros are read as the empty text, which no address has
      have hblank := serverName_of_unknown disk packet kind ip clientAddress
        fun other hfile hother => h ⟨hfile, other, hother⟩
      have hempty : List.replicate 64 0 = Text.Utf8.encode "" ++ List.replicate 64 0 := rfl
      have htext := FixedField.text_eq_of_octets (by decide) (hblank.trans hempty)
      exact absurd (hname.symm.trans htext) server.toText_ne_empty
  · rintro ⟨hfile, hserver⟩
    exact hknown hfile hserver

theorem serverAddress_iff (disk : Disk) (packet : Packet) (kind : MessageType)
    (ip clientAddress server : IPv4) :
    BootsFrom config server ↔
      (grant config disk packet kind ip clientAddress).serverAddress = server ∧
        server ≠ .unspecified := by
  rw [serverAddress_grant]
  constructor
  · intro hserver
    rw [bootServer?_eq_some_iff.mpr hserver]
    exact ⟨rfl, hserver.ne_unspecified⟩
  · rintro ⟨haddress, hne⟩
    apply bootServer?_eq_some_iff.mp
    cases hserver : bootServer? config with
    | none =>
        rw [hserver] at haddress
        exact absurd haddress.symm hne
    | some other =>
        rw [hserver, Option.getD_some] at haddress
        rw [haddress]

theorem namesBootServer_grant (config : Config) (disk : Disk) (packet : Packet)
    (kind : MessageType) (ip clientAddress : IPv4) :
    NamesBootServer config (grant config disk packet kind ip clientAddress) where
  address := serverAddress_iff disk packet kind ip clientAddress
  name := text_serverName_iff disk packet kind ip clientAddress
  filled _ := serverName_of_known disk packet kind ip clientAddress
  blank := serverName_of_unknown disk packet kind ip clientAddress

/-- The list of an offer or an acknowledgement is the one that the rules allow. -/
theorem granted_items_in_order
    (hanswer : (handle config disk probe leases request).reply = some answer)
    (hkind : kind ∈ [MessageType.offer, .ack]) (hcode : answer.messageCode? = some kind.code) :
    (∀ items, Lists config disk request kind items ↔ items = answer.items) ∧
      NamesBootServer config answer := by
  rcases answer_cases hanswer with ⟨given, -, ip, clientAddress, rfl⟩ | rfl
  · rw [messageCode?_grant] at hcode
    have hread := congrArg MessageType.ofCode? (Option.some.inj hcode)
    rw [MessageType.ofCode?_code, MessageType.ofCode?_code] at hread
    obtain rfl := Option.some.inj hread
    exact ⟨fun items => lists_iff_of_grant, namesBootServer_grant ..⟩
  · rw [refusal, Packet.messageCode?_reply] at hcode
    have hnak : ∀ kind ∈ [MessageType.offer, .ack], some MessageType.nak.code ≠ some kind.code := by
      decide
    exact absurd hcode (hnak kind hkind)

namespace Small

/-- A server of files that is also the router. -/
def bootConfig : Config :=
  let config := domainConfig "lan"
  { config with
    dhcp := { config.dhcp with gateway := .loopback }
    bootFile := "pxelinux.0"
    bootFileSize := 1000 }

def bootOffer (codes : List UInt8) : Packet :=
  grant bootConfig .empty (inquiry codes) .offer offered .unspecified

theorem reply_bootConfig (codes : List UInt8) :
    (handle bootConfig .empty (Visit.looking offered).probe .empty (inquiry codes)).reply =
      some (bootOffer codes) := by
  have hverdict : (verdict bootConfig .empty (Visit.looking offered).probe
      (inquiry codes)).verdict = .offer offered :=
    verdict_of_silent (by decide) (by decide) rfl (Packet.isBroadcast_ofNewcomer _) rfl rfl
  rw [handle, settle, hverdict]
  rfl

end Small

/-- Of five codes, one that is asked for twice is answered twice and two are not answered. -/
theorem small_granted_items_in_order :
    let request := Small.inquiry [3, 99, 15, 6, 3]
    ∃ answer, (handle Small.bootConfig .empty (Visit.looking Small.offered).probe .empty
        request).reply = some answer ∧
      answer.messageCode? = some MessageType.offer.code ∧
      Lists Small.bootConfig .empty request .offer answer.items ∧
      answer.items.map Item.code = [53, 3, 15, 3, 67, 13, 66, 54, 59, 58, 51, 61] ∧
      answer.serverName.text = "10.0.0.1" := by
  intro request
  have hanswer := Small.reply_bootConfig [3, 99, 15, 6, 3]
  have hcode : (Small.bootOffer [3, 99, 15, 6, 3]).messageCode? = some MessageType.offer.code :=
    messageCode?_grant ..
  obtain ⟨hlists, hheader⟩ := granted_items_in_order hanswer (by decide) hcode
  have hserver : BootsFrom Small.bootConfig (.ofOctets 10 0 0 1) :=
    .own rfl (by decide) (.inl rfl)
  have hname := (hheader.name (.ofOctets 10 0 0 1)).mpr ⟨by decide, hserver⟩
  exact ⟨_, hanswer, hcode, (hlists _).mpr rfl, by decide, hname.trans (by decide)⟩

end BootServer.Dhcp
