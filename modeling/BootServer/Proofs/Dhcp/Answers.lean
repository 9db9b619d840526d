import BootServer.Dhcp.Exchange
import BootServer.Proofs.Dhcp.Reencoding
import BootServer.Proofs.Dhcp.ServedSubnet
import BootServer.Proofs.Text.Sizes
import BootServer.Proofs.Text.Utf8
import Mathlib.Tactic.SplitIfs

/-!
# What the answers to a datagram say

An answer repeats what tells a client that it is meant, names the server and the client, and tells
of the configuration. Of its items only the domain and the boot file can be too long for their length
octet, so the datagram is read as the answer with these two cut.
-/

namespace BootServer.Dhcp

variable {config : Config} {disk : Disk} {probe : Probe} {leases : Leases}
  {request answer packet : Packet} {item : Item} {code : UInt8}

/-! ## Items -/

namespace Item

def addressCodes : List UInt8 :=
  [Code.subnetMask, Code.router, Code.nameServer, Code.timeServer]

def timeCodes : List UInt8 := [Code.rebindingTime, Code.renewalTime, Code.leaseTime]

/-- An item that tells of the configuration. -/
inductive Configured (config : Config) : Item → Prop
  | address {code : UInt8} (ip : IPv4) (h : code ∈ addressCodes) :
      Configured config (.ofAddress code ip)
  | domain : Configured config (.ofText Code.domainName config.dhcp.domain)
  | bootFile : Configured config (.ofTerminatedText Code.bootFile config.bootFile)
  | bootFileSize (blocks : UInt16) : Configured config (.ofUInt16 Code.bootFileSize blocks)
  | bootServer (ip : IPv4) : Configured config (.ofText Code.bootServer ip.toText)
  | time {code : UInt8} (seconds : UInt32) (h : code ∈ timeCodes) :
      Configured config (.ofUInt32 code seconds)

/-- The codes of fillers, of the end, and of what tells of the message, the server or the client. -/
def reservedCodes : List UInt8 :=
  [Code.fill, Code.finish, Code.messageType, Code.serverIdentifier, Code.clientIdentifier]

namespace Configured

theorem code_not_mem (h : item.Configured config) : item.code ∉ reservedCodes := by
  have hcodes : (addressCodes ++ timeCodes).all (· ∉ reservedCodes) = true := by decide
  have hapart : ∀ code ∈ addressCodes ++ timeCodes, code ∉ reservedCodes :=
    fun code hcode => of_decide_eq_true (List.all_eq_true.mp hcodes code hcode)
  cases h with
  | address ip hcode => exact hapart _ (List.mem_append_left timeCodes hcode)
  | time seconds hcode => exact hapart _ (List.mem_append_right addressCodes hcode)
  | domain => exact (by decide : Code.domainName ∉ reservedCodes)
  | bootFile => exact (by decide : Code.bootFile ∉ reservedCodes)
  | bootFileSize blocks => exact (by decide : Code.bootFileSize ∉ reservedCodes)
  | bootServer ip => exact (by decide : Code.bootServer ∉ reservedCodes)

theorem code_ne (h : item.Configured config) (hcode : code ∈ reservedCodes) : item.code ≠ code :=
  fun heq => h.code_not_mem (heq ▸ hcode)

theorem isTagged (h : item.Configured config) : item.IsTagged :=
  ⟨h.code_ne (by decide), h.code_ne (by decide)⟩

theorem cut_eq_or (h : item.Configured config) :
    item.cut = item ∨ item = .ofText Code.domainName config.dhcp.domain ∨
      item = .ofTerminatedText Code.bootFile config.bootFile := by
  cases h with
  | address ip | time seconds | bootFileSize blocks => exact .inl rfl
  | domain => exact .inr (.inl rfl)
  | bootFile => exact .inr (.inr rfl)
  | bootServer ip =>
      refine .inl (cut_eq_self ?_)
      rw [ofText, Text.Utf8.length_encode]
      exact Nat.le_trans ip.utf8ByteSize_toText_le (by decide)

end Configured

end Item

theorem requestedItem?_cases (h : requestedItem? config code = some item) :
    (code ∈ Item.addressCodes ∧ ∃ ip, item = .ofAddress code ip) ∨
      (code = Code.domainName ∧ item = .ofText Code.domainName config.dhcp.domain) := by
  have haddress : ∀ (ip? : Option IPv4) (seen : IPv4 → IPv4), code ∈ Item.addressCodes →
      (ip?.map fun ip => Item.ofAddress code (seen ip)) = some item →
        code ∈ Item.addressCodes ∧ ∃ ip, item = .ofAddress code ip := by
    intro ip? seen hcode hmap
    obtain ⟨ip, -, rfl⟩ := Option.map_eq_some_iff.mp hmap
    exact ⟨hcode, _, rfl⟩
  unfold requestedItem? at h
  split_ifs at h with hmask hrouter hname hdomain hempty htime
  · exact .inl (haddress _ id (hmask ▸ by decide) h)
  · exact .inl (haddress _ (forwarded config) (hrouter ▸ by decide) h)
  · exact .inl (haddress _ (forwarded config) (hname ▸ by decide) h)
  · obtain rfl := Option.some.inj h
    exact .inr ⟨hdomain, by rw [hdomain]⟩
  · exact .inl (haddress _ (forwarded config) (htime ▸ by decide) h)

theorem configured_of_requestedItem? (h : requestedItem? config code = some item) :
    item.Configured config ∧ item.code = code := by
  rcases requestedItem?_cases h with ⟨hcode, ip, rfl⟩ | ⟨rfl, rfl⟩
  · exact ⟨.address ip hcode, rfl⟩
  · exact ⟨.domain, rfl⟩

theorem mem_requestedItems (h : item ∈ requestedItems config request) :
    item.Configured config ∧ requestedItem? config item.code = some item := by
  obtain ⟨code, -, hanswer⟩ := List.mem_filterMap.mp h
  obtain ⟨hconfigured, rfl⟩ := configured_of_requestedItem? hanswer
  exact ⟨hconfigured, hanswer⟩

theorem mem_bootItems (h : item ∈ bootItems config disk) :
    item = .ofTerminatedText Code.bootFile config.bootFile ∨
      (∃ size, bootSize? config disk = some size ∧
        item = .ofUInt16 Code.bootFileSize (bootBlocks size)) ∨
      ∃ ip, bootServer? config = some ip ∧ item = .ofText Code.bootServer ip.toText := by
  unfold bootItems at h
  split at h
  next => exact nomatch h
  next =>
    simp only [List.mem_cons, List.mem_append, Option.mem_toList, Option.map_eq_some_iff] at h
    rcases h with rfl | ⟨size, hsize, rfl⟩ | ⟨ip, hip, rfl⟩
    · exact .inl rfl
    · exact .inr (.inl ⟨size, hsize, rfl⟩)
    · exact .inr (.inr ⟨ip, hip, rfl⟩)

theorem configured_of_mem_bootItems (h : item ∈ bootItems config disk) :
    item.Configured config := by
  rcases mem_bootItems h with rfl | ⟨size, -, rfl⟩ | ⟨ip, -, rfl⟩
  · exact .bootFile
  · exact .bootFileSize _
  · exact .bootServer ip

/-! ### The item that names the client -/

theorem Packet.length_hardwareOctets_le (packet : Packet) : packet.hardwareOctets.length ≤ 16 := by
  rw [hardwareOctets, List.length_take]
  omega

theorem Packet.clientIdentifier_cases (packet : Packet) :
    (∃ own, packet.item? Code.clientIdentifier = some own ∧ own.payload ≠ [] ∧
        packet.clientIdentifier = own) ∨
      ((∀ own, packet.item? Code.clientIdentifier = some own → own.payload = []) ∧
        packet.clientIdentifier = ⟨Code.clientIdentifier, packet.hardwareOctets⟩) := by
  unfold clientIdentifier
  cases packet.item? Code.clientIdentifier with
  | none => exact .inr ⟨fun _ hown => (nomatch hown), rfl⟩
  | some own =>
      by_cases hempty : own.payload = []
      · have hdropped : (some own).filter (fun item => !item.payload.isEmpty) = none := by
          simp [hempty]
        refine .inr ⟨?_, by rw [hdropped, Option.getD_none]⟩
        rintro _ ⟨⟩
        exact hempty
      · have hkept : (some own).filter (fun item => !item.payload.isEmpty) = some own := by
          simp [hempty]
        exact .inl ⟨own, rfl, hempty, by rw [hkept, Option.getD_some]⟩

theorem Packet.code_clientIdentifier (packet : Packet) :
    packet.clientIdentifier.code = Code.clientIdentifier := by
  rcases packet.clientIdentifier_cases with ⟨own, hown, -, heq⟩ | ⟨-, heq⟩
  · have hcode : own.code = Code.clientIdentifier := by simpa using List.find?_some hown
    rw [heq, hcode]
  · rw [heq]

theorem Packet.cut_clientIdentifier
    (h : ∀ item ∈ packet.items, item.payload.length ≤ Item.payloadMax) :
    packet.clientIdentifier.cut = packet.clientIdentifier := by
  apply Item.cut_eq_self
  rcases packet.clientIdentifier_cases with ⟨own, hown, -, heq⟩ | ⟨-, heq⟩
  · rw [heq]
    exact h own (List.mem_of_find?_eq_some hown)
  · rw [heq]
    exact Nat.le_trans packet.length_hardwareOctets_le (by decide)

/-! ## Headers -/

namespace FixedField

variable {width : Nat}

theorem getLast?_zero (h : 0 < width) : (zero width).octets.getLast? = some 0 := by
  rw [zero, List.getLast?_replicate, if_neg (Nat.ne_of_gt h)]

/-- A text leaves room for a zero octet behind it. -/
theorem getLast?_ofText (h : 0 < width) (text : String) :
    (ofText width text).octets.getLast? = some 0 := by
  have hshort : ((Text.Utf8.encode text).take (width - 1)).length < width :=
    Nat.lt_of_le_of_lt (List.length_take_le _ _) (Nat.sub_lt h Nat.one_pos)
  rw [ofText, ofBytes, List.getLast?_append, List.getLast?_replicate,
    if_neg (Nat.sub_ne_zero_of_lt hshort), Option.some_or]

theorem octets_ofText {text : String} (h : text.utf8ByteSize < width) :
    (ofText width text).octets =
      Text.Utf8.encode text ++ List.replicate (width - text.utf8ByteSize) 0 := by
  have hlength := Text.Utf8.length_encode text
  have hkept : (Text.Utf8.encode text).take (width - 1) = Text.Utf8.encode text :=
    List.take_of_length_le (by omega)
  have hwhole : (Text.Utf8.encode text).take width = Text.Utf8.encode text :=
    List.take_of_length_le (by omega)
  simp only [ofText, ofBytes, hkept, hwhole, hlength]

theorem text_eq_of_octets {count : Nat} {field : FixedField width} {text : String}
    (hzero : '\x00' ∉ text.toList)
    (h : field.octets = Text.Utf8.encode text ++ List.replicate count 0) : field.text = text := by
  rw [FixedField.text, h, Text.Utf8.takeWhile_encode hzero, Text.Utf8.decodeLossy_encode]

end FixedField

/-- The header of an answer: what a client sent comes back to it, and the names end in zero. -/
structure Packet.Heads (request answer : Packet) : Prop where
  op : answer.op = Packet.replyOp
  hardwareType : answer.hardwareType = request.hardwareType
  hardwareLength : answer.hardwareLength = request.hardwareLength
  hops : answer.hops = 0
  transaction : answer.transaction = request.transaction
  seconds : answer.seconds = 0
  flags : answer.flags = Packet.broadcastFlag
  relayAddress : answer.relayAddress = request.relayAddress
  hardware : answer.hardware = request.hardware
  serverName : answer.serverName.octets.getLast? = some 0
  bootFile : answer.bootFile.octets.getLast? = some 0

theorem Packet.heads_reply (request : Packet) (kind : UInt8) (yours server clients : IPv4)
    (items : List Item) : request.Heads (request.reply kind yours server clients items) :=
  ⟨rfl, rfl, rfl, rfl, rfl, rfl, rfl, rfl, rfl, FixedField.getLast?_zero (by decide),
    FixedField.getLast?_zero (by decide)⟩

theorem Packet.Heads.withServerName (h : request.Heads answer) (name : String) :
    request.Heads (answer.withServerName name) :=
  { h with serverName := FixedField.getLast?_ofText (by decide) name }

theorem Packet.Heads.withBootFile (h : request.Heads answer) (name : String) :
    request.Heads (answer.withBootFile name) :=
  { h with bootFile := FixedField.getLast?_ofText (by decide) name }

theorem heads_grant (config : Config) (disk : Disk) (request : Packet) (kind : MessageType)
    (ip clientAddress : IPv4) :
    request.Heads (grant config disk request kind ip clientAddress) := by
  unfold grant
  dsimp only
  split
  next => exact request.heads_reply ..
  next =>
    cases bootServer? config with
    | none => exact (request.heads_reply ..).withBootFile _
    | some server => exact ((request.heads_reply ..).withBootFile _).withServerName _

/-! ## Answers -/

theorem items_grant (config : Config) (disk : Disk) (packet : Packet) (kind : MessageType)
    (ip clientAddress : IPv4) :
    (grant config disk packet kind ip clientAddress).items =
      Item.messageType kind.code :: (requestedItems config packet ++ bootItems config disk ++
        leaseItems config ++ [packet.clientIdentifier]) := by
  unfold grant
  dsimp only
  split
  · rfl
  · cases bootServer? config <;> rfl

/-- A packet is answered with an offer, an acknowledgement or a refusal. -/
theorem answer_cases (h : (handle config disk probe leases request).reply = some answer) :
    (∃ kind ∈ [MessageType.offer, .ack], ∃ ip clientAddress,
        answer = grant config disk request kind ip clientAddress) ∨
      answer = refusal config request := by
  unfold handle settle at h
  cases hverdict : (verdict config leases probe request).verdict with
  | silence | ignore _ | exhausted => simp [hverdict] at h
  | refuse _ =>
      simp only [hverdict, Option.some.injEq] at h
      exact .inr h.symm
  | offer ip =>
      simp only [hverdict, settleGrant, Option.some.injEq] at h
      exact .inl ⟨.offer, by decide, ip, .unspecified, h.symm⟩
  | acknowledge ip =>
      simp only [hverdict, settleGrant, Option.some.injEq] at h
      exact .inl ⟨.ack, by decide, ip, request.clientAddress, h.symm⟩

theorem grant_of_granted (hanswer : (handle config disk probe leases request).reply = some answer)
    (hgranted : answer.granted?.isSome) :
    ∃ kind ip clientAddress, answer = grant config disk request kind ip clientAddress := by
  rcases answer_cases hanswer with ⟨kind, -, ip, clientAddress, heq⟩ | rfl
  · exact ⟨kind, ip, clientAddress, heq⟩
  · rw [granted?_refusal] at hgranted
    exact nomatch hgranted

/-- An answer lists the kind of the message, then the server among items that tell of the
configuration, and the client at the end. -/
theorem items_of_answer (h : (handle config disk probe leases request).reply = some answer) :
    ∃ kind ∈ [MessageType.offer, .ack, .nak], ∃ front back,
      answer.items = .messageType kind.code ::
        (front ++ .serverIdentifier config.address :: (back ++ [request.clientIdentifier])) ∧
      ∀ item ∈ front ++ back, item.Configured config := by
  rcases answer_cases h with ⟨kind, hkind, ip, clientAddress, rfl⟩ | rfl
  · refine ⟨kind, List.mem_append_left [MessageType.nak] hkind,
      requestedItems config request ++ bootItems config disk,
      [.rebindingTime leaseSeconds, .renewalTime leaseSeconds, .leaseTime leaseSeconds], ?_, ?_⟩
    · rw [items_grant, leaseItems, List.append_assoc]
      rfl
    · intro item hitem
      rcases List.mem_append.mp hitem with hfront | htime
      · rcases List.mem_append.mp hfront with hrequested | hboot
        · exact (mem_requestedItems hrequested).1
        · exact configured_of_mem_bootItems hboot
      · simp only [List.mem_cons, List.not_mem_nil, or_false] at htime
        rcases htime with rfl | rfl | rfl <;> exact .time leaseSeconds (by decide)
  · exact ⟨.nak, by decide, [], [], rfl, List.forall_mem_nil _⟩

theorem heads_of_answer (h : (handle config disk probe leases request).reply = some answer) :
    request.Heads answer := by
  rcases answer_cases h with ⟨kind, -, ip, clientAddress, rfl⟩ | rfl
  · exact heads_grant ..
  · exact request.heads_reply ..

theorem mem_items_of_answer (h : (handle config disk probe leases request).reply = some answer)
    (hitem : item ∈ answer.items) :
    (∃ kind : MessageType, item = .messageType kind.code) ∨
      item = .serverIdentifier config.address ∨ item = request.clientIdentifier ∨
        item.Configured config := by
  obtain ⟨kind, -, front, back, hitems, hconfigured⟩ := items_of_answer h
  rw [hitems] at hitem
  simp only [List.mem_cons, List.mem_append, List.not_mem_nil, or_false] at hitem
  rcases hitem with hkind | hfront | hserver | hback | hclient
  · exact .inl ⟨kind, hkind⟩
  · exact .inr (.inr (.inr (hconfigured item (List.mem_append_left back hfront))))
  · exact .inr (.inl hserver)
  · exact .inr (.inr (.inr (hconfigured item (List.mem_append_right front hback))))
  · exact .inr (.inr (.inl hclient))

theorem isTagged_of_answer (h : (handle config disk probe leases request).reply = some answer) :
    ∀ item ∈ answer.items, item.IsTagged := by
  intro item hitem
  rcases mem_items_of_answer h hitem with ⟨kind, rfl⟩ | rfl | rfl | hconfigured
  · exact ⟨(by decide : Code.messageType ≠ _), (by decide : Code.messageType ≠ _)⟩
  · exact ⟨(by decide : Code.serverIdentifier ≠ _), (by decide : Code.serverIdentifier ≠ _)⟩
  · constructor <;> rw [request.code_clientIdentifier] <;> decide
  · exact hconfigured.isTagged

/-- Only the domain and the boot file are cut. -/
theorem cut_of_answer (h : (handle config disk probe leases request).reply = some answer)
    (hrequest : ∀ item ∈ request.items, item.payload.length ≤ Item.payloadMax) :
    ∀ item ∈ answer.items, item.cut = item ∨
      item = .ofText Code.domainName config.dhcp.domain ∨
        item = .ofTerminatedText Code.bootFile config.bootFile := by
  intro item hitem
  rcases mem_items_of_answer h hitem with ⟨kind, rfl⟩ | rfl | rfl | hconfigured
  · exact .inl rfl
  · exact .inl rfl
  · exact .inl (request.cut_clientIdentifier hrequest)
  · exact hconfigured.cut_eq_or

theorem Packet.item?_of_append {front back : List Item} (h : packet.items = front ++ item :: back)
    (hcode : item.code = code) (hfront : ∀ other ∈ front, other.code ≠ code) :
    packet.item? code = some item := by
  have hnone : front.find? (fun other => other.code = code) = none := by
    apply List.find?_eq_none.mpr
    simpa using hfront
  rw [item?, h, List.find?_append, hnone, Option.none_or]
  exact List.find?_cons_of_pos (decide_eq_true hcode)

theorem Packet.Heads.cut (h : request.Heads answer) : request.Heads answer.cut :=
  ⟨h.op, h.hardwareType, h.hardwareLength, h.hops, h.transaction, h.seconds, h.flags,
    h.relayAddress, h.hardware, h.serverName, h.bootFile⟩

/-- What an answer says that has arrived at a client. -/
structure Answers (config : Config) (request answer : Packet) : Prop
    extends request.Heads answer where
  kind : ∃ kind ∈ [MessageType.offer, .ack, .nak],
    answer.items.head? = some (.messageType kind.code)
  server : answer.serverIdentifier? = some config.address
  own : ∀ own, request.item? Code.clientIdentifier = some own → own.payload ≠ [] →
    answer.item? Code.clientIdentifier = some own
  hardwareOctets : (∀ own, request.item? Code.clientIdentifier = some own → own.payload = []) →
    answer.item? Code.clientIdentifier = some ⟨Code.clientIdentifier, request.hardwareOctets⟩

theorem answers_cut (h : (handle config disk probe leases request).reply = some answer)
    (hrequest : ∀ item ∈ request.items, item.payload.length ≤ Item.payloadMax) :
    Answers config request answer.cut := by
  obtain ⟨kind, hkind, front, back, hitems, hconfigured⟩ := items_of_answer h
  have hclient := request.cut_clientIdentifier hrequest
  have hcut : answer.cut.items = .messageType kind.code :: (front.map Item.cut ++
      .serverIdentifier config.address :: (back.map Item.cut ++ [request.clientIdentifier])) := by
    rw [Packet.cut, hitems]
    simp only [List.map_cons, List.map_append, List.map_nil, hclient]
    rfl
  have hfront : ∀ code ∈ Item.reservedCodes, Code.messageType ≠ code →
      ∀ other ∈ Item.messageType kind.code :: front.map Item.cut, other.code ≠ code := by
    intro code hcode hne other hother
    rcases List.mem_cons.mp hother with rfl | hother
    · exact hne
    · obtain ⟨item, hitem, rfl⟩ := List.mem_map.mp hother
      exact (hconfigured item (List.mem_append_left back hitem)).code_ne hcode
  have hserver : answer.cut.item? Code.serverIdentifier =
      some (.serverIdentifier config.address) :=
    Packet.item?_of_append hcut rfl (hfront _ (by decide) (by decide))
  have hidentifier : answer.cut.item? Code.clientIdentifier = some request.clientIdentifier := by
    rw [← List.cons_append, ← List.cons_append, ← List.append_assoc] at hcut
    refine Packet.item?_of_append hcut request.code_clientIdentifier ?_
    intro other hother
    rcases List.mem_append.mp hother with hother | hother
    · exact hfront _ (by decide) (by decide) other hother
    rcases List.mem_cons.mp hother with rfl | hother
    · exact (by decide : Code.serverIdentifier ≠ Code.clientIdentifier)
    · obtain ⟨item, hitem, rfl⟩ := List.mem_map.mp hother
      exact (hconfigured item (List.mem_append_right front hitem)).code_ne (by decide)
  refine ⟨(heads_of_answer h).cut, ⟨kind, hkind, by rw [hcut]; rfl⟩, ?_, ?_, ?_⟩
  · rw [Packet.serverIdentifier?, hserver]
    exact Item.address?_ofAddress Code.serverIdentifier config.address
  · intro own hown hne
    rcases request.clientIdentifier_cases with ⟨other, hother, -, heq⟩ | ⟨hempty, -⟩
    · rw [hidentifier, heq, ← hother, hown]
    · exact absurd (hempty own hown) hne
  · intro hempty
    rcases request.clientIdentifier_cases with ⟨own, hown, hne, -⟩ | ⟨-, heq⟩
    · exact absurd (hempty own hown) hne
    · rw [hidentifier, heq]

namespace Small

def letters (count : Nat) : String := String.ofList (List.replicate count 'a')

/-- A server with a domain and without a boot file. -/
def domainConfig (domain : String) : Config :=
  .completed
    { address := .ofOctets 10 0 0 1,
      dhcp := { subnetMask := .ofOctets 255 255 255 0, domain := domain }, bootFile := "" }

/-- A client looks for a server and asks for options. -/
def inquiry (codes : List UInt8) : Packet :=
  .ofNewcomer [.messageType MessageType.discover.code, ⟨Code.parameterRequests, codes⟩]

/-- Only at this address nobody answers. -/
def offered : IPv4 := .ofOctets 10 0 0 20

def offer (domain : String) (codes : List UInt8) : Packet :=
  grant (domainConfig domain) .empty (inquiry codes) .offer offered .unspecified

def exchange (domain : String) (codes : List UInt8) : Exchange :=
  serve (domainConfig domain) .empty (Visit.looking offered).probe .empty (.v4 .unspecified 68)
    (inquiry codes).encode

variable {domain : String} {codes : List UInt8}

theorem encode_letters (count : Nat) :
    Text.Utf8.encode (letters count) = List.replicate count 97 := by
  rw [Text.Utf8.encode, letters, String.toList_ofList]
  induction count with
  | zero => rfl
  | succ count ih =>
      rw [List.replicate_succ, List.flatMap_cons, ih]
      rfl

theorem letters_ne_empty {count : Nat} (h : 0 < count) : letters count ≠ "" := by
  intro hempty
  have hnil := congrArg String.toList hempty
  rw [letters, String.toList_ofList] at hnil
  exact absurd ((List.replicate_eq_nil_iff _).mp hnil) (Nat.ne_of_gt h)

theorem requestedItem?_domainName (h : domain ≠ "") :
    requestedItem? (domainConfig domain) Code.domainName =
      some (.ofText Code.domainName domain) := by
  have hempty : (domainConfig domain).dhcp.domain.isEmpty = false :=
    Bool.eq_false_iff.mpr (mt String.isEmpty_iff.mp h)
  rw [requestedItem?, if_neg (by decide), if_neg (by decide), if_neg (by decide), if_pos rfl, hempty]
  rfl

theorem items_offer (domain : String) (codes : List UInt8) :
    (offer domain codes).items =
      Item.messageType MessageType.offer.code ::
        (codes.filterMap (requestedItem? (domainConfig domain)) ++
          leaseItems (domainConfig domain) ++ [(inquiry codes).clientIdentifier]) := by
  have hboot : bootItems (domainConfig domain) .empty = [] := by
    have hempty : (domainConfig domain).bootFile.isEmpty = true := (by decide : "".isEmpty = true)
    rw [bootItems, hempty, if_pos rfl]
  have hrequested : requestedItems (domainConfig domain) (inquiry codes) =
      codes.filterMap (requestedItem? (domainConfig domain)) := rfl
  rw [offer, items_grant, hboot, hrequested, List.append_nil]

theorem reply_inquiry (domain : String) (codes : List UInt8) :
    (handle (domainConfig domain) .empty (Visit.looking offered).probe .empty
      (inquiry codes)).reply = some (offer domain codes) := by
  have hpool : Pool.ofConfig (domainConfig domain) = Pool.ofConfig (domainConfig "") := rfl
  have hcontains : (Pool.ofConfig (domainConfig domain)).contains offered = true := by
    rw [hpool]
    decide
  have hserver : offered ≠ (domainConfig domain).address :=
    (by decide : offered ≠ .ofOctets 10 0 0 1)
  have hverdict : (verdict (domainConfig domain) .empty (Visit.looking offered).probe
      (inquiry codes)).verdict = .offer offered :=
    verdict_of_silent hcontains hserver rfl (Packet.isBroadcast_ofNewcomer _) rfl rfl
  rw [handle, settle, hverdict]
  rfl

theorem parse_inquiry (h : codes.length ≤ Item.payloadMax) :
    Packet.parse (inquiry codes).encode = .ok (inquiry codes) := by
  have hkind : (Item.messageType MessageType.discover.code).IsTagged :=
    ⟨(by decide : Code.messageType ≠ _), (by decide : Code.messageType ≠ _)⟩
  have hrequests : Item.IsTagged ⟨Code.parameterRequests, codes⟩ :=
    ⟨(by decide : Code.parameterRequests ≠ _), (by decide : Code.parameterRequests ≠ _)⟩
  have hitems : ∀ item ∈ (inquiry codes).items,
      item.IsTagged ∧ item.payload.length ≤ Item.payloadMax := by
    simp only [inquiry, Packet.ofNewcomer, List.forall_mem_cons]
    exact ⟨⟨hkind, by decide⟩, ⟨hrequests, h⟩, List.forall_mem_nil _⟩
  rw [Packet.parse_encode fun item hitem => (hitems item hitem).1]
  rw [Packet.cut_eq_self fun item hitem => (hitems item hitem).2]

theorem reply_exchange (h : codes.length ≤ Item.payloadMax) (domain : String) :
    (exchange domain codes).reply =
      some (replyDatagram (domainConfig domain) (offer domain codes)) := by
  rw [exchange, serve, parse_inquiry h]
  exact congrArg (Option.map _) (reply_inquiry domain codes)

end Small

end BootServer.Dhcp
