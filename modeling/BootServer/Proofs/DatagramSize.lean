import BootServer.Proofs.Dhcp.Answers
import BootServer.Proofs.Tftp.Replies

/-!
# How long replies are

A datagram carries 65507 octets. An answer of the address service is longer only where a client asks
for a long domain over and over, and a reply of the file service only where it repeats a long name
that names nothing, or a long text of the operating system.
-/

namespace BootServer

/-! ## Answers of the address service -/

namespace Dhcp

variable {config : Config} {disk : Disk} {probe : Probe} {leases : Leases}
  {request answer : Packet} {item : Item} {items : List Item} {code : UInt8} {codes : List UInt8}

namespace Item

theorem length_encode (item : Item) :
    item.encode.length =
      2 + min payloadMax item.payload.length + min payloadMax item.payload.length % 2 := by
  rw [encode, List.length_append, List.length_cons, List.length_cons, cut, List.length_take]
  split
  · rw [List.length_singleton]
    omega
  · rw [List.length_nil]
    omega

theorem length_encode_le (item : Item) : item.encode.length ≤ 258 := by
  rw [length_encode, payloadMax]
  omega

theorem length_encode_ofAddress (code : UInt8) (ip : IPv4) :
    (ofAddress code ip).encode.length = 6 := by
  rw [length_encode, ofAddress, IPv4.length_octets]
  rfl

theorem length_encode_ofUInt32 (code : UInt8) (word : UInt32) :
    (ofUInt32 code word).encode.length = 6 := by
  rw [length_encode, ofUInt32, Bytes.length_ofUInt32]
  rfl

theorem length_encode_ofUInt16 (code : UInt8) (word : UInt16) :
    (ofUInt16 code word).encode.length = 4 := by
  rw [length_encode, ofUInt16, Bytes.length_ofUInt16]
  rfl

theorem length_encode_messageType (code : UInt8) : (messageType code).encode.length = 4 :=
  length_encode _

/-- The octets that items take. -/
def sizes (items : List Item) : Nat := (items.flatMap encode).length

@[simp] theorem sizes_nil : sizes [] = 0 := rfl

@[simp] theorem sizes_cons (item : Item) (items : List Item) :
    sizes (item :: items) = item.encode.length + sizes items := by
  rw [sizes, List.flatMap_cons, List.length_append, sizes]

@[simp] theorem sizes_append (front back : List Item) :
    sizes (front ++ back) = sizes front + sizes back := by
  rw [sizes, List.flatMap_append, List.length_append, sizes, sizes]

theorem sizes_replicate (count : Nat) (item : Item) :
    sizes (List.replicate count item) = count * item.encode.length := by
  rw [sizes, List.length_flatMap, List.map_replicate, List.sum_replicate_nat]

end Item

theorem Packet.length_encode (packet : Packet) :
    packet.encode.length = max 300 (241 + Item.sizes packet.items) := by
  rw [encode, List.length_append, List.length_replicate, List.length_append, List.length_append,
    length_header, Item.encodeAll, List.length_append, ← Item.sizes, List.length_singleton]
  simp only [headerLength, magic, sentLengthMin, List.length_cons, List.length_nil]
  omega

/-- By how much the item with the domain is longer than one with an address. -/
def domainExcess (config : Config) : Nat :=
  min 255 config.dhcp.domain.utf8ByteSize + min 255 config.dhcp.domain.utf8ByteSize % 2 - 4

theorem length_requestedItem?_le (h : requestedItem? config code = some item) :
    item.encode.length ≤ 6 + if code = Code.domainName then domainExcess config else 0 := by
  rcases requestedItem?_cases h with ⟨-, ip, rfl⟩ | ⟨rfl, rfl⟩
  · rw [Item.length_encode_ofAddress]
    exact Nat.le_add_right 6 _
  · rw [if_pos rfl, domainExcess, Item.length_encode, Item.ofText, Text.Utf8.length_encode,
      Item.payloadMax]
    omega

/-- Whatever is asked for again is listed again. -/
theorem sizes_filterMap_le (config : Config) (codes : List UInt8) :
    Item.sizes (codes.filterMap (requestedItem? config)) ≤
      6 * codes.length + codes.count Code.domainName * domainExcess config := by
  induction codes with
  | nil => exact Nat.zero_le _
  | cons code codes ih =>
      rw [List.length_cons, List.count_cons, Nat.add_mul, Nat.mul_succ]
      cases hanswer : requestedItem? config code with
      | none =>
          rw [List.filterMap_cons_none hanswer]
          omega
      | some item =>
          have hitem := length_requestedItem?_le hanswer
          rw [List.filterMap_cons_some hanswer, Item.sizes_cons]
          by_cases hcode : code = Code.domainName
          · simp only [hcode, if_pos, beq_self_eq_true, Nat.one_mul] at hitem ⊢
            omega
          · rw [if_neg hcode] at hitem
            omega

theorem sizes_bootItems_le (config : Config) (disk : Disk) :
    Item.sizes (bootItems config disk) ≤ 280 := by
  have hname := (Item.ofTerminatedText Code.bootFile config.bootFile).length_encode_le
  have hsize : Item.sizes ((bootSize? config disk).map fun size =>
      Item.ofUInt16 Code.bootFileSize (bootBlocks size)).toList ≤ 4 := by
    cases bootSize? config disk with
    | none => exact Nat.zero_le _
    | some size => simp [Item.length_encode_ofUInt16]
  have hserver : Item.sizes ((bootServer? config).map fun ip =>
      Item.ofText Code.bootServer ip.toText).toList ≤ 18 := by
    cases bootServer? config with
    | none => exact Nat.zero_le _
    | some ip =>
        have htext := ip.utf8ByteSize_toText_le
        have hlength := (Item.ofText Code.bootServer ip.toText).length_encode
        rw [Item.ofText, Text.Utf8.length_encode] at hlength
        simp only [Option.map_some, Option.toList_some, Item.sizes_cons, Item.sizes_nil, Item.ofText]
        omega
  unfold bootItems
  split
  · exact Nat.zero_le _
  · rw [Item.sizes_cons, Item.sizes_append]
    omega

theorem sizes_leaseItems (config : Config) : Item.sizes (leaseItems config) = 24 := by
  simp only [leaseItems, Item.serverIdentifier, Item.rebindingTime, Item.renewalTime, Item.leaseTime,
    Item.sizes_cons, Item.sizes_nil, Item.length_encode_ofAddress, Item.length_encode_ofUInt32]

theorem length_parameterRequests_le
    (h : ∀ item ∈ request.items, item.payload.length ≤ Item.payloadMax) :
    request.parameterRequests.length ≤ 255 := by
  unfold Packet.parameterRequests
  cases hrequests : request.item? Code.parameterRequests with
  | none => exact Nat.zero_le _
  | some item => exact h item (List.mem_of_find?_eq_some hrequests)

theorem length_answer_le (hanswer : (handle config disk probe leases request).reply = some answer)
    (hrequest : ∀ item ∈ request.items, item.payload.length ≤ Item.payloadMax) :
    answer.encode.length ≤
      2337 + request.parameterRequests.count Code.domainName * domainExcess config := by
  have hclient := request.clientIdentifier.length_encode_le
  have hserver := Item.length_encode_ofAddress Code.serverIdentifier config.address
  rw [Packet.length_encode]
  rcases answer_cases hanswer with ⟨kind, -, ip, clientAddress, rfl⟩ | rfl
  · have hrequested := sizes_filterMap_le config request.parameterRequests
    have hrequests := length_parameterRequests_le hrequest
    have hboot := sizes_bootItems_le config disk
    rw [items_grant, requestedItems]
    simp only [Item.sizes_cons, Item.sizes_append, Item.sizes_nil, Item.length_encode_messageType,
      sizes_leaseItems]
    omega
  · simp only [refusal, Packet.reply, Item.sizes_cons, Item.sizes_nil, Item.serverIdentifier,
      Item.length_encode_messageType, hserver]
    omega

theorem fits_of_short_or_rare {asked : Nat} (hasked : asked ≤ 255)
    (h : asked ≤ 250 ∨ min 255 config.dhcp.domain.utf8ByteSize ≤ 250) :
    2337 + asked * domainExcess config ≤ 65507 := by
  rcases h with hrare | hshort
  · have hexcess : domainExcess config ≤ 252 := by
      rw [domainExcess]
      omega
    have hmul := Nat.mul_le_mul hrare hexcess
    omega
  · have hexcess : domainExcess config ≤ 246 := by
      rw [domainExcess]
      omega
    have hmul := Nat.mul_le_mul hasked hexcess
    omega

end Dhcp

/-! ## Replies of the file service -/

namespace Tftp

variable {config : Config} {disk : Disk} {past : List Arrival} {sessions : Sessions} {now : Nat}
  {client : IPv4} {port : UInt16} {fileName : String} {packet reply : Packet} {transfer : Transfer}
  {failure : Failure}

namespace Packet

theorem length_encodeText (text : String) :
    (encodeText text).length = text.utf8ByteSize + 1 := by
  rw [encodeText, List.length_append, Text.Utf8.length_encode, List.length_singleton]

theorem encodeOptions_append (front back : Options) :
    encodeOptions (front ++ back) = encodeOptions front ++ encodeOptions back :=
  List.flatMap_append

theorem length_encode_data (block : UInt16) (payload : Bytes) :
    (data block payload).encode.length = 4 + payload.length := by
  simp only [encode, encodeBody, List.length_append, Bytes.length_ofUInt16]
  omega

theorem length_encode_optionAck (options : Options) :
    (optionAck options).encode.length = 2 + (encodeOptions options).length := by
  rw [encode, encodeBody, List.length_append, Bytes.length_ofUInt16]

end Packet

theorem Failure.length_encode_packet (failure : Failure) :
    failure.packet.encode.length = 5 + failure.message.utf8ByteSize := by
  simp only [packet, Packet.encode, Packet.encodeBody, List.length_append, Bytes.length_ofUInt16,
    Packet.length_encodeText]
  omega

theorem length_encodeOptions_granted_le (options : Options) (size : UInt64) :
    (Packet.encodeOptions (granted options size)).length ≤ 41 := by
  have hoption : ∀ (name value : String), (Packet.encodeOptions [(name, value)]).length =
      name.utf8ByteSize + value.utf8ByteSize + 2 := by
    intro name value
    simp only [Packet.encodeOptions, List.flatMap_cons, List.flatMap_nil, List.append_nil,
      List.length_append, Packet.length_encodeText]
    omega
  have hblock : (Packet.encodeOptions ((requestedBlockSize? options).map fun blockSize =>
      (blockSizeOption, toString blockSize.toNat)).toList).length ≤ 14 := by
    cases requestedBlockSize? options with
    | none => exact Nat.zero_le _
    | some blockSize =>
        have hdigits : (toString blockSize.toNat).utf8ByteSize ≤ 5 :=
          Text.utf8ByteSize_toString_le (by decide) (Nat.lt_trans blockSize.toNat_lt (by decide))
        have hname : blockSizeOption.utf8ByteSize = 7 := by decide
        rw [Option.map_some, Option.toList_some, hoption, hname]
        omega
  have hsize : (Packet.encodeOptions ((options.lookup sizeOption).map fun _ =>
      (sizeOption, toString size.toNat)).toList).length ≤ 27 := by
    cases options.lookup sizeOption with
    | none => exact Nat.zero_le _
    | some asked =>
        have hdigits : (toString size.toNat).utf8ByteSize ≤ 20 :=
          Text.utf8ByteSize_toString_le (by decide) (Nat.lt_trans size.toNat_lt (by decide))
        have hname : sizeOption.utf8ByteSize = 5 := by decide
        rw [Option.map_some, Option.toList_some, hoption, hname]
        omega
  rw [granted, Packet.encodeOptions_append, List.length_append]
  omega

/-! ### Errors -/

theorem size_joined_le {names : List String} (hne : names ≠ []) (hnames : Plain names)
    (root : String) : (joined names).utf8ByteSize ≤ (located root names).utf8ByteSize := by
  obtain ⟨front, hfront⟩ := Path.exists_descend_eq hne hnames.isName root
  rw [located, hfront, String.utf8ByteSize_append]
  exact Nat.le_add_left _ _

theorem Failure.size_fileNotFound (name : String) :
    (fileNotFound name).message.utf8ByteSize = 16 + name.utf8ByteSize := by
  have hmessage : (fileNotFound name).message = "file not found: " ++ name := rfl
  have hprefix : "file not found: ".utf8ByteSize = 16 := by decide
  rw [hmessage, String.utf8ByteSize_append, hprefix]

/-- The name comes back whole, however long. -/
theorem reply_of_noName (h : canonical fileName = []) (disk : Disk) (sessions : Sessions)
    (now : Nat) (client : IPv4) (port : UInt16) (mode : String) (options : Options) :
    (handle config disk sessions now client port (.readRequest fileName mode options)).reply =
      some (Failure.fileNotFound fileName).packet := by
  have hopen : openRequested config disk fileName = .error (.fileNotFound fileName) := by
    simp [openRequested, resolve, h]
  rw [handle, finish_reply]
  simp only [perform, onRead, hopen, Work.reply]

theorem Failure.length_encode_fileNotFound (name : String) :
    (fileNotFound name).packet.encode.length = 21 + name.utf8ByteSize := by
  rw [length_encode_packet, size_fileNotFound]
  omega

/-- Only a request that names nothing is told more, and one that the operating system refuses. -/
theorem Fails.size_message_le (h : Fails config disk packet failure) :
    failure.message.utf8ByteSize ≤ 5000 ∨
      (∃ fileName mode options, packet = .readRequest fileName mode options ∧
        canonical fileName = []) ∨
      ∃ cause, disk.Refuses cause ∧ failure = .system cause := by
  cases h with
  | writes => exact .inl (by decide)
  | unknown => exact .inl (by decide)
  | offset => exact .inl (by decide)
  | unread hrefuses => exact .inr (.inr ⟨_, hrefuses, rfl⟩)
  | @opens fileName mode options failure h =>
      cases h with
      | noName hempty => exact .inr (.inl ⟨fileName, mode, options, rfl, hempty⟩)
      | tooManyHops =>
          refine .inl ?_
          rw [Failure.message]
          decide
      | missing hresolve hsize =>
          obtain ⟨hne, hplain⟩ := plain_of_resolve hresolve
          have hjoined := size_joined_le hne hplain config.tftp.root
          rw [Disk.pathMax] at hsize
          refine .inl ?_
          rw [Failure.size_fileNotFound]
          omega
      | fault hcause =>
          have htexts : ∀ cause ∈ Disk.lookupFaults, cause.text.utf8ByteSize ≤ 5000 := by decide
          exact .inl (htexts _ hcause)
      | refused hrefuses => exact .inr (.inr ⟨_, hrefuses, rfl⟩)

/-! ### Blocks -/

theorem blockSize_settled_le {opened : Transfer} {options : Options}
    (h : openRequested config disk fileName = .ok opened) :
    (settled opened options).blockSize.toNat ≤ 65464 := by
  obtain ⟨names, place, file, -, -, rfl⟩ := openRequested_eq_ok h
  unfold settled
  split
  · exact (by decide : defaultBlockSize.toNat ≤ 65464)
  · exact (clampBlockSize_bounds _).2

theorem Reachable.blockSize_le (h : Reachable config past sessions) :
    ∀ client transfer, sessions.HasTransfer client transfer →
      transfer.blockSize.toNat ≤ 65464 := by
  induction h with
  | start timeout =>
      rintro client transfer ⟨session, hentry, -⟩
      exact absurd hentry List.not_mem_nil
  | packet arrival _ ih =>
      intro client transfer hkept
      rcases arrival.outcome_files config _ with hrests | ⟨origin, hsource, hserves⟩
      · exact ih client transfer (hrests.kept client transfer hkept)
      rcases hserves.kept client transfer hkept with hold | ⟨rfl, hsame⟩
      · exact ih client transfer hold
      · rw [hsame.blockSize_eq]
        rcases hsource with ⟨fileName, mode, options, opened, -, hopen, rfl, -⟩ | hfound
        · exact blockSize_settled_le hopen
        · exact ih _ origin hfound
  | prune now _ ih =>
      intro client transfer hkept
      rw [pruneIdle_sessions] at hkept
      exact ih client transfer (Sessions.hasTransfer_of_prune hkept)

theorem Sends.length_le (hreachable : Reachable config past sessions)
    (h : Sends config disk sessions client packet reply) :
    reply.encode.length ≤ 65507 ∨
      (∃ fileName mode options, packet = .readRequest fileName mode options ∧
        canonical fileName = []) ∨
      ∃ cause, disk.Refuses cause ∧ 65502 < cause.text.utf8ByteSize ∧
        reply.encode.length = 5 + cause.text.utf8ByteSize := by
  cases h with
  | @data transfer hconcerns block payload hlength =>
      have hblock : transfer.blockSize.toNat ≤ 65464 := by
        rcases hconcerns with ⟨fileName, mode, options, opened, -, hopen, rfl⟩ | hfound
        · exact blockSize_settled_le hopen
        · exact hreachable.blockSize_le client transfer hfound
      refine .inl ?_
      rw [Packet.length_encode_data]
      omega
  | granted options size =>
      have hgranted := length_encodeOptions_granted_le options size
      refine .inl ?_
      rw [Packet.length_encode_optionAck]
      omega
  | @error failure hfails =>
      rw [Failure.length_encode_packet]
      rcases hfails.size_message_le with hsize | hname | ⟨cause, hrefuses, rfl⟩
      · exact .inl (by omega)
      · exact .inr (.inl hname)
      · have htext : (Failure.system cause).message = cause.text := rfl
        rw [htext]
        by_cases hsize : cause.text.utf8ByteSize ≤ 65502
        · exact .inl (by omega)
        · exact .inr (.inr ⟨cause, hrefuses, Nat.not_le.mp hsize, rfl⟩)

end Tftp

/-! ## Both services -/

/-- An answer fits a datagram where the domain is short or is not asked for too often. In sessions
that packets lead to, every reply fits but the refusal of a request whose name names nothing, which
repeats that name, and an error that repeats too long a text of the operating system. -/
theorem reply_size_bounds (config : Config) :
    (∀ disk probe leases source data datagram,
      (Dhcp.serve config disk probe leases source data).reply = some datagram →
      ∃ request, Dhcp.Packet.parse data = .ok request ∧
        let asked := request.parameterRequests.count Dhcp.Code.domainName
        let domain := min 255 config.dhcp.domain.utf8ByteSize
        datagram.data.length ≤ 2337 + asked * (domain + domain % 2 - 4) ∧
          (asked ≤ 250 ∨ domain ≤ 250 → datagram.data.length ≤ 65507)) ∧
      ∀ past sessions, Tftp.Reachable config past sessions →
        ∀ disk now source data datagram,
          (Tftp.serve config disk sessions now source data).reply = some datagram →
          ∃ request, Tftp.Packet.parse data = .ok request ∧
            (datagram.data.length ≤ 65507 ∨
              (∃ fileName mode options, request = .readRequest fileName mode options ∧
                Tftp.canonical fileName = []) ∨
              ∃ fault, disk.Refuses fault ∧ 65502 < fault.text.utf8ByteSize ∧
                datagram.data.length = 5 + fault.text.utf8ByteSize) ∧
            ∀ fileName mode options, request = .readRequest fileName mode options →
              Tftp.canonical fileName = [] →
              datagram.data.length = 21 + fileName.utf8ByteSize := by
  constructor
  · intro disk probe leases source data datagram hreply
    unfold Dhcp.serve at hreply
    cases hparse : Dhcp.Packet.parse data with
    | error error => simp [hparse] at hreply
    | ok request =>
        simp only [hparse] at hreply
        obtain ⟨answer, hanswer, rfl⟩ := Option.map_eq_some_iff.mp hreply
        have hrequest : ∀ item ∈ request.items, item.payload.length ≤ Dhcp.Item.payloadMax :=
          fun item hitem => (Dhcp.Packet.of_parse hparse item hitem).2
        have hbound := Dhcp.length_answer_le hanswer hrequest
        refine ⟨request, rfl, hbound, ?_⟩
        intro hfits
        have hasked : request.parameterRequests.count Dhcp.Code.domainName ≤ 255 :=
          Nat.le_trans List.count_le_length (Dhcp.length_parameterRequests_le hrequest)
        exact Nat.le_trans hbound (Dhcp.fits_of_short_or_rare hasked hfits)
  · intro past sessions hreachable disk now source data datagram hreply
    unfold Tftp.serve at hreply
    cases source with
    | v6 => cases hreply
    | v4 client port =>
        cases hparse : Tftp.Packet.parse data with
        | error cause => simp [hparse] at hreply
        | ok request =>
            simp only [hparse] at hreply
            obtain ⟨reply, hmade, rfl⟩ := Option.map_eq_some_iff.mp hreply
            refine ⟨request, rfl, (Tftp.sends_handle hmade).length_le hreachable, ?_⟩
            rintro fileName mode options rfl hempty
            obtain rfl := Option.some.inj (hmade.symm.trans (Tftp.reply_of_noName hempty ..))
            exact Tftp.Failure.length_encode_fileNotFound fileName

/-! ## Small replies, and too long ones -/

namespace Dhcp.Small

theorem utf8ByteSize_letters (count : Nat) : (letters count).utf8ByteSize = count := by
  rw [← Text.Utf8.length_encode, encode_letters, List.length_replicate]

theorem length_offer {size : Nat} (h : 0 < size) (count : Nat) :
    (offer (letters size) (List.replicate count Code.domainName)).encode.length =
      max 300 (277 + count * (2 + min 255 size + min 255 size % 2)) := by
  have hdomain : requestedItem? (domainConfig (letters size)) Code.domainName =
      some (.ofText Code.domainName (letters size)) :=
    requestedItem?_domainName (letters_ne_empty h)
  have hitem : (Item.ofText Code.domainName (letters size)).encode.length =
      2 + min 255 size + min 255 size % 2 := by
    rw [Item.length_encode, Item.ofText, encode_letters, List.length_replicate, Item.payloadMax]
  have hclient : (inquiry (List.replicate count Code.domainName)).clientIdentifier =
      ⟨Code.clientIdentifier, [2, 0, 0, 0, 0, 1]⟩ := rfl
  have hown : (Item.mk Code.clientIdentifier [2, 0, 0, 0, 0, 1]).encode.length = 8 := by decide
  rw [Packet.length_encode, items_offer, List.filterMap_replicate_of_some hdomain]
  simp only [Item.sizes_cons, Item.sizes_append, Item.sizes_nil, Item.sizes_replicate,
    Item.length_encode_messageType, sizes_leaseItems, hitem, hclient, hown]
  omega

theorem length_inquiry_le (codes : List UInt8) : (inquiry codes).encode.length ≤ 503 := by
  have hkind := Item.length_encode_messageType MessageType.discover.code
  have hrequests := (Item.mk Code.parameterRequests codes).length_encode_le
  rw [Packet.length_encode]
  simp only [inquiry, Packet.ofNewcomer, Item.sizes_cons, Item.sizes_nil]
  omega

/-- The domain is asked for as often as one item can. -/
def pressing : List UInt8 := List.replicate 255 Code.domainName

theorem reply_pressing (domain : String) : (exchange domain pressing).reply =
    some (replyDatagram (domainConfig domain) (offer domain pressing)) :=
  reply_exchange (Nat.le_of_eq List.length_replicate) domain

end Dhcp.Small

namespace Tftp.Small

def slashes (count : Nat) : String := String.ofList (List.replicate count '/')

theorem canonical_slashes (count : Nat) : canonical (slashes count) = [] := by
  rw [canonical, slashes, String.toList_ofList]
  induction count with
  | zero => rfl
  | succ count ih => exact ih

theorem utf8ByteSize_slashes (count : Nat) : (slashes count).utf8ByteSize = count := by
  rw [slashes, Text.utf8ByteSize_ofList, List.length_replicate]
  intro c hc
  rw [List.eq_of_mem_replicate hc]
  decide

/-- A read request for nothing but slashes. -/
def slashesRequest (count : Nat) : Packet := .readRequest (slashes count) "o" []

theorem parse_slashesRequest {count : Nat} (h : 0 < count) :
    Packet.parse (slashesRequest count).encode = .ok (slashesRequest count) := by
  apply Packet.parse_encode
  constructor
  · unfold Terminable
    rw [slashes, String.toList_ofList]
    exact fun hzero => absurd (List.eq_of_mem_replicate hzero) (by decide)
  · intro hempty
    have hsize := utf8ByteSize_slashes count
    rw [hempty, String.utf8ByteSize_empty] at hsize
    omega
  · exact ⟨by decide, by decide, by decide +kernel⟩
  · exact ⟨nofun, nofun⟩

theorem length_slashesRequest (count : Nat) : (slashesRequest count).encode.length = count + 5 := by
  have hmode : "o".utf8ByteSize = 1 := by decide
  simp only [slashesRequest, Packet.encode, Packet.encodeBody, List.length_append,
    Bytes.length_ofUInt16, Packet.length_encodeText, utf8ByteSize_slashes, hmode,
    Packet.encodeOptions, List.flatMap_nil, List.length_nil]
  omega

def slashesExchange (count : Nat) : Exchange :=
  serve config disk (initialSessions config) 0 (.v4 client 2000) (slashesRequest count).encode

theorem reply_slashesExchange {count : Nat} (h : 0 < count) :
    (slashesExchange count).reply =
      some ⟨.v4 client 2000, (Failure.fileNotFound (slashes count)).packet.encode⟩ := by
  have hreply : (handle config disk (initialSessions config) 0 client 2000
      (slashesRequest count)).reply = some (Failure.fileNotFound (slashes count)).packet :=
    reply_of_noName (canonical_slashes count) disk (initialSessions config) 0 client 2000 "o" []
  simp only [slashesExchange, serve, parse_slashesRequest h, hreply, Option.map_some]

end Tftp.Small

/-- At 250 letters every answer fits, however often they are asked for. -/
theorem small_reply_size_bounds :
    (∃ datagram, (Dhcp.Small.exchange (Dhcp.Small.letters 250) Dhcp.Small.pressing).reply =
        some datagram ∧ datagram.data.length ≤ 65507) ∧
      ∃ datagram, (Tftp.Small.slashesExchange 65486).reply = some datagram ∧
        datagram.data.length = 65507 := by
  constructor
  · let config := Dhcp.Small.domainConfig (Dhcp.Small.letters 250)
    have hdomain : config.dhcp.domain.utf8ByteSize = 250 := Dhcp.Small.utf8ByteSize_letters 250
    have hreply := Dhcp.Small.reply_pressing (Dhcp.Small.letters 250)
    obtain ⟨request, -, -, hfits⟩ := (reply_size_bounds config).1 _ _ _ _ _ _ hreply
    refine ⟨_, hreply, hfits (.inr ?_)⟩
    rw [hdomain]
    decide
  · have hslashes : 0 < 65486 := by decide
    have hreply := Tftp.Small.reply_slashesExchange hslashes
    obtain ⟨request, hparse, -, hlength⟩ :=
      (reply_size_bounds Tftp.Small.config).2 [] _ (.start _) _ _ _ _ _ hreply
    obtain rfl := Except.ok.inj ((Tftp.Small.parse_slashesRequest hslashes).symm.trans hparse)
    have hsize := hlength _ _ _ rfl (Tftp.Small.canonical_slashes 65486)
    rw [Tftp.Small.utf8ByteSize_slashes] at hsize
    exact ⟨_, hreply, hsize⟩

/-- Requests that fit a datagram, with replies that do not: 255 times a domain of 255 letters, and
the longest name there is room for. -/
theorem replies_exceed_datagram :
    (∃ datagram, (Dhcp.Small.inquiry Dhcp.Small.pressing).encode.length ≤ 65507 ∧
      (Dhcp.Small.exchange (Dhcp.Small.letters 255) Dhcp.Small.pressing).reply = some datagram ∧
      datagram.data.length = 66067) ∧
      ∃ datagram, (Tftp.Small.slashesRequest 65502).encode.length = 65507 ∧
        (Tftp.Small.slashesExchange 65502).reply = some datagram ∧
        datagram.data.length = 65523 := by
  constructor
  · have hrequest := Dhcp.Small.length_inquiry_le Dhcp.Small.pressing
    have hlength : (Dhcp.Small.offer (Dhcp.Small.letters 255) Dhcp.Small.pressing).encode.length =
        66067 := by
      rw [Dhcp.Small.pressing, Dhcp.Small.length_offer (by decide)]
      decide
    exact ⟨_, Nat.le_trans hrequest (by decide), Dhcp.Small.reply_pressing _, hlength⟩
  · have hslashes : 0 < 65502 := by decide
    have hlength := Tftp.Failure.length_encode_fileNotFound (Tftp.Small.slashes 65502)
    rw [Tftp.Small.utf8ByteSize_slashes] at hlength
    exact ⟨_, Tftp.Small.length_slashesRequest 65502, Tftp.Small.reply_slashesExchange hslashes,
      hlength⟩

end BootServer
