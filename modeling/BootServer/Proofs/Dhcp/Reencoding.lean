import BootServer.Dhcp.Packet

/-!
# Packets written and read again

A packet whose items can be told from fillers and the end mark is read back from its datagram, with
every payload cut to what its length octet can say. What is read from any datagram is such a packet
and loses nothing, so its datagram is a normal form of the one that it was read from.
-/

namespace BootServer.Dhcp

namespace Item

/-- An item whose code is neither that of a filler nor that of the end. -/
structure IsTagged (item : Item) : Prop where
  ne_fill : item.code ≠ Code.fill
  ne_finish : item.code ≠ Code.finish

variable {item : Item} {items : List Item} {data rest : Bytes} {offset : Nat}

theorem length_cut_le (item : Item) : item.cut.payload.length ≤ payloadMax :=
  List.length_take_le payloadMax item.payload

theorem cut_eq_self (h : item.payload.length ≤ payloadMax) : item.cut = item := by
  rw [cut, List.take_of_length_le h]

theorem cut_cut (item : Item) : item.cut.cut = item.cut := cut_eq_self (length_cut_le item)

theorem encode_cut (item : Item) : item.cut.encode = item.encode := by
  rw [encode, encode, cut_cut]
  rfl

theorem encodeAll_map_cut (items : List Item) :
    encodeAll (items.map cut) = encodeAll items := by
  rw [encodeAll, encodeAll, List.flatMap_map]
  simp only [encode_cut]

/-! ### Reading -/

theorem parseFrom_finish (offset : Nat) (rest : Bytes) :
    parseFrom offset (Code.finish :: rest) = .ok [] := by
  unfold parseFrom
  rw [if_pos rfl]

theorem parseFrom_fill (offset : Nat) (rest : Bytes) :
    parseFrom offset (Code.fill :: rest) = parseFrom (offset + 1) rest := by
  rw [parseFrom.eq_def]
  dsimp only
  rw [if_neg (by decide), if_pos rfl]

theorem parseFrom_tagged {code length : UInt8} {payload : Bytes} (hfill : code ≠ Code.fill)
    (hfinish : code ≠ Code.finish) (hlength : payload.length = length.toNat) (offset : Nat)
    (rest : Bytes) :
    parseFrom offset (code :: length :: (payload ++ rest)) =
      (parseFrom (offset + 2 + length.toNat) rest).map (⟨code, payload⟩ :: ·) := by
  rw [parseFrom, if_neg hfinish, if_neg hfill]
  simp only [← hlength, List.take_left, List.drop_left, Nat.lt_irrefl, if_false]
  cases parseFrom (offset + 2 + payload.length) rest <;> rfl

theorem parseFrom_item (htag : IsTagged item) (hlength : item.payload.length ≤ payloadMax)
    (h : parseFrom (offset + 2 + item.payload.length) rest = .ok items) :
    parseFrom offset (item.code :: UInt8.ofNat item.payload.length :: (item.payload ++ rest)) =
      .ok (item :: items) := by
  have hoctet : (UInt8.ofNat item.payload.length).toNat = item.payload.length :=
    UInt8.toNat_ofNat_of_lt (Nat.lt_succ_of_le hlength)
  rw [parseFrom_tagged htag.ne_fill htag.ne_finish hoctet.symm, hoctet, h, Except.map]

/-- An item is read back from its octets, and the filler behind it is passed over. -/
theorem parseFrom_encode (htag : IsTagged item)
    (h : ∀ offset, parseFrom offset rest = .ok items) (offset : Nat) :
    parseFrom offset (item.encode ++ rest) = .ok (item.cut :: items) := by
  have hcut : IsTagged item.cut := ⟨htag.ne_fill, htag.ne_finish⟩
  have hfilled : ∀ offset, parseFrom offset
      ((if item.cut.payload.length % 2 = 1 then [Code.fill] else []) ++ rest) = .ok items := by
    intro offset
    split
    · rw [List.singleton_append, parseFrom_fill]
      exact h (offset + 1)
    · exact h offset
  rw [encode, List.cons_append, List.cons_append, List.append_assoc]
  exact parseFrom_item hcut (length_cut_le item) (hfilled _)

theorem parseFrom_encodeAll (htags : ∀ item ∈ items, IsTagged item) (rest : Bytes)
    (offset : Nat) : parseFrom offset (encodeAll items ++ rest) = .ok (items.map cut) := by
  rw [encodeAll, List.append_assoc, List.singleton_append]
  induction items generalizing offset with
  | nil => exact parseFrom_finish offset rest
  | cons item items ih =>
      have hitems := ih fun next hnext => htags next (List.mem_cons_of_mem item hnext)
      rw [List.flatMap_cons, List.append_assoc, List.map_cons]
      exact parseFrom_encode (htags item List.mem_cons_self) hitems offset

/-- What is read can be told from fillers and the end, and fits its length octet. -/
theorem of_mem_parseFrom (h : parseFrom offset data = .ok items) :
    ∀ item ∈ items, IsTagged item ∧ item.payload.length ≤ payloadMax := by
  fun_induction parseFrom offset data generalizing items with
  | case1 | case2 =>
      -- the end of the data, or the end mark
      obtain rfl := Except.ok.inj h
      exact List.forall_mem_nil _
  | case3 offset rest _ ih => exact ih h
  | case4 | case5 | case6 => exact nomatch h
  | case7 offset code hfinish hfill length rest _ _ later hlater =>
      rename_i ih
      obtain rfl := Except.ok.inj h
      have hlength : (rest.take length.toNat).length ≤ payloadMax :=
        Nat.le_trans (List.length_take_le _ _) (Nat.le_of_lt_succ length.toNat_lt)
      exact List.forall_mem_cons.mpr ⟨⟨⟨hfill, hfinish⟩, hlength⟩, ih hlater⟩

end Item

namespace FixedField

theorem ofBytes_octets {width : Nat} (field : FixedField width) :
    ofBytes width field.octets = field := by
  obtain ⟨octets, rfl⟩ := field
  simp [ofBytes]

end FixedField

namespace Packet

variable {packet : Packet} {items : List Item} {data rest : Bytes}

/-- The packet as it arrives on the other side. -/
def cut (packet : Packet) : Packet := { packet with items := packet.items.map Item.cut }

theorem length_header (packet : Packet) : packet.header.length = headerLength := by
  simp [header, packet.hardware.length_eq, packet.serverName.length_eq,
    packet.bootFile.length_eq, headerLength]

/-- The octets before the three fields that hold octets of their own. -/
def frontOctets (packet : Packet) : Bytes :=
  [packet.op, packet.hardwareType, packet.hardwareLength, packet.hops] ++
    Bytes.ofUInt32 packet.transaction ++ Bytes.ofUInt16 packet.seconds ++
    Bytes.ofUInt16 packet.flags ++ packet.clientAddress.octets ++ packet.yourAddress.octets ++
    packet.serverAddress.octets ++ packet.relayAddress.octets

theorem header_eq (packet : Packet) :
    packet.header = packet.frontOctets ++ packet.hardware.octets ++ packet.serverName.octets ++
      packet.bootFile.octets :=
  rfl

theorem ofHeader_header (packet : Packet) (rest : Bytes) (items : List Item) :
    ofHeader (packet.header ++ rest) items = { packet with items := items } := by
  have hfront : (packet.frontOctets ++ packet.hardware.octets).length = 44 := by
    rw [List.length_append, packet.hardware.length_eq]
    rfl
  have hnames : (packet.frontOctets ++ packet.hardware.octets ++
      packet.serverName.octets).length = 108 := by
    rw [List.length_append, hfront, packet.serverName.length_eq]
  have hhardware : Bytes.slice (packet.header ++ rest) 28 16 = packet.hardware.octets := by
    rw [header_eq, List.append_assoc, List.append_assoc]
    exact Bytes.slice_append rfl packet.hardware.length_eq
  have hserver : Bytes.slice (packet.header ++ rest) 44 64 = packet.serverName.octets := by
    rw [header_eq, List.append_assoc]
    exact Bytes.slice_append hfront packet.serverName.length_eq
  have hfile : Bytes.slice (packet.header ++ rest) 108 128 = packet.bootFile.octets := by
    rw [header_eq]
    exact Bytes.slice_append hnames packet.bootFile.length_eq
  simp only [ofHeader, hhardware, hserver, hfile, FixedField.ofBytes_octets]
  -- the words before these fields are read at fixed places
  simp only [header, List.append_assoc, List.cons_append, List.nil_append, Bytes.ofUInt32,
    Bytes.ofUInt16, IPv4.octets, addressAt, Bytes.word32At, Bytes.word16At, Bytes.octetAt,
    List.getD_cons_succ, List.getD_cons_zero, Bytes.word32_ofUInt32, Bytes.word16_ofUInt16]

/-- Anything behind the end mark is passed over. -/
theorem parse_header (htags : ∀ item ∈ packet.items, item.IsTagged) (rest : Bytes) :
    parse (packet.header ++ magic ++ Item.encodeAll packet.items ++ rest) = .ok packet.cut := by
  have hlength : (packet.header ++ magic).length = lengthMin := by
    rw [List.length_append, length_header]
    rfl
  rw [List.append_assoc]
  have hread : Item.parseAll ((packet.header ++ magic ++ (Item.encodeAll packet.items ++
      rest)).drop lengthMin) = .ok (packet.items.map Item.cut) := by
    rw [← hlength, List.drop_left]
    exact Item.parseFrom_encodeAll htags rest 0
  have hmagic : Bytes.slice (packet.header ++ magic ++ (Item.encodeAll packet.items ++ rest))
      headerLength magic.length = magic :=
    Bytes.slice_append packet.length_header rfl
  have hshort : ¬ (packet.header ++ magic ++ (Item.encodeAll packet.items ++ rest)).length <
      lengthMin := by
    rw [List.length_append, hlength]
    exact Nat.not_lt.mpr (Nat.le_add_right _ _)
  rw [parse, if_neg hshort, if_neg (not_not_intro hmagic), hread]
  simp only [List.append_assoc, ofHeader_header]
  rfl

theorem parse_encode (htags : ∀ item ∈ packet.items, item.IsTagged) :
    parse packet.encode = .ok packet.cut :=
  parse_header htags _

theorem length_encode_ge (packet : Packet) : sentLengthMin ≤ packet.encode.length := by
  rw [encode, List.length_append, List.length_replicate]
  omega

theorem encode_cut (packet : Packet) : packet.cut.encode = packet.encode := by
  have hitems : Item.encodeAll packet.cut.items = Item.encodeAll packet.items :=
    Item.encodeAll_map_cut packet.items
  rw [encode, encode, hitems]
  rfl

theorem of_parse (h : parse data = .ok packet) :
    ∀ item ∈ packet.items, item.IsTagged ∧ item.payload.length ≤ Item.payloadMax := by
  unfold parse at h
  split at h
  next => cases h
  next =>
    split at h
    next => cases h
    next =>
      split at h
      next => cases h
      next items hitems =>
        obtain rfl := Except.ok.inj h
        exact Item.of_mem_parseFrom hitems

theorem cut_eq_self (h : ∀ item ∈ packet.items, item.payload.length ≤ Item.payloadMax) :
    packet.cut = packet := by
  have hitems : packet.items.map Item.cut = packet.items := by
    rw [List.map_congr_left fun item hitem => Item.cut_eq_self (h item hitem), List.map_id']
  rw [cut, hitems]

/-- What is read from a datagram is read again from its own one. A packet whose codes are neither
that of a filler nor that of the end is read back with its payloads cut, and what was read back has
the same datagram. -/
theorem reencoding_normal_form :
    (∀ data packet, parse data = .ok packet →
      (∀ item ∈ packet.items, item.code ≠ 0 ∧ item.code ≠ 255 ∧ item.payload.length ≤ 255) ∧
        parse packet.encode = .ok packet) ∧
    ∀ packet : Packet, (∀ item ∈ packet.items, item.code ≠ 0 ∧ item.code ≠ 255) →
      300 ≤ packet.encode.length ∧ parse packet.encode = .ok packet.cut ∧
        ∀ again, parse packet.encode = .ok again → again.encode = packet.encode := by
  constructor
  · intro data packet hparse
    have hitems := of_parse hparse
    refine ⟨?_, ?_⟩
    · intro item hitem
      obtain ⟨htag, hlength⟩ := hitems item hitem
      exact ⟨htag.ne_fill, htag.ne_finish, hlength⟩
    · rw [parse_encode fun item hitem => (hitems item hitem).1]
      rw [cut_eq_self fun item hitem => (hitems item hitem).2]
  · intro packet hcodes
    have htags : ∀ item ∈ packet.items, item.IsTagged := by
      intro item hitem
      obtain ⟨hfill, hfinish⟩ := hcodes item hitem
      exact ⟨hfill, hfinish⟩
    refine ⟨packet.length_encode_ge, parse_encode htags, ?_⟩
    intro again hagain
    rw [parse_encode htags] at hagain
    obtain rfl := Except.ok.inj hagain
    exact packet.encode_cut

namespace Small

/-- A packet with an item of 300 octets that look like end marks. -/
def longNamed : Packet where
  op := replyOp
  hardwareType := 1
  hardwareLength := 6
  hops := 0
  transaction := 7
  seconds := 0
  flags := broadcastFlag
  clientAddress := .unspecified
  yourAddress := .ofOctets 10 0 0 20
  serverAddress := .ofOctets 10 0 0 1
  relayAddress := .unspecified
  hardware := .ofBytes 16 [2, 0, 0, 0, 0, 1]
  serverName := .zero 64
  bootFile := .zero 128
  items := [.messageType MessageType.offer.code, ⟨Code.hostName, List.replicate 300 255⟩]

end Small

/-- The long item is cut once, and then no more. -/
theorem small_reencoding :
    (∀ item ∈ Small.longNamed.items, item.code ≠ 0 ∧ item.code ≠ 255) ∧
      Small.longNamed.cut.items =
        [.messageType MessageType.offer.code, ⟨Code.hostName, List.replicate 255 255⟩] ∧
      parse Small.longNamed.encode = .ok Small.longNamed.cut ∧
      parse Small.longNamed.cut.encode = .ok Small.longNamed.cut := by
  have hcodes : ∀ item ∈ Small.longNamed.items, item.code ≠ 0 ∧ item.code ≠ 255 := by decide
  obtain ⟨hread, hwritten⟩ := reencoding_normal_form
  obtain ⟨-, hparse, -⟩ := hwritten Small.longNamed hcodes
  exact ⟨hcodes, by decide +kernel, hparse, (hread _ _ hparse).2⟩

end Packet

end BootServer.Dhcp
