import BootServer.Proofs.Tftp.Delivery

/-!
# Reading over a lossy network

Between a server and a receiver lies a network that loses, delays, reorders and duplicates what is
in flight. Every packet to the receiver that has data is a block of the file under its own number,
however late it comes and whatever it answers. As long as no two blocks of the file share a number,
a receiver that waits for the next number takes the blocks in order, and what it has is a beginning
of the file.
-/

namespace BootServer.Tftp

/-- A client that puts a file together from its blocks. -/
structure Receiver where
  received : Bytes
  /-- How many blocks it has taken. -/
  accepted : Nat
  /-- It has taken a short block and takes no other. -/
  stopped : Bool

namespace Receiver

def fresh : Receiver := ⟨[], 0, false⟩

/-- Take a block that has the next number, and ignore everything else. -/
def take (receiver : Receiver) (size : Nat) : Packet → Receiver
  | .data number payload =>
    if receiver.stopped = false ∧ number = UInt16.ofNat (receiver.accepted + 1) then
      ⟨receiver.received ++ payload, receiver.accepted + 1, payload.length < size⟩
    else receiver
  | _ => receiver

end Receiver

/-- A server, a receiver, and the packets in flight between them. -/
structure Link where
  sessions : Sessions
  receiver : Receiver
  toServer : List Packet
  toReceiver : List Packet

/-- The moves of server, receiver and network while a client reads a file that holds `data`. -/
inductive Link.Step (config : Config) (client : IPv4) (origin : Transfer) (data : Bytes) :
    Link → Link → Prop
  /-- The receiver acknowledges a block that it has taken, or block 0. -/
  | acknowledge {link : Link} (block : Nat) (taken : block ≤ link.receiver.accepted) :
      Step config client origin data link
        { link with toServer := .ack (UInt16.ofNat block) :: link.toServer }
  /-- The receiver gets a packet. -/
  | receive {link : Link} (packet : Packet) {later : List Packet}
      (first : link.toReceiver = packet :: later) :
      Step config client origin data link
        { link with
          receiver := link.receiver.take origin.blockSize.toNat packet
          toReceiver := later }
  /-- The server gets a packet. -/
  | serve {link : Link} (arrival : Arrival) {later : List Packet}
      (first : link.toServer = arrival.packet :: later) (client_eq : arrival.client = client)
      (content_eq : arrival.disk.content origin.file = data) :
      Step config client origin data link
        { link with
          sessions := (arrival.outcome config link.sessions).sessions
          toServer := later
          toReceiver := (arrival.outcome config link.sessions).reply.toList ++ link.toReceiver }
  /-- The network loses, reorders and duplicates packets in flight. -/
  | disturb {link : Link} {toServer toReceiver : List Packet} (server : toServer ⊆ link.toServer)
      (receiver : toReceiver ⊆ link.toReceiver) :
      Step config client origin data link { link with toServer, toReceiver }

/-- What a read request leads to. -/
inductive Link.Reached (config : Config) (before : Sessions) (request : Arrival)
    (origin : Transfer) (data : Bytes) : Link → Prop
  | requested : Reached config before request origin data
      ⟨(request.outcome config before).sessions, .fresh, [],
        (request.outcome config before).reply.toList⟩
  | step {link next : Link} (reached : Reached config before request origin data link)
      (move : link.Step config request.client origin data next) :
      Reached config before request origin data next

section

variable {config : Config} {before : Sessions} {request : Arrival} {client : IPv4}
  {origin : Transfer} {data : Bytes} {size : Nat} {receiver : Receiver} {link next : Link}

/-! ## The receiver -/

/-- What a receiver has is the beginning of the file up to the last block that it has taken, and it
stops at the end of the file. -/
structure Receiver.HasBeginning (receiver : Receiver) (data : Bytes) (size : Nat) : Prop where
  received_eq : receiver.received = data.take (receiver.accepted * size)
  accepted_le : receiver.accepted ≤ lastBlock data size
  stopped_iff : receiver.stopped = true ↔ receiver.accepted = lastBlock data size

namespace Receiver.HasBeginning

theorem fresh (data : Bytes) (size : Nat) : Receiver.fresh.HasBeginning data size where
  received_eq := by simp [Receiver.fresh]
  accepted_le := Nat.zero_le _
  stopped_iff := by
    have hpos := lastBlock_pos data size
    simp only [Receiver.fresh, Bool.false_eq_true, false_iff]
    omega

theorem append (h : receiver.HasBeginning data size) (hsize : 0 < size)
    (hopen : receiver.stopped = false) :
    let payload := blockOctets data size (receiver.accepted + 1)
    Receiver.HasBeginning ⟨receiver.received ++ payload, receiver.accepted + 1,
      payload.length < size⟩ data size := by
  have hne : receiver.accepted ≠ lastBlock data size := by
    rw [Ne, ← h.stopped_iff, hopen]
    exact Bool.false_ne_true
  have hle := h.accepted_le
  have hlast : receiver.accepted + 1 ≤ lastBlock data size := by omega
  refine ⟨?_, hlast, ?_⟩
  · rw [h.received_eq, take_append_blockOctets]
  · rw [decide_eq_true_iff]
    exact length_blockOctets_lt_iff hsize (Nat.succ_pos _) hlast

/-- The number of a packet tells its block apart from all others. -/
theorem take (h : receiver.HasBeginning data origin.blockSize.toNat)
    (hpos : 0 < origin.blockSize.toNat)
    (hblocks : lastBlock data origin.blockSize.toNat ≤ 65535) {packet : Packet}
    {refused : Fault → Prop} (hpacket : Answers refused origin data packet) :
    (receiver.take origin.blockSize.toNat packet).HasBeginning data origin.blockSize.toNat := by
  rcases hpacket with ⟨granted, rfl⟩ | ⟨block, hblock, hlast, rfl⟩ | ⟨cause, -, rfl⟩
  · exact h
  · rw [Transfer.packetOf, blockPacket, Receiver.take]
    split
    next hnext =>
      obtain ⟨hopen, hnumber⟩ := hnext
      have hle := h.accepted_le
      have hne : receiver.accepted ≠ lastBlock data origin.blockSize.toNat := by
        rw [Ne, ← h.stopped_iff, hopen]
        exact Bool.false_ne_true
      have hnumbers := congrArg UInt16.toNat hnumber
      rw [UInt16.toNat_ofNat', UInt16.toNat_ofNat'] at hnumbers
      obtain rfl : block = receiver.accepted + 1 := by omega
      exact h.append hpos hopen
    next => exact h
  · exact h

theorem isPrefix (h : receiver.HasBeginning data size) : receiver.received <+: data := by
  rw [h.received_eq]
  exact List.take_prefix _ _

theorem received_of_stopped (h : receiver.HasBeginning data size) (hsize : 0 < size)
    (hstopped : receiver.stopped = true) : receiver.received = data := by
  rw [h.received_eq, h.stopped_iff.mp hstopped, take_lastBlock hsize]

end Receiver.HasBeginning

/-! ## Server, receiver and network together -/

/-- The transfer is underway, only acknowledgements fly to the server, and only what the transfer
may answer flies to the receiver. -/
structure Link.Sound (link : Link) (client : IPv4) (origin : Transfer) (data : Bytes) : Prop where
  underway : ∃ transfer past,
    Underway (fun _ => True) client data origin transfer link.sessions past
  toServer : ∀ packet ∈ link.toServer, packet.acknowledged?.isSome
  toReceiver : ∀ packet ∈ link.toReceiver, Answers (fun _ => True) origin data packet
  receiver : link.receiver.HasBeginning data origin.blockSize.toNat

theorem Link.sound_requested (hopens : request.Opens config origin)
    (hfile : request.disk.content origin.file = data) (hsize : data.length < Transfer.fileLimit)
    (before : Sessions) :
    Link.Sound ⟨(request.outcome config before).sessions, .fresh, [],
      (request.outcome config before).reply.toList⟩ request.client origin data := by
  obtain ⟨transfer, hstart⟩ := Underway.start _ hopens hfile hsize before
  refine ⟨⟨transfer, _, hstart⟩, ?_, ?_, .fresh data _⟩
  · intro packet hpacket
    exact absurd hpacket List.not_mem_nil
  · intro packet hpacket
    exact hstart.replies _ List.mem_cons_self packet (Option.mem_toList.mp hpacket)

/-- What one move preserves, of whomever it is. -/
theorem Link.Sound.step (h : link.Sound client origin data)
    (hsize : data.length < Transfer.fileLimit) (hpos : 0 < origin.blockSize.toNat)
    (hblocks : lastBlock data origin.blockSize.toNat ≤ 65535)
    (hmove : link.Step config client origin data next) : next.Sound client origin data := by
  cases hmove with
  | acknowledge block _ =>
      refine ⟨h.underway, ?_, h.toReceiver, h.receiver⟩
      intro packet hpacket
      rcases List.mem_cons.mp hpacket with rfl | hpacket
      · rfl
      · exact h.toServer packet hpacket
  | receive packet hfirst =>
      have hall := h.toReceiver
      rw [hfirst] at hall
      refine ⟨h.underway, h.toServer, ?_, ?_⟩
      · intro other hother
        exact hall other (List.mem_cons_of_mem packet hother)
      · exact h.receiver.take hpos hblocks (hall packet List.mem_cons_self)
  | serve arrival hfirst hclient hcontent =>
      have hall := h.toServer
      rw [hfirst] at hall
      have hacks : arrival.Acknowledges client origin.file data :=
        ⟨hclient, hall arrival.packet List.mem_cons_self, hcontent⟩
      obtain ⟨transfer, past, hunderway⟩ := h.underway
      obtain ⟨after, hafter⟩ := hunderway.step config hsize hacks fun _ _ => trivial
      refine ⟨⟨after, _, hafter⟩, ?_, ?_, h.receiver⟩
      · intro packet hpacket
        exact hall packet (List.mem_cons_of_mem arrival.packet hpacket)
      · intro packet hpacket
        rcases List.mem_append.mp hpacket with hreply | hold
        · exact hafter.replies _ (List.mem_append_right _ (List.mem_singleton_self _)) packet
            (Option.mem_toList.mp hreply)
        · exact h.toReceiver packet hold
  | disturb hserver hreceiver =>
      refine ⟨h.underway, ?_, ?_, h.receiver⟩
      · intro packet hpacket
        exact h.toServer packet (hserver hpacket)
      · intro packet hpacket
        exact h.toReceiver packet (hreceiver hpacket)

theorem Link.Reached.sound (h : Link.Reached config before request origin data link)
    (hopens : request.Opens config origin) (hfile : request.disk.content origin.file = data)
    (hsize : data.length < Transfer.fileLimit)
    (hblocks : lastBlock data origin.blockSize.toNat ≤ 65535) :
    link.Sound request.client origin data := by
  induction h with
  | requested => exact Link.sound_requested hopens hfile hsize before
  | step _ hmove ih => exact ih.step hsize hopens.fresh.blockSize_pos hblocks hmove

theorem length_lt_of_lastBlock_le (hpos : 0 < origin.blockSize.toNat)
    (hblocks : lastBlock data origin.blockSize.toNat ≤ 65535) :
    data.length < Transfer.fileLimit := by
  have hsize := origin.blockSize.toNat_lt
  have hmod := Nat.mod_lt data.length hpos
  have hdiv := Nat.div_add_mod' data.length origin.blockSize.toNat
  have hfull : data.length / origin.blockSize.toNat * origin.blockSize.toNat ≤ 65535 * 65536 :=
    Nat.mul_le_mul (Nat.le_of_succ_le hblocks) (Nat.le_of_lt hsize)
  unfold Transfer.fileLimit
  omega

end

/-- A file of at most 65535 blocks is read over a network that loses, delays, reorders and
duplicates packets, by a receiver that takes only the block with the next number and acknowledges
only what it has taken, or block 0. Whatever has happened, what the receiver has is a beginning of
the file, and it has stopped exactly once it has taken all blocks and with them the whole file. -/
theorem lossy_network_delivers_beginning (config : Config) (before : Sessions) (request : Arrival)
    (origin : Transfer) (data : Bytes) (hopens : request.Opens config origin)
    (hfile : request.disk.content origin.file = data)
    (hblocks : data.length / origin.blockSize.toNat + 1 ≤ 65535) (link : Link)
    (hreached : Link.Reached config before request origin data link) :
    link.receiver.received <+: data ∧
      (link.receiver.stopped = true → link.receiver.received = data) ∧
      (link.receiver.stopped = true ↔
        link.receiver.accepted = data.length / origin.blockSize.toNat + 1) := by
  have hpos := hopens.fresh.blockSize_pos
  have hsize := length_lt_of_lastBlock_le hpos hblocks
  have hsound := hreached.sound hopens hfile hsize hblocks
  exact ⟨hsound.receiver.isPrefix, hsound.receiver.received_of_stopped hpos,
    hsound.receiver.stopped_iff⟩

namespace Small

def block (number : Nat) : Packet := blockPacket data 8 number

/-- A receiver that has taken some blocks of the small file, but not the last one. -/
def receiver (accepted : Nat) : Receiver := ⟨data.take (accepted * 8), accepted, false⟩

/-- What the request for the small file leads to: acknowledgements that the server got, a receiver,
and the packets in flight. -/
abbrev Leads (acks : List UInt16) (receiver : Receiver) (toServer toReceiver : List Packet) :
    Prop :=
  Link.Reached config (.empty 0) request transfer data ⟨after acks, receiver, toServer, toReceiver⟩

/-- The options get lost and the acknowledgement of block 0 comes twice, the second time after block
2 was sent, so that the server starts again. Then block 2 is sent again and gets lost, and at last
the other blocks arrive. -/
theorem leads_to_end : Leads [0, 1, 0, 1, 2, 3] ⟨data, 4, true⟩ [] [] := by
  have hoptions : Leads [] (receiver 0) [] [.optionAck [("blksize", "8")]] := .requested
  have hack : Leads [] (receiver 0) [.ack 0] [.optionAck [("blksize", "8")]] :=
    hoptions.step (.acknowledge 0 (Nat.zero_le 0))
  have htwice : Leads [] (receiver 0) [.ack 0, .ack 0] [] :=
    hack.step (.disturb (by simp) (by simp))
  have hfirst : Leads [0] (receiver 0) [.ack 0] [block 1] :=
    htwice.step (.serve (ack 0) rfl rfl rfl)
  have hone : Leads [0] (receiver 1) [.ack 0] [] := hfirst.step (.receive (block 1) rfl)
  have hackOne : Leads [0] (receiver 1) [.ack 1, .ack 0] [] :=
    hone.step (.acknowledge 1 (Nat.le_refl 1))
  have hsecond : Leads [0, 1] (receiver 1) [.ack 0] [block 2] :=
    hackOne.step (.serve (ack 1) rfl rfl rfl)
  have hback : Leads [0, 1, 0] (receiver 1) [] [block 1, block 2] :=
    hsecond.step (.serve (ack 0) rfl rfl rfl)
  have hignored : Leads [0, 1, 0] (receiver 1) [] [block 2] := hback.step (.receive (block 1) rfl)
  have htwo : Leads [0, 1, 0] (receiver 2) [] [] := hignored.step (.receive (block 2) rfl)
  have hackAgain : Leads [0, 1, 0] (receiver 2) [.ack 1] [] :=
    htwo.step (.acknowledge 1 (Nat.le_succ 1))
  have hagain : Leads [0, 1, 0, 1] (receiver 2) [] [block 2] :=
    hackAgain.step (.serve (ack 1) rfl rfl rfl)
  have hlost : Leads [0, 1, 0, 1] (receiver 2) [] [] := hagain.step (.disturb (by simp) (by simp))
  have hackTwo : Leads [0, 1, 0, 1] (receiver 2) [.ack 2] [] :=
    hlost.step (.acknowledge 2 (Nat.le_refl 2))
  have hthird : Leads [0, 1, 0, 1, 2] (receiver 2) [] [block 3] :=
    hackTwo.step (.serve (ack 2) rfl rfl rfl)
  have hthree : Leads [0, 1, 0, 1, 2] (receiver 3) [] [] := hthird.step (.receive (block 3) rfl)
  have hackThree : Leads [0, 1, 0, 1, 2] (receiver 3) [.ack 3] [] :=
    hthree.step (.acknowledge 3 (Nat.le_refl 3))
  have hfourth : Leads [0, 1, 0, 1, 2, 3] (receiver 3) [] [block 4] :=
    hackThree.step (.serve (ack 3) rfl rfl rfl)
  exact hfourth.step (.receive (block 4) rfl)

end Small

/-- Over a network that loses the options and a block, and delivers a stale acknowledgement, the
receiver of the small file gets to its end with the whole file. -/
theorem small_lossy_network_delivers :
    ∃ link, Link.Reached Small.config (.empty 0) Small.request Small.transfer Small.data link ∧
      link.receiver.stopped = true ∧ link.receiver.received = Small.data := by
  refine ⟨_, Small.leads_to_end, rfl, ?_⟩
  exact (lossy_network_delivers_beginning Small.config (.empty 0) Small.request Small.transfer
    Small.data Small.request_opens rfl (by decide) _ Small.leads_to_end).2.1 rfl

end BootServer.Tftp
