import BootServer.Proofs.Text.Numerals
import BootServer.Proofs.Tftp.LockStep
import BootServer.Proofs.Tftp.PacketGrammar
import BootServer.Proofs.Tftp.Reactions

/-!
# What is negotiated is what is sent

A read request may ask for a block size and for the size of the file. What is granted is sent back,
and the transfer keeps to it: its blocks have the block size that was granted, and a client that
reads in order gets as many octets as it was told. A transfer whose first block cannot be read is
not started.
-/

namespace BootServer.Tftp

/-- The first block size among the options is a number of 64 bits, with blanks around it. -/
def AsksBlockSize (options : Options) (n : Nat) : Prop :=
  ∃ front value rest, options = front ++ ("blksize", value) :: rest ∧
    (∀ option ∈ front, option.1 ≠ "blksize") ∧ Text.Numeral (Text.trim value.toList) n ∧ n < 2 ^ 64

def AsksSize (options : Options) : Prop := ∃ value, ("tsize", value) ∈ options

def Asks (options : Options) : Prop := (∃ n, AsksBlockSize options n) ∨ AsksSize options

/-- The block size of a transfer, and what is granted of it. -/
inductive BlockSizeGrant (options : Options) : Nat → Options → Prop
  | asked {n : Nat} (h : AsksBlockSize options n) :
      BlockSizeGrant options (max 8 (min n 65464)) [("blksize", toString (max 8 (min n 65464)))]
  | unasked (h : ∀ n, ¬ AsksBlockSize options n) : BlockSizeGrant options 512 []

/-- What is granted of the size of a file that has so many octets. -/
inductive SizeGrant (options : Options) (length : Nat) : Options → Prop
  | asked (h : AsksSize options) : SizeGrant options length [("tsize", toString length)]
  | unasked (h : ¬ AsksSize options) : SizeGrant options length []

/-- What is sent when nothing is granted: the first block of the file, or why it cannot be read. -/
inductive FirstBlock (disk : Disk) (file : FileId) (size : Nat) : Packet → Prop
  | sent {payload : Bytes} (hread : disk.readPart file 0 size = .ok payload) :
      FirstBlock disk file size (.data 1 payload)
  | unread {cause : Fault} (hread : disk.readPart file 0 size = .error cause) :
      FirstBlock disk file size (Failure.system cause).packet

def Packet.payload? : Packet → Option Bytes
  | .data _ payload => some payload
  | _ => none

def payloads (packets : List Packet) : List Bytes := packets.filterMap Packet.payload?

/-- No block is longer than it may be, and only the last one is shorter. -/
structure Framed (size : Nat) (blocks : List Bytes) : Prop where
  bounded : ∀ block ∈ blocks, block.length ≤ size
  full : ∀ block ∈ blocks.dropLast, block.length = size

def Call.repliesTo (config : Config) (client : IPv4) (sessions : Sessions) : Call → List Packet
  | .occasion (.packet arrival) =>
    if arrival.client = client then (arrival.outcome config sessions).reply.toList else []
  | _ => []

def repliesOver (config : Config) (client : IPv4) : Sessions → List Call → List Packet
  | _, [] => []
  | sessions, call :: rest =>
    call.repliesTo config client sessions ++
      repliesOver config client (call.outcome config sessions).sessions rest

/-- A client acknowledges a packet while a file holds `data`. -/
structure Arrival.AcksPacket (ack : Arrival) (client : IPv4) (file : FileId) (data : Bytes)
    (latest : Packet) : Prop where
  client_eq : ack.client = client
  packet_eq : ack.packet = .ack latest.number
  content_eq : ack.disk.content file = data

/-- A client reads in order while a file holds `data`: it acknowledges the packet `latest`, gets the
next block, and so on until there is no reply. Whatever else is called for leaves its session as it
is. -/
inductive Downloads (config : Config) (client : IPv4) (file : FileId) (data : Bytes) :
    Sessions → Packet → List Packet → Prop
  | finish {sessions : Sessions} {latest : Packet} {ack : Arrival}
      (acks : ack.AcksPacket client file data latest)
      (silent : (ack.outcome config sessions).reply = none) :
      Downloads config client file data sessions latest []
  | onward {sessions : Sessions} {latest : Packet} {ack : Arrival} {number : UInt16}
      {payload : Bytes} {received : List Packet} (acks : ack.AcksPacket client file data latest)
      (answered : (ack.outcome config sessions).reply = some (.data number payload))
      (next : Downloads config client file data (ack.outcome config sessions).sessions
        (.data number payload) received) :
      Downloads config client file data sessions latest (.data number payload :: received)
  | aside {sessions : Sessions} {latest : Packet} {call : Call} {received : List Packet}
      (absent : Absent client [call])
      (kept : (call.outcome config sessions).sessions.get? client = sessions.get? client)
      (next : Downloads config client file data (call.outcome config sessions).sessions latest
        received) :
      Downloads config client file data sessions latest received

/-- What a transfer comes to, and the first packet of it, or the error that is sent instead. -/
inductive Starts (disk : Disk) (transfer : Transfer) (options : Options) :
    Option Transfer → Packet → Prop
  | started {after : Transfer} {packet : Packet}
      (hfirst : firstPacket disk transfer options = .ok (after, packet)) :
      Starts disk transfer options (some after) packet
  | failed {failure : Failure} (hfirst : firstPacket disk transfer options = .error failure) :
      Starts disk transfer options none failure.packet

variable {config : Config} {client : IPv4} {sessions : Sessions} {arrival request : Arrival}
  {before started : Option Transfer} {transfer opened after origin : Transfer}
  {left : Option Session} {reply : Option Packet} {events : List TransferEvent} {options : Options}
  {disk : Disk} {data block : Bytes} {size : Nat} {sent : List Bytes} {packet latest : Packet}
  {file : FileId} {received : List Packet}

/-! ## Options -/

theorem negotiate?_eq_some_iff {value : String} {blockSize : UInt16} :
    negotiate? value = some blockSize ↔
      ∃ n, (Text.Numeral (Text.trim value.toList) n ∧ n < 2 ^ 64) ∧
        clampBlockSize n = blockSize := by
  have hbound : ∀ n, n ≤ UInt64.size - 1 ↔ n < 2 ^ 64 := fun n => Nat.le_sub_one_iff_lt (by decide)
  simp only [negotiate?, Option.map_eq_some_iff, Text.unsigned?_eq_some_iff, hbound]

theorem requestedBlockSize?_eq_some_iff {blockSize : UInt16} :
    requestedBlockSize? options = some blockSize ↔
      ∃ n, AsksBlockSize options n ∧ clampBlockSize n = blockSize := by
  rw [requestedBlockSize?, Option.bind_eq_some_iff]
  constructor
  · rintro ⟨value, hvalue, hblockSize⟩
    obtain ⟨front, rest, hsplit, hfirst⟩ := Packet.lookup_eq_some_iff.mp hvalue
    obtain ⟨n, ⟨hnumeral, hbound⟩, hclamp⟩ := negotiate?_eq_some_iff.mp hblockSize
    exact ⟨n, ⟨front, value, rest, hsplit, hfirst, hnumeral, hbound⟩, hclamp⟩
  · rintro ⟨n, ⟨front, value, rest, hsplit, hfirst, hnumeral, hbound⟩, hclamp⟩
    exact ⟨value, Packet.lookup_eq_some_iff.mpr ⟨front, rest, hsplit, hfirst⟩,
      negotiate?_eq_some_iff.mpr ⟨n, ⟨hnumeral, hbound⟩, hclamp⟩⟩

theorem blockSizeGrant_settled (hopened : opened.blockSize = defaultBlockSize) (options : Options) :
    BlockSizeGrant options (settled opened options).blockSize.toNat
      ((requestedBlockSize? options).map fun blockSize =>
        (blockSizeOption, toString blockSize.toNat)).toList := by
  cases hrequested : requestedBlockSize? options with
  | none =>
      rw [settled, hrequested, hopened]
      refine .unasked fun n hasks => ?_
      have hsome := requestedBlockSize?_eq_some_iff.mpr ⟨n, hasks, rfl⟩
      exact nomatch hrequested.symm.trans hsome
  | some blockSize =>
      obtain ⟨n, hasks, rfl⟩ := requestedBlockSize?_eq_some_iff.mp hrequested
      -- the transfer clamps again what was clamped for the reply
      have htwice : (opened.withBlockSize (clampBlockSize n)).blockSize.toNat =
          max 8 (min n 65464) := by
        rw [Transfer.withBlockSize, toNat_clampBlockSize, toNat_clampBlockSize]
        omega
      simp only [settled, hrequested, htwice, Option.map_some, Option.toList_some,
        toNat_clampBlockSize]
      exact .asked hasks

theorem sizeGrant_lookup (options : Options) (size : UInt64) :
    SizeGrant options size.toNat
      ((options.lookup sizeOption).map fun _ => (sizeOption, toString size.toNat)).toList := by
  cases hlookup : options.lookup sizeOption with
  | none =>
      refine .unasked ?_
      rintro ⟨value, hmem⟩
      have hother := List.lookup_eq_none_iff.mp hlookup _ hmem
      exact absurd rfl (bne_iff_ne.mp hother)
  | some value =>
      obtain ⟨front, rest, rfl, -⟩ := Packet.lookup_eq_some_iff.mp hlookup
      exact .asked ⟨value, List.mem_append_right _ List.mem_cons_self⟩

theorem isEmpty_grants_iff {length : Nat} {blockSizeGrant sizeGrant : Options}
    (hblockSize : BlockSizeGrant options size blockSizeGrant)
    (hsize : SizeGrant options length sizeGrant) :
    (blockSizeGrant ++ sizeGrant).isEmpty = true ↔ ¬ Asks options := by
  cases hblockSize with
  | asked hasks => exact iff_of_false (by simp) fun hnothing => hnothing (.inl ⟨_, hasks⟩)
  | unasked hblock =>
      cases hsize with
      | asked hasks => exact iff_of_false (by simp) fun hnothing => hnothing (.inr hasks)
      | unasked hsize => exact iff_of_true rfl (not_or.mpr ⟨not_exists.mpr hblock, hsize⟩)

/-- What is granted, and that nothing is granted just when nothing was asked for. -/
theorem grants_of_settled (hopened : opened.blockSize = defaultBlockSize) (options : Options) :
    ∃ blockSizeGrant sizeGrant,
      BlockSizeGrant options (settled opened options).blockSize.toNat blockSizeGrant ∧
      SizeGrant options opened.size.toNat sizeGrant ∧
      granted options opened.size = blockSizeGrant ++ sizeGrant ∧
      ((granted options opened.size).isEmpty = true ↔ ¬ Asks options) := by
  have hblockSize := blockSizeGrant_settled hopened options
  have hsize := sizeGrant_lookup options opened.size
  exact ⟨_, _, hblockSize, hsize, rfl, isEmpty_grants_iff hblockSize hsize⟩

theorem Starts.packet_cases (h : Starts disk transfer options started packet) :
    ((granted options transfer.size).isEmpty = false ∧
      packet = .optionAck (granted options transfer.size)) ∨
    ((granted options transfer.size).isEmpty = true ∧
      FirstBlock disk transfer.file transfer.blockSize.toNat packet) := by
  cases h with
  | started hfirst =>
      unfold firstPacket at hfirst
      split at hfirst
      next hnothing =>
        obtain ⟨octets, hread, rfl, -⟩ := Transfer.readBlock_of_sendBlock hfirst
        rw [Transfer.readBlock_one] at hread
        exact .inr ⟨hnothing, .sent hread⟩
      next hgranted =>
        obtain ⟨rfl, rfl⟩ := Prod.mk.inj (Except.ok.inj hfirst)
        exact .inl ⟨eq_false_of_ne_true hgranted, rfl⟩
  | failed hfirst =>
      unfold firstPacket at hfirst
      split at hfirst
      next hnothing =>
        obtain ⟨cause, hread, rfl⟩ := Transfer.fault_of_sendBlock hfirst
        rw [Transfer.readBlock_one] at hread
        exact .inr ⟨hnothing, .unread hread⟩
      next => exact nomatch hfirst

/-! ## Blocks -/

theorem payloads_append (earlier later : List Packet) :
    payloads (earlier ++ later) = payloads earlier ++ payloads later := List.filterMap_append

theorem framed_nil (size : Nat) : Framed size [] := ⟨nofun, nofun⟩

theorem Framed.concat (h : ∀ block ∈ sent, block.length = size) (hle : block.length ≤ size) :
    Framed size (sent ++ [block]) where
  bounded := by
    intro other hother
    rcases List.mem_append.mp hother with hsent | hnew
    · exact Nat.le_of_eq (h other hsent)
    · rwa [List.mem_singleton.mp hnew]
  full := by
    rw [List.dropLast_concat]
    exact h

/-- A client has been sent these blocks, all of them full unless its transfer is at the end. -/
structure Sending (size : Nat) (current : Option Transfer) (sent : List Bytes) : Prop where
  framed : Framed size sent
  blockSize_eq : ∀ transfer, current = some transfer → transfer.blockSize.toNat = size
  full : ∀ transfer, current = some transfer → transfer.atEnd = false →
    ∀ block ∈ sent, block.length = size

namespace Sending

theorem none (h : Framed size sent) : Sending size .none sent := ⟨h, nofun, nofun⟩

theorem silent (h : Sending size before sent) {packets : List Packet}
    (hsilent : payloads packets = []) : Sending size before (sent ++ payloads packets) := by
  rwa [hsilent, List.append_nil]

theorem complete (h : Sending size (some transfer) sent) :
    Sending size (some { transfer with completed := true }) sent where
  framed := h.framed
  blockSize_eq := by
    rintro _ ⟨⟩
    exact h.blockSize_eq transfer rfl
  full := by
    rintro _ ⟨⟩
    exact h.full transfer rfl

theorem sendBlock (h : Sending size (some transfer) sent) {number : UInt64}
    (hend : transfer.atEnd = false)
    (hsend : transfer.sendBlock disk number = .ok (after, packet)) :
    Sending size (some after) (sent ++ payloads [packet]) := by
  obtain ⟨-, rfl, rfl⟩ := Transfer.sendBlock_inv hsend
  have hfull := h.full transfer rfl hend
  have hsize := h.blockSize_eq transfer rfl
  have hle : (transfer.payload disk number).length ≤ size := by
    rw [← hsize]
    exact List.length_take_le _ _
  refine ⟨Framed.concat hfull hle, ?_, ?_⟩
  · rintro _ ⟨⟩
    exact hsize
  · rintro _ ⟨⟩ hopen block hblock
    rcases List.mem_append.mp hblock with hsent | hnew
    · exact hfull block hsent
    · obtain rfl := List.mem_singleton.mp hnew
      have hnot := of_decide_eq_false hopen
      rw [hsize] at hnot
      exact Nat.le_antisymm hle (Nat.not_lt.mp hnot)

end Sending

/-- While a client asks for no other file, it is sent blocks of one size. -/
theorem Arrival.Reaction.sending (h : arrival.Reaction config before left reply events)
    (hasks : arrival.packet.isReadRequest = false) (hsending : Sending size before sent) :
    Sending size (left.bind (·.transfer)) (sent ++ payloads reply.toList) := by
  cases h with
  | ended => exact (Sending.none hsending.framed).silent rfl
  | refused => exact hsending.silent rfl
  | unserved hpacket | opened hpacket =>
      rw [hpacket] at hasks
      exact nomatch hasks
  | unknown => exact (Sending.none hsending.framed).silent rfl
  | failed _ hbefore =>
      rw [hbefore] at hsending
      exact hsending.silent rfl
  | acknowledged _ hbefore hack =>
      rw [hbefore] at hsending
      rcases Transfer.acknowledge_inv hack with
        ⟨hend, packet, rfl, hsend⟩ | ⟨-, -, rfl, rfl⟩ | ⟨-, rfl, rfl⟩
      · exact hsending.sendBlock hend hsend
      · exact hsending.complete.silent rfl
      · exact hsending.silent rfl

theorem Call.repliesTo_of_not_own {call : Call}
    (h : ¬ ∃ arrival, call = .occasion (.packet arrival) ∧ arrival.client = client) :
    call.repliesTo config client sessions = [] := by
  unfold repliesTo
  split
  next arrival => exact if_neg fun hclient => h ⟨arrival, rfl, hclient⟩
  next => rfl

theorem Call.sending (config : Config) (hdistinct : sessions.table.Distinct) {call : Call}
    {calls : List Call} (hasks : AsksNothing client (call :: calls))
    (h : Sending size (sessions.transfer? client) sent) :
    Sending size ((call.outcome config sessions).sessions.transfer? client)
      (sent ++ payloads (call.repliesTo config client sessions)) := by
  by_cases hown : ∃ arrival, call = .occasion (.packet arrival) ∧ arrival.client = client
  · obtain ⟨arrival, rfl, rfl⟩ := hown
    rw [repliesTo, if_pos rfl]
    exact (arrival.reaction config sessions).sending (hasks arrival List.mem_cons_self rfl) h
  · have hsilent : payloads (call.repliesTo config client sessions) = [] := by
      rw [repliesTo_of_not_own hown]
      rfl
    rcases (call.transfer?_cases config hdistinct client).resolve_left hown with hsame | hnone
    · rw [hsame]
      exact h.silent hsilent
    · rw [hnone]
      exact (Sending.none h.framed).silent hsilent

theorem framed_repliesOver (config : Config) (hdistinct : sessions.table.Distinct)
    {calls : List Call} (hasks : AsksNothing client calls)
    (h : Sending size (sessions.transfer? client) sent) :
    Framed size (sent ++ payloads (repliesOver config client sessions calls)) := by
  induction calls generalizing sessions sent with
  | nil =>
      have hnone : payloads (repliesOver config client sessions []) = [] := rfl
      rw [hnone, List.append_nil]
      exact h.framed
  | cons call calls ih =>
      have hnext := call.sending config hdistinct hasks h
      rw [repliesOver, payloads_append, ← List.append_assoc]
      exact ih (call.distinct config hdistinct) hasks.tail hnext

/-! ## Reading in order -/

/-- A transfer has sent the blocks of a file up to the latest one, and is at its end if that one is
short. -/
structure Transfer.InOrder (transfer : Transfer) (data : Bytes) : Prop where
  blockSize_pos : 0 < transfer.blockSize.toNat
  start_lt : (transfer.lastSent.toNat - 1) * transfer.blockSize.toNat < 2 ^ 63
  atEnd_iff : transfer.atEnd = true ↔
    data.length < transfer.lastSent.toNat * transfer.blockSize.toNat

theorem Transfer.Fresh.inOrder (h : transfer.Fresh) (data : Bytes) : transfer.InOrder data where
  blockSize_pos := h.blockSize_pos
  start_lt := by
    rw [h.lastSent_eq]
    simp
  atEnd_iff := by
    rw [h.atEnd_eq, h.lastSent_eq]
    simp

theorem Transfer.InOrder.end_lt (h : transfer.InOrder data) :
    transfer.lastSent.toNat * transfer.blockSize.toNat < 2 ^ 63 + 2 ^ 16 := by
  have hstart := h.start_lt
  have hblockSize := transfer.blockSize.toNat_lt
  have hend : transfer.lastSent.toNat * transfer.blockSize.toNat ≤
      (transfer.lastSent.toNat - 1) * transfer.blockSize.toNat + transfer.blockSize.toNat := by
    rw [← Nat.succ_mul]
    exact Nat.mul_le_mul_right _ (by omega)
  omega

/-- The next block has its number and starts where the latest one ends; nothing wraps around. -/
theorem Transfer.InOrder.next (h : transfer.InOrder data) :
    (transfer.lastSent + 1).toNat = transfer.lastSent.toNat + 1 ∧
      (transfer.offset (transfer.lastSent + 1)).toNat =
        transfer.lastSent.toNat * transfer.blockSize.toNat := by
  have hend := h.end_lt
  have hcount : transfer.lastSent.toNat ≤ transfer.lastSent.toNat * transfer.blockSize.toNat :=
    Nat.le_mul_of_pos_right _ h.blockSize_pos
  have hsucc : (transfer.lastSent + 1).toNat = transfer.lastSent.toNat + 1 := by
    rw [UInt64.toNat_add, UInt64.toNat_one, Nat.mod_eq_of_lt (by omega)]
  have hfits : ((transfer.lastSent + 1).toNat - 1) * transfer.blockSize.toNat < 2 ^ 64 := by
    rw [hsucc, Nat.add_sub_cancel]
    omega
  refine ⟨hsucc, ?_⟩
  rw [toNat_offset (by omega) hfits, hsucc, Nat.add_sub_cancel]

theorem Transfer.InOrder.sendBlock (h : transfer.InOrder data)
    (hfile : disk.content transfer.file = data) (hend : transfer.atEnd = false)
    (hsend : transfer.sendBlock disk (transfer.lastSent + 1) = .ok (after, packet)) :
    after.InOrder data ∧ after.SameFile transfer ∧
      after.lastSent.toNat = transfer.lastSent.toNat + 1 ∧
      packet = transfer.packetOf data (transfer.lastSent.toNat + 1) := by
  obtain ⟨hsucc, hoffset⟩ := h.next
  -- so what is read at the offset is the block after the latest one
  have hpayload : transfer.payload disk (transfer.lastSent + 1) =
      blockOctets data transfer.blockSize.toNat (transfer.lastSent.toNat + 1) := by
    rw [payload, hfile, hoffset, blockOctets_eq_slice (Nat.succ_pos _), Nat.succ_sub_one]
  have hlength : (transfer.payload disk (transfer.lastSent + 1)).length =
      min transfer.blockSize.toNat
        (data.length - transfer.lastSent.toNat * transfer.blockSize.toNat) := by
    rw [hpayload, length_blockOctets (Nat.succ_pos _), Nat.succ_sub_one]
  have hwithin : transfer.lastSent.toNat * transfer.blockSize.toNat ≤ data.length := by
    rw [← Nat.not_lt, ← h.atEnd_iff, hend]
    exact Bool.false_ne_true
  obtain ⟨hreach, rfl, rfl⟩ := sendBlock_inv hsend
  refine ⟨⟨h.blockSize_pos, ?_, ?_⟩, ⟨rfl, rfl, rfl⟩, hsucc, ?_⟩
  · rwa [hsucc, Nat.add_sub_cancel, ← hoffset]
  · have hpos := h.blockSize_pos
    dsimp only
    rw [decide_eq_true_iff, hlength, hsucc, Nat.succ_mul]
    omega
  · rw [hpayload, packetOf, blockPacket, ← hsucc, UInt16.ofNat_uInt64ToNat]

theorem Arrival.AcksPacket.reply_cases {ack : Arrival}
    (h : ack.AcksPacket client transfer.file data latest) (config : Config)
    (hfound : sessions.transfer? client = some transfer) (horder : transfer.InOrder data)
    (hnumber : latest.number = UInt16.ofNat transfer.lastSent.toNat) :
    (transfer.atEnd = true ∧ (ack.outcome config sessions).reply = none) ∨
    (∃ failure : Failure, (ack.outcome config sessions).reply = some failure.packet) ∨
    ∃ after, (ack.outcome config sessions).sessions.transfer? client = some after ∧
      after.InOrder data ∧ after.SameFile transfer ∧
      after.lastSent.toNat = transfer.lastSent.toNat + 1 ∧
      (ack.outcome config sessions).reply =
        some (transfer.packetOf data (transfer.lastSent.toNat + 1)) := by
  obtain ⟨rfl, hpacket, hcontent⟩ := h
  have hwire : ack.packet.acknowledged? = some (UInt16.ofNat transfer.lastSent.toNat) := by
    rw [hpacket, hnumber]
    rfl
  have hacked : ackedBlock transfer.lastSent (UInt16.ofNat transfer.lastSent.toNat) =
      transfer.lastSent := by
    apply UInt64.toNat_inj.mp
    exact ackedBlock_ofNat (Nat.le_refl _) (Nat.lt_add_of_pos_right (by decide))
  have hreaction := ack.reaction config sessions
  rw [hfound] at hreaction
  rcases hreaction.of_acknowledges hwire with
    ⟨failure, -, -, hreply⟩ | ⟨after, result, hack, hleft, hreply⟩
  · exact .inr (.inl ⟨failure, hreply⟩)
  · rcases Transfer.acknowledge_inv hack with
      ⟨hend, packet, rfl, hsend⟩ | ⟨hend, -, rfl, -⟩ | ⟨hend, rfl, -⟩
    · rw [hacked] at hsend
      obtain ⟨hafter, hsame, hlast, rfl⟩ := horder.sendBlock hcontent hend hsend
      exact .inr (.inr ⟨after, Sessions.transfer?_of_get? hleft, hafter, hsame, hlast, hreply⟩)
    · exact .inl ⟨hend, hreply⟩
    · exact .inl ⟨hend, hreply⟩

theorem Downloads.flatten_eq (h : Downloads config client file data sessions latest received)
    (hfound : sessions.transfer? client = some transfer) (hfile : transfer.file = file)
    (horder : transfer.InOrder data)
    (hnumber : latest.number = UInt16.ofNat transfer.lastSent.toNat) :
    data.take (transfer.lastSent.toNat * transfer.blockSize.toNat) ++
        (payloads received).flatten = data ∧ data.length < 2 ^ 64 := by
  -- on the reading: up to its latest block the transfer has sent the beginning of the file
  induction h generalizing transfer with
  | finish acks silent =>
      rw [← hfile] at acks
      rcases acks.reply_cases config hfound horder hnumber with
        ⟨hend, -⟩ | ⟨failure, hreply⟩ | ⟨after, -, -, -, -, hreply⟩
      · -- a file that ends where it can be read has a size of 64 bits
        have hall := horder.atEnd_iff.mp hend
        have hlast := horder.end_lt
        refine ⟨?_, by omega⟩
        rw [List.take_of_length_le (Nat.le_of_lt hall)]
        exact List.append_nil data
      · exact nomatch silent.symm.trans hreply
      · exact nomatch silent.symm.trans hreply
  | @onward _ _ _ number payload received acks answered _ ih =>
      rw [← hfile] at acks
      rcases acks.reply_cases config hfound horder hnumber with
        ⟨-, hreply⟩ | ⟨failure, hreply⟩ | ⟨after, hafter, hnext, hsame, hlast, hreply⟩
      · exact nomatch answered.symm.trans hreply
      · exact nomatch answered.symm.trans hreply
      · have hblock : Packet.data number payload =
            transfer.packetOf data (transfer.lastSent.toNat + 1) :=
          Option.some.inj (answered.symm.trans hreply)
        obtain ⟨rfl, rfl⟩ := Packet.data.inj hblock
        obtain ⟨hrest, hlength⟩ := ih hafter (hsame.file_eq.trans hfile) hnext (by rw [hlast]; rfl)
        refine ⟨?_, hlength⟩
        rw [hlast, hsame.blockSize_eq, ← take_append_blockOctets, List.append_assoc] at hrest
        exact hrest
  | aside absent kept _ ih =>
      exact ih ((Sessions.transfer?_congr kept).trans hfound) hfile horder hnumber

/-! ## From the request on -/

theorem Starts.sending (h : Starts disk transfer options started packet)
    (hfresh : transfer.Fresh) :
    Sending transfer.blockSize.toNat started (payloads [packet]) := by
  have hstart : Sending transfer.blockSize.toNat (some transfer) [] := by
    refine ⟨framed_nil _, ?_, fun _ _ _ => nofun⟩
    rintro _ ⟨⟩
    rfl
  cases h with
  | failed => exact .none (framed_nil _)
  | started hfirst =>
      unfold firstPacket at hfirst
      split at hfirst
      · exact hstart.sendBlock hfresh.atEnd_eq hfirst
      · obtain ⟨rfl, rfl⟩ := Prod.mk.inj (Except.ok.inj hfirst)
        have hsilent : payloads [.optionAck (granted options transfer.size)] = [] := rfl
        exact hstart.silent hsilent

theorem inOrder_of_firstPacket (hfresh : transfer.Fresh)
    (hfile : disk.content transfer.file = data)
    (hfirst : firstPacket disk transfer options = .ok (after, packet)) :
    after.InOrder data ∧ after.SameFile transfer ∧
      packet.number = UInt16.ofNat after.lastSent.toNat ∧
      (payloads [packet]).flatten =
        data.take (after.lastSent.toNat * after.blockSize.toNat) := by
  have horder := hfresh.inOrder data
  have hzero := hfresh.lastSent_eq
  unfold firstPacket at hfirst
  split at hfirst
  · have hone : transfer.lastSent + 1 = 1 := by rw [hzero, UInt64.zero_add]
    rw [← hone] at hfirst
    obtain ⟨hafter, hsame, hlast, rfl⟩ := horder.sendBlock hfile hfresh.atEnd_eq hfirst
    refine ⟨hafter, hsame, by rw [hlast]; rfl, ?_⟩
    rw [hlast, hsame.blockSize_eq, ← take_append_blockOctets, hzero]
    simp [payloads, Packet.payload?, Transfer.packetOf, blockPacket]
  · obtain ⟨rfl, rfl⟩ := Prod.mk.inj (Except.ok.inj hfirst)
    refine ⟨horder, ⟨rfl, rfl, rfl⟩, by rw [hzero]; rfl, ?_⟩
    rw [hzero, UInt64.toNat_zero, Nat.zero_mul]
    rfl

theorem exists_downloads (config : Config) {current : Nat}
    (hholds : disk.Holds origin.file data) (hsize : data.length < Transfer.fileLimit)
    (hawaits : Awaits client data origin transfer sessions current)
    (hshows : Shows origin data current latest) :
    ∃ received, Downloads config client origin.file data sessions latest received := by
  have hacks : ∀ {current latest}, Shows origin data current latest →
      (Arrival.mk disk 0 client 0 (.ack latest.number)).AcksBlock client origin.file data current :=
    fun hshows => ⟨rfl, congrArg Packet.ack hshows.number_eq, hholds⟩
  have hle : current ≤ lastBlock data origin.blockSize.toNat := by
    rw [← hawaits.latest, ← hawaits.same.blockSize_eq]
    exact hawaits.consistent.lastSent_le
  -- on the blocks that are left
  induction hleft : lastBlock data origin.blockSize.toNat - current
    generalizing transfer sessions current latest with
  | zero =>
      obtain ⟨hreply, -⟩ := hawaits.finished config (by omega) (hacks hshows)
      exact ⟨[], .finish ⟨rfl, rfl, hholds.content_eq⟩ hreply⟩
  | succ left ih =>
      obtain ⟨hreply, -, after, hafter⟩ :=
        hawaits.answered config hsize (by omega) (hacks hshows) (Nat.le_refl _) (by omega)
      obtain ⟨received, hreceived⟩ :=
        ih hafter (.inr ⟨Nat.succ_pos _, rfl⟩) (by omega) (by omega)
      exact ⟨_, .onward ⟨rfl, rfl, hholds.content_eq⟩ hreply hreceived⟩

/-- Without a transfer there is nothing to read: every acknowledgement is answered by an error. -/
theorem not_downloads (hnone : sessions.transfer? client = none) :
    ¬ Downloads config client file data sessions latest received := by
  have herror : ∀ {sessions : Sessions} {latest : Packet} {ack : Arrival},
      sessions.transfer? client = none → ack.AcksPacket client file data latest →
        (ack.outcome config sessions).reply = some Failure.unknownTransfer.packet := by
    rintro sessions latest ack hnone ⟨rfl, hpacket, -⟩
    have hreaction := ack.reaction config sessions
    rw [hnone] at hreaction
    exact (hreaction.of_no_transfer (by rw [hpacket]; rfl)).2
  intro h
  induction h with
  | finish acks silent => exact nomatch silent.symm.trans (herror hnone acks)
  | onward acks answered _ _ => exact nomatch answered.symm.trans (herror hnone acks)
  | aside absent kept _ ih =>
      exact ih ((Sessions.transfer?_congr kept).trans hnone)

/-- A read request that opens a file fails only where the first packet of it fails. -/
theorem Arrival.ReadFails.firstPacket_eq {fileName : String} {failure : Failure}
    {events : List TransferEvent} (h : request.ReadFails config fileName options failure events)
    (hopen : openRequested config request.disk fileName = .ok opened) :
    firstPacket request.disk (settled opened options) options = .error failure := by
  cases h with
  | unopened hother => exact nomatch hopen.symm.trans hother
  | unstarted hother hfirst =>
      obtain rfl := Except.ok.inj (hopen.symm.trans hother)
      exact hfirst

/-- A read request that opens a file is answered in one way, whatever came before it. -/
theorem Arrival.starts_of_opened (config : Config) {fileName mode : String}
    (hpacket : request.packet = .readRequest fileName mode options)
    (hopen : openRequested config request.disk fileName = .ok opened) :
    ∃ started reply, Starts request.disk (settled opened options) options started reply ∧
      ∀ sessions, (request.outcome config sessions).reply = some reply ∧
        (request.outcome config sessions).sessions.get? request.client =
          some (request.session started) := by
  have hreads := fun sessions => (request.reaction config sessions).of_reads hpacket
  cases hfirst : firstPacket request.disk (settled opened options) options with
  | ok first =>
      refine ⟨some first.1, first.2, .started hfirst, fun sessions => ?_⟩
      rcases hreads sessions with
        ⟨failure, hfails, -⟩ | ⟨other, moved, reply, hother, hmoved, hleft, hreply, -⟩
      · exact nomatch hfirst.symm.trans (hfails.firstPacket_eq hopen)
      · obtain rfl := Except.ok.inj (hopen.symm.trans hother)
        obtain rfl := Except.ok.inj (hfirst.symm.trans hmoved)
        exact ⟨hreply, hleft⟩
  | error failure =>
      refine ⟨none, failure.packet, .failed hfirst, fun sessions => ?_⟩
      rcases hreads sessions with
        ⟨other, hfails, hleft, hreply⟩ | ⟨other, moved, reply, hother, hmoved, -⟩
      · obtain rfl := Except.error.inj (hfirst.symm.trans (hfails.firstPacket_eq hopen))
        exact ⟨hreply, hleft⟩
      · obtain rfl := Except.ok.inj (hopen.symm.trans hother)
        exact nomatch hfirst.symm.trans hmoved

/-- Read in order from its first packet on, a transfer gives the whole file. -/
theorem Starts.flatten_eq (h : Starts disk origin options started packet) (hfresh : origin.Fresh)
    (hfile : disk.content origin.file = data) (hfound : sessions.transfer? client = started)
    (hreads : Downloads config client origin.file data sessions packet received) :
    (payloads (packet :: received)).flatten = data ∧ data.length < 2 ^ 64 := by
  cases h with
  | failed => exact absurd hreads (not_downloads hfound)
  | started hfirst =>
      obtain ⟨horder, hsame, hnumber, hfront⟩ := inOrder_of_firstPacket hfresh hfile hfirst
      obtain ⟨hall, hlength⟩ := hreads.flatten_eq hfound hsame.file_eq horder hnumber
      rw [← hfront, ← List.flatten_append, ← payloads_append] at hall
      exact ⟨hall, hlength⟩

/-- A transfer that starts can be read to its end. -/
theorem Arrival.Opens.exists_downloads (hopens : request.Opens config origin)
    (hfile : request.disk.content origin.file = data) (hsize : data.length < Transfer.fileLimit)
    (hreply : (request.outcome config sessions).reply = some packet) :
    ∃ received, Downloads config request.client origin.file data
      (request.outcome config sessions).sessions packet received := by
  obtain ⟨first, transfer, hother, hshows, -, hawaits⟩ := Awaits.start hopens hfile hsize sessions
  obtain rfl := Option.some.inj (hreply.symm.trans hother)
  -- the file is read on from a disk that refuses nothing and holds the same
  have hreadable : { request.disk with refusals := {} }.Readable := Disk.readable_of_refusals_eq rfl
  have hholds := hreadable.holds origin.file
  subst hfile
  exact Tftp.exists_downloads config hholds hsize hawaits hshows

/-- A read request that opens a file, whatever came before it, is answered by the options that are
granted, or by the first block if none are; a first block that cannot be read is answered with an
error. The blocks that the client is sent until it asks for a file again have the block size that
was granted, and only the last one is shorter. A client that reads in order gets to the end of the
file, and then has as many octets as it was told. -/
theorem negotiated_is_sent (config : Config) (timeout : Nat) (past : List Call) (request : Arrival)
    {fileName mode : String} {options : Options} {opened : Transfer}
    (hpacket : request.packet = .readRequest fileName mode options)
    (hopen : openRequested config request.disk fileName = .ok opened) :
    let outcome := request.outcome config (afterCalls config (.empty timeout) past)
    let reads := Downloads config request.client opened.file (request.disk.content opened.file)
      outcome.sessions
    ∃ size blockSizeGrant sizeGrant reply,
      BlockSizeGrant options size blockSizeGrant ∧
      SizeGrant options opened.size.toNat sizeGrant ∧
      outcome.reply = some reply ∧
      (Asks options → reply = .optionAck (blockSizeGrant ++ sizeGrant)) ∧
      (¬ Asks options → FirstBlock request.disk opened.file size reply) ∧
      (∀ later, AsksNothing request.client later →
        Framed size (payloads (reply :: repliesOver config request.client outcome.sessions later))) ∧
      (∀ received, reads reply received →
        (payloads (reply :: received)).flatten.length = opened.size.toNat) ∧
      (reply.isError = false → (request.disk.content opened.file).length < 2 ^ 63 →
        ∃ received, reads reply received) ∧
      ∀ other : Sessions, (request.outcome config other).reply = some reply ∧
        (request.outcome config other).sessions.get? request.client =
          outcome.sessions.get? request.client := by
  intro outcome reads
  obtain ⟨started, reply, hstarts, halways⟩ := request.starts_of_opened config hpacket hopen
  obtain ⟨hreply, hleft⟩ := halways (afterCalls config (.empty timeout) past)
  have hdistinct : outcome.sessions.table.Distinct :=
    (Call.occasion (.packet request)).distinct config
      (distinct_afterCalls config Table.distinct_empty past)
  have htransfer : outcome.sessions.transfer? request.client = started :=
    Sessions.transfer?_of_get? hleft
  obtain ⟨names, place, file, -, -, hfile⟩ := openRequested_eq_ok hopen
  have hdefault : opened.blockSize = defaultBlockSize := by
    rw [hfile]
    rfl
  obtain ⟨blockSizeGrant, sizeGrant, hblockSize, hsize, hgranted, hnothing⟩ :=
    grants_of_settled hdefault options
  have hpackets := hstarts.packet_cases
  rw [size_settled, file_settled, hnothing, ← Bool.not_eq_true, hnothing, not_not] at hpackets
  have hfresh := fresh_settled hopen options
  have hsame : reads = Downloads config request.client (settled opened options).file
      (request.disk.content (settled opened options).file) outcome.sessions := by
    rw [file_settled]
  refine ⟨_, blockSizeGrant, sizeGrant, reply, hblockSize, hsize, hreply, ?_, ?_, ?_, ?_, ?_,
    fun other => ⟨(halways other).1, (halways other).2.trans hleft.symm⟩⟩
  · intro hasks
    rcases hpackets with ⟨-, hoptions⟩ | ⟨hnot, -⟩
    · rw [hoptions, hgranted]
    · exact absurd hasks hnot
  · intro hnot
    exact (hpackets.resolve_left fun hoptions => hnot hoptions.1).2
  · intro later hasks
    have hsending := hstarts.sending hfresh
    rw [← htransfer] at hsending
    have hframed := framed_repliesOver config hdistinct hasks hsending
    rwa [← payloads_append] at hframed
  · intro received hreads
    rw [hsame] at hreads
    obtain ⟨hall, hlength⟩ := hstarts.flatten_eq hfresh rfl htransfer hreads
    rw [hall, file_settled, hfile, Transfer.ofFile, UInt64.toNat_ofNat']
    rw [file_settled, hfile] at hlength
    exact (Nat.mod_eq_of_lt hlength).symm
  · intro hstarted hlimit
    cases hstarts with
    | failed => exact Bool.noConfusion hstarted
    | started hfirst =>
        have hopens : request.Opens config (settled opened options) :=
          ⟨fileName, mode, options, opened, hpacket, hopen, rfl, _, hfirst⟩
        rw [← file_settled opened options] at hlimit
        rw [hsame]
        exact hopens.exists_downloads rfl hlimit hreply

namespace Small

/-- The client asks for a block size in a clumsy way, asks again, and asks for the size. -/
def bargain : Arrival :=
  { Small.request with
    packet := .readRequest "kernel" "octet"
      [("blksize", " +012 "), ("blksize", "8"), ("windowsize", "4"), ("tsize", "")] }

end Small

/-- The client is granted what it asked for first, and gets the 28 octets of the file. -/
theorem small_negotiated_is_sent :
    let outcome := Small.bargain.outcome Small.config (.empty 0)
    let reads := Downloads Small.config Small.client 0 Small.data outcome.sessions
    let reply : Packet := .optionAck [("blksize", "12"), ("tsize", "28")]
    outcome.reply = some reply ∧ (∃ received, reads reply received) ∧
      ∀ received, reads reply received → (payloads received).flatten.length = 28 := by
  intro outcome reads reply
  have hreply : outcome.reply = some reply := by decide +kernel
  have hopen : openRequested Small.config Small.disk "kernel" =
      .ok (Transfer.ofFile Small.disk "kernel" 0) := rfl
  obtain ⟨size, blockSizeGrant, sizeGrant, first, -, -, hfirst, -, -, -, htotal, hexists, -⟩ :=
    negotiated_is_sent Small.config 0 [] Small.bargain rfl hopen
  obtain rfl := Option.some.inj (hfirst.symm.trans hreply)
  exact ⟨hreply, hexists rfl (by decide), htotal⟩

end BootServer.Tftp
