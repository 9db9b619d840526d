import BootServer.Proofs.Tftp.Delivery

/-!
# Late acknowledgements

A client acknowledges blocks that were really sent, possibly late, again, or out of order. An
acknowledgement is answered by the block after the acknowledged one exactly if the acknowledged
block is not past the one that was sent latest. Answering a late acknowledgement moves the latest
block back, so the acknowledgement of a block sent before may then be past it; it is answered by an
earlier block, and by the first one as long as the numbers have not wrapped around.
-/

namespace BootServer.Tftp

/-- The block that a client's transfer has sent latest; 0 before the first one. -/
def latestBlock (sessions : Sessions) (client : IPv4) : Nat :=
  ((sessions.transfer? client).map (·.lastSent.toNat)).getD 0

/-- How many blocks an acknowledgement may lag behind the largest one sent. -/
def lagMax : Nat := 32767

/-- A client acknowledges a block that was really sent, `largest` being the largest one sent. -/
structure Arrival.AcksSent (ack : Arrival) (client : IPv4) (file : FileId) (data : Bytes)
    (largest block : Nat) : Prop where
  client_eq : ack.client = client
  packet_eq : ack.packet = .ack (UInt16.ofNat block)
  content_eq : ack.disk.content file = data
  recent : largest - lagMax ≤ block
  sent : block ≤ largest

/-- What a read request and acknowledgements of blocks that were really sent lead to: the sessions,
and the largest block sent so far. -/
inductive Reached (config : Config) (before : Sessions) (request : Arrival) (origin : Transfer)
    (data : Bytes) : Sessions → Nat → Prop
  | requested : Reached config before request origin data (request.outcome config before).sessions
      (latestBlock (request.outcome config before).sessions request.client)
  | acknowledged {sessions : Sessions} {largest : Nat} (ack : Arrival) (block : Nat)
      (reached : Reached config before request origin data sessions largest)
      (acks : ack.AcksSent request.client origin.file data largest block) :
      Reached config before request origin data (ack.outcome config sessions).sessions
        (max largest (latestBlock (ack.outcome config sessions).sessions request.client))

section

variable {config : Config} {before sessions : Sessions} {request ack : Arrival}
  {client : IPv4} {origin transfer : Transfer} {data : Bytes} {largest block : Nat}

theorem latestBlock_eq (h : sessions.transfer? client = some transfer) :
    latestBlock sessions client = transfer.lastSent.toNat := by
  rw [latestBlock, h]
  rfl

theorem Arrival.AcksSent.acknowledges {file : FileId}
    (h : ack.AcksSent client file data largest block) : ack.Acknowledges client file data where
  client_eq := h.client_eq
  acknowledged := by
    rw [h.packet_eq]
    rfl
  content_eq := h.content_eq

/-- Everything reached is a course of the transfer, and the latest block is one of those sent. -/
theorem Reached.underway (h : Reached config before request origin data sessions largest)
    (hopens : request.Opens config origin) (hfile : request.disk.content origin.file = data)
    (hsize : data.length < Transfer.fileLimit) :
    ∃ transfer past, Underway (fun _ => True) request.client data origin transfer sessions past ∧
      transfer.lastSent.toNat ≤ largest := by
  induction h with
  | requested =>
      obtain ⟨transfer, hstart⟩ := Underway.start _ hopens hfile hsize before
      exact ⟨transfer, _, hstart, Nat.le_of_eq (latestBlock_eq hstart.found).symm⟩
  | acknowledged ack block _ acks ih =>
      obtain ⟨transfer, past, hunderway, -⟩ := ih
      obtain ⟨after, hafter⟩ := hunderway.step config hsize acks.acknowledges fun _ _ => trivial
      refine ⟨after, _, hafter, ?_⟩
      rw [← latestBlock_eq hafter.found]
      exact Nat.le_max_right _ _

/-- A block past the latest one is taken for an earlier block, and for block 0 before the numbers
wrap around. -/
theorem ackedBlock_past {lastSent : UInt64} (hpast : lastSent.toNat < block)
    (hsmall : block < 65536) : (ackedBlock lastSent (UInt16.ofNat block)).toNat = 0 := by
  rw [toNat_ackedBlock, UInt16.toNat_ofNat']
  omega

end

/-- Before the end of a file that can be read, the acknowledgement of a block that was really sent
is answered by the next block exactly if the acknowledged block is not past the latest one. Past it,
a block no later than the next after the latest one is sent again, the first one before the numbers
wrap around. -/
theorem next_block_sent_iff (config : Config) (before : Sessions) (request : Arrival)
    (origin : Transfer) (data : Bytes) (hopens : request.Opens config origin)
    (hfile : request.disk.content origin.file = data) (hsize : data.length < 2 ^ 63)
    (sessions : Sessions) (largest : Nat)
    (hreached : Reached config before request origin data sessions largest)
    (hopen : ∀ transfer, sessions.transfer? request.client = some transfer →
      transfer.atEnd = false)
    (ack : Arrival) (block : Nat)
    (hack : ack.AcksSent request.client origin.file data largest block)
    (hholds : ack.disk.Holds origin.file data) :
    let size := origin.blockSize.toNat
    let latest := latestBlock sessions request.client
    let outcome := ack.outcome config sessions
    ((outcome.reply = some (.data (UInt16.ofNat (block + 1))
          (data.extract (block * size) (min ((block + 1) * size) data.length))) ∧
        latestBlock outcome.sessions request.client = block + 1) ↔ block ≤ latest) ∧
    (latest < block → ∃ again ≤ latest,
      outcome.reply = some (blockPacket data size (again + 1)) ∧
        latestBlock outcome.sessions request.client = again + 1 ∧
          (largest < 65536 → again = 0)) := by
  intro size latest outcome
  obtain ⟨transfer, past, hunderway, hle⟩ := hreached.underway hopens hfile hsize
  have hlatest : latest = transfer.lastSent.toNat := latestBlock_eq hunderway.found
  have hend : transfer.atEnd = false := hopen transfer hunderway.found
  have hwire : ack.packet.acknowledged? = some (UInt16.ofNat block) := by
    rw [hack.packet_eq]
    rfl
  have hacks := hack.acknowledges
  rw [← hunderway.same.file_eq] at hacks hholds
  have hacked := ackedBlock_le transfer.lastSent (UInt16.ofNat block)
  rcases hacks.outcome_cases config hwire hunderway.found hunderway.consistent hsize
    with ⟨-, hfound, hreply, -⟩ | ⟨hclosed, -⟩ | ⟨hclosed, -⟩ | ⟨-, cause, hrefuses, -⟩
  · have hcount : latestBlock outcome.sessions request.client =
        (ackedBlock transfer.lastSent (UInt16.ofNat block)).toNat + 1 := by
      rw [latestBlock_eq hfound, Transfer.sent]
      exact hunderway.consistent.toNat_acked_succ hsize hend _
    rw [hunderway.same.packetOf_eq] at hreply
    refine ⟨⟨?_, ?_⟩, ?_⟩
    · rintro ⟨-, hnext⟩
      omega
    · intro hpast
      have hrecent := hack.recent
      have heq : (ackedBlock transfer.lastSent (UInt16.ofNat block)).toNat = block :=
        ackedBlock_ofNat (by omega) (by unfold lagMax at hrecent; omega)
      rw [heq] at hreply hcount
      exact ⟨hreply, hcount⟩
    · intro hpast
      refine ⟨_, by omega, hreply, hcount, ?_⟩
      intro hsmall
      have hsent := hack.sent
      exact ackedBlock_past (by omega) (by omega)
  · exact absurd hclosed (by simp [hend])
  · exact absurd hclosed (by simp [hend])
  · exact absurd hrefuses (hholds.readable cause)

namespace Small

theorem ack_acksSent (wire : UInt16) {largest : Nat} (hrecent : largest - lagMax ≤ wire.toNat)
    (hsent : wire.toNat ≤ largest) :
    (ack wire).AcksSent client transfer.file data largest wire.toNat :=
  ⟨rfl, congrArg Packet.ack UInt16.ofNat_toNat.symm, rfl, hrecent, hsent⟩

theorem latestBlock_after_one : latestBlock (after [0]) client = 1 := rfl

theorem latestBlock_after_two : latestBlock (after [0, 1]) client = 2 := rfl

theorem largest_after_back : max 2 (latestBlock (after [0, 1, 0]) client) = 2 := rfl

theorem reached_one : Reached config (.empty 0) request transfer data (after [0]) 1 := by
  have hstart : Reached config (.empty 0) request transfer data (after []) 0 := .requested
  have hstep := Reached.acknowledged (ack 0) 0 hstart (ack_acksSent 0 (by decide) (by decide))
  exact latestBlock_after_one ▸ hstep

theorem reached_two : Reached config (.empty 0) request transfer data (after [0, 1]) 2 := by
  have hstep := Reached.acknowledged (ack 1) 1 reached_one
    (ack_acksSent 1 (by decide) (by decide))
  exact latestBlock_after_two ▸ hstep

theorem reached_back : Reached config (.empty 0) request transfer data (after [0, 1, 0]) 2 := by
  have hstep := Reached.acknowledged (ack 0) 0 reached_two
    (ack_acksSent 0 (by decide) (by decide))
  exact largest_after_back ▸ hstep

end Small

/-- Block 1 is acknowledged again after block 2 was sent, and block 2 is sent again. -/
theorem small_next_block_sent :
    ((Small.ack 1).outcome Small.config (Small.after [0, 1])).reply =
      some (.data 2 (Small.data.extract 8 16)) := by
  have hlate := (next_block_sent_iff Small.config (.empty 0) Small.request Small.transfer
    Small.data Small.request_opens rfl (by decide) (Small.after [0, 1]) 2 Small.reached_two
    (fun _ htransfer => (Option.some.inj htransfer) ▸ rfl) (Small.ack 1) 1
    (Small.ack_acksSent 1 (by decide) (by decide)) Small.disk_holds).1
  exact (hlate.mpr (by decide)).1

/-- Blocks 1 and 2 were sent, block 0 was acknowledged late, and now block 2 is acknowledged: the
reply is not block 3 but block 1. -/
theorem late_ack_restarts :
    Reached Small.config (.empty 0) Small.request Small.transfer Small.data
      (Small.after [0, 1, 0]) 2 ∧
    (Small.ack 2).AcksSent Small.client Small.transfer.file Small.data 2 2 ∧
    (∀ transfer, (Small.after [0, 1, 0]).transfer? Small.client = some transfer →
      transfer.atEnd = false) ∧
    ((Small.ack 2).outcome Small.config (Small.after [0, 1, 0])).reply =
      some (blockPacket Small.data 8 1) ∧
    ((Small.ack 2).outcome Small.config (Small.after [0, 1, 0])).reply ≠
      some (blockPacket Small.data 8 3) := by
  have hreply : ((Small.ack 2).outcome Small.config (Small.after [0, 1, 0])).reply =
      some (blockPacket Small.data 8 1) := rfl
  refine ⟨Small.reached_back, Small.ack_acksSent 2 (by decide) (by decide), ?_, hreply, ?_⟩
  · intro transfer htransfer
    exact Option.some.inj htransfer ▸ rfl
  · rw [hreply]
    decide

end BootServer.Tftp
