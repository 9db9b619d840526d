import BootServer.Proofs.Tftp.Delivery

/-!
# Reading in lock-step

A client acknowledges each block by the block's own number, and may repeat the acknowledgement
before as long as the file has not ended. It is sent every block of the file once, in order, and
besides them the current block again for each repetition; the blocks put together are the file, and
with the acknowledgement of the last one the transfer is announced to be complete.
-/

namespace BootServer.Tftp

/-- What a client sends in lock-step: an acknowledgement, for the first time or repeated. -/
structure Turn where
  ack : Arrival
  repeated : Bool

/-- A client reads on in lock-step up to block `last`. Block `current` is the one that it received
latest, or 0 if it received options. It acknowledges this block; before that, unless the block is
the last one, it may repeat the acknowledgement that the block answered. -/
inductive LockStep (client : IPv4) (file : FileId) (data : Bytes) (last : Nat) :
    Nat → List Turn → Prop
  | finish {ack : Arrival} (acks : ack.AcksBlock client file data last) :
      LockStep client file data last last [⟨ack, false⟩]
  | onward {current : Nat} {ack : Arrival} {rest : List Turn} (more : current < last)
      (acks : ack.AcksBlock client file data current)
      (next : LockStep client file data last (current + 1) rest) :
      LockStep client file data last current (⟨ack, false⟩ :: rest)
  | again {current : Nat} {ack : Arrival} {rest : List Turn} (received : 0 < current)
      (more : current < last) (acks : ack.AcksBlock client file data (current - 1))
      (next : LockStep client file data last current rest) :
      LockStep client file data last current (⟨ack, true⟩ :: rest)

/-- The number by which a packet is acknowledged: a block's own number, and 0 for options. -/
def Packet.number : Packet → UInt16
  | .data number _ => number
  | _ => 0

def Packet.isData : Packet → Bool
  | .data .. => true
  | _ => false

/-- The replies to acknowledgements that were sent for the first time. -/
def firstReplies : List Turn → List Outcome → List Packet
  | turn :: turns, outcome :: run =>
    if turn.repeated then firstReplies turns run
    else outcome.reply.toList ++ firstReplies turns run
  | _, _ => []

/-- Acknowledgements and replies in step, `latest` being the packet that came before them: what is
acknowledged for the first time is the latest packet, a repetition is answered by the latest packet
again, and only the last acknowledgement is not answered. -/
inductive InStep : Packet → List Turn → List Outcome → Prop
  | finish {latest : Packet} {ack : Arrival} {outcome : Outcome}
      (own : ack.packet = .ack latest.number) (silent : outcome.reply = none) :
      InStep latest [⟨ack, false⟩] [outcome]
  | onward {latest next : Packet} {ack : Arrival} {outcome : Outcome} {turns : List Turn}
      {run : List Outcome} (own : ack.packet = .ack latest.number)
      (answered : outcome.reply = some next) (rest : InStep next turns run) :
      InStep latest (⟨ack, false⟩ :: turns) (outcome :: run)
  | again {latest : Packet} {ack : Arrival} {outcome : Outcome} {turns : List Turn}
      {run : List Outcome} (same : outcome.reply = some latest) (rest : InStep latest turns run) :
      InStep latest (⟨ack, true⟩ :: turns) (outcome :: run)

theorem Transfer.SameFile.sent {transfer origin : Transfer} (h : transfer.SameFile origin)
    (data : Bytes) (block : UInt64) : (transfer.sent data block).SameFile origin :=
  ⟨h.path_eq, h.file_eq, h.blockSize_eq⟩

/-- The transfer that started as `origin` has sent a block latest, or nothing if it is block 0, and
waits for its acknowledgement. -/
structure Awaits (client : IPv4) (data : Bytes) (origin transfer : Transfer) (sessions : Sessions)
    (block : Nat) : Prop where
  found : sessions.transfer? client = some transfer
  same : transfer.SameFile origin
  consistent : transfer.Consistent data
  latest : transfer.lastSent.toNat = block
  completed_eq : transfer.completed = false

section

variable {config : Config} {client : IPv4} {data : Bytes} {origin transfer : Transfer}
  {sessions : Sessions} {ack : Arrival} {current acked : Nat}

namespace Awaits

/-- Before the last block, an acknowledgement of the current block or one before is answered by the
block after it. -/
theorem answered (h : Awaits client data origin transfer sessions current) (config : Config)
    (hsize : data.length < Transfer.fileLimit)
    (hmore : current < lastBlock data origin.blockSize.toNat)
    (hack : ack.AcksBlock client origin.file data acked) (hle : acked ≤ current)
    (hnear : current < acked + 65536) :
    (ack.outcome config sessions).reply = some (origin.packetOf data (acked + 1)) ∧
      (ack.outcome config sessions).events = [] ∧
      ∃ after, Awaits client data origin after (ack.outcome config sessions).sessions
        (acked + 1) := by
  have hend : transfer.atEnd = false := by
    rw [Bool.eq_false_iff, Ne, h.consistent.atEnd_iff, h.latest, h.same.blockSize_eq]
    exact Nat.ne_of_lt hmore
  have hacks := hack.acknowledges
  have hholds := hack.holds
  rw [← h.same.file_eq] at hacks hholds
  have heq : (ackedBlock transfer.lastSent (UInt16.ofNat acked)).toNat = acked := by
    rw [← h.latest] at hle hnear
    exact ackedBlock_ofNat hle hnear
  have hsucc := h.consistent.toNat_acked_succ hsize hend (UInt16.ofNat acked)
  have hlt := h.consistent.acked_lt_lastBlock hend (UInt16.ofNat acked)
  rcases hacks.outcome_cases config hack.acknowledged_eq h.found h.consistent hsize with
    ⟨-, hfound, hreply, hevents⟩ | ⟨hclosed, -⟩ | ⟨hclosed, -⟩ | ⟨-, cause, hrefuses, -⟩
  · have hconsistent := h.consistent.sent hend (Nat.le_trans (Nat.le_of_eq hsucc) hlt)
    rw [heq] at hsucc
    rw [heq, h.same.packetOf_eq] at hreply
    exact ⟨hreply, hevents, _, hfound, h.same.sent data _, hconsistent, hsucc, h.completed_eq⟩
  · exact absurd hclosed (by simp [hend])
  · exact absurd hclosed (by simp [hend])
  · exact absurd hrefuses (hholds.readable cause)

/-- The acknowledgement of the last block is not answered, and the transfer is complete. -/
theorem finished (h : Awaits client data origin transfer sessions current) (config : Config)
    (hlast : current = lastBlock data origin.blockSize.toNat)
    (hack : ack.AcksBlock client origin.file data current) :
    (ack.outcome config sessions).reply = none ∧
      (ack.outcome config sessions).events =
        [.completed client origin.path transfer.lastSent] := by
  have hend : transfer.atEnd = true := by
    rw [h.consistent.atEnd_iff, h.latest, h.same.blockSize_eq]
    exact hlast
  have hacked : ackedBlock transfer.lastSent (UInt16.ofNat current) = transfer.lastSent := by
    apply UInt64.toNat_inj.mp
    rw [ackedBlock_ofNat (Nat.le_of_eq h.latest.symm) (by rw [h.latest]; omega), h.latest]
  have hfound : sessions.transfer? ack.client = some transfer := by
    rw [hack.client_eq]
    exact h.found
  obtain ⟨-, hreply, hevents⟩ : _ ∧ (ack.outcome config sessions).reply = _ ∧ _ :=
    Arrival.outcome_acknowledges hack.acknowledged_eq hfound
      (Transfer.acknowledge_last hend h.completed_eq hacked)
  refine ⟨hreply, ?_⟩
  rw [hevents, hack.client_eq, ← h.same.path_eq]
  rfl

end Awaits

/-! ## Courses in lock-step -/

/-- The packet after which a client acknowledges block `current`: that block, or options. -/
def Shows (origin : Transfer) (data : Bytes) (current : Nat) (latest : Packet) : Prop :=
  (current = 0 ∧ ∃ granted, latest = .optionAck granted) ∨
    (0 < current ∧ latest = origin.packetOf data current)

theorem Shows.number_eq {latest : Packet} (h : Shows origin data current latest) :
    latest.number = UInt16.ofNat current := by
  rcases h with ⟨rfl, granted, rfl⟩ | ⟨-, rfl⟩ <;> rfl

theorem completions_cons (outcome : Outcome) (run : List Outcome) :
    completions (outcome :: run) = outcome.events.filter isCompletion ++ completions run := by
  simp [completions]

/-- What becomes of a course in lock-step after block `current` with the packet `latest`. -/
structure Delivered (client : IPv4) (data : Bytes) (origin : Transfer) (current : Nat)
    (latest : Packet) (turns : List Turn) (run : List Outcome) : Prop where
  inStep : InStep latest turns run
  firstReplies_eq : firstReplies turns run =
    (List.range' (current + 1) (lastBlock data origin.blockSize.toNat - current)).map
      (origin.packetOf data)
  completed : ∃ blocks : UInt64, blocks.toNat = lastBlock data origin.blockSize.toNat ∧
    run.getLast?.map (·.events) = some [.completed client origin.path blocks] ∧
    completions run = [.completed client origin.path blocks]

namespace Delivered

variable {latest : Packet} {turns : List Turn} {run : List Outcome} {outcome : Outcome}

theorem cons_completed (h : Delivered client data origin acked latest turns run)
    (hevents : outcome.events = []) :
    ∃ blocks : UInt64, blocks.toNat = lastBlock data origin.blockSize.toNat ∧
      (outcome :: run).getLast?.map (·.events) = some [.completed client origin.path blocks] ∧
      completions (outcome :: run) = [.completed client origin.path blocks] := by
  obtain ⟨blocks, hblocks, hlast, hcompletions⟩ := h.completed
  refine ⟨blocks, hblocks, ?_, ?_⟩
  · rw [List.getLast?_cons]
    cases hrun : run.getLast? with
    | none => simp [hrun] at hlast
    | some final => simpa [hrun] using hlast
  · rw [completions_cons, hevents, hcompletions]
    rfl

theorem finish {blocks : UInt64} (hown : ack.packet = .ack latest.number)
    (hreply : outcome.reply = none)
    (hblocks : blocks.toNat = lastBlock data origin.blockSize.toNat)
    (hevents : outcome.events = [.completed client origin.path blocks]) :
    Delivered client data origin (lastBlock data origin.blockSize.toNat) latest [⟨ack, false⟩]
      [outcome] where
  inStep := .finish hown hreply
  firstReplies_eq := by simp [firstReplies, hreply]
  completed := ⟨blocks, hblocks, by simp [hevents], by simp [completions, hevents, isCompletion]⟩

theorem onward (hmore : current < lastBlock data origin.blockSize.toNat)
    (hown : ack.packet = .ack latest.number)
    (hreply : outcome.reply = some (origin.packetOf data (current + 1)))
    (hevents : outcome.events = [])
    (h : Delivered client data origin (current + 1) (origin.packetOf data (current + 1)) turns
      run) :
    Delivered client data origin current latest (⟨ack, false⟩ :: turns) (outcome :: run) where
  inStep := .onward hown hreply h.inStep
  firstReplies_eq := by
    have hcount : lastBlock data origin.blockSize.toNat - current =
        lastBlock data origin.blockSize.toNat - (current + 1) + 1 := by
      omega
    simp [firstReplies, hreply, h.firstReplies_eq, hcount, List.range'_succ]
  completed := h.cons_completed hevents

theorem again (hreply : outcome.reply = some latest) (hevents : outcome.events = [])
    (h : Delivered client data origin current latest turns run) :
    Delivered client data origin current latest (⟨ack, true⟩ :: turns) (outcome :: run) where
  inStep := .again hreply h.inStep
  firstReplies_eq := by
    rw [← h.firstReplies_eq]
    rfl
  completed := h.cons_completed hevents

end Delivered

/-- What one turn after the other comes to. The induction is on the turns; the transfer waits for
the acknowledgement of the current block throughout. -/
theorem LockStep.delivered {turns : List Turn} {latest : Packet}
    (hsize : data.length < Transfer.fileLimit)
    (h : LockStep client origin.file data (lastBlock data origin.blockSize.toNat) current turns)
    (hawaits : Awaits client data origin transfer sessions current)
    (hshows : Shows origin data current latest) :
    Delivered client data origin current latest turns
      (outcomes config sessions (turns.map (·.ack))) := by
  induction h generalizing transfer sessions latest with
  | finish acks =>
      obtain ⟨hreply, hevents⟩ := hawaits.finished config rfl acks
      exact .finish (hshows.number_eq ▸ acks.packet_eq) hreply hawaits.latest hevents
  | onward more acks _ ih =>
      obtain ⟨hreply, hevents, after, hafter⟩ :=
        hawaits.answered config hsize more acks (Nat.le_refl _) (by omega)
      exact .onward more (hshows.number_eq ▸ acks.packet_eq) hreply hevents
        (ih hafter (.inr ⟨Nat.succ_pos _, rfl⟩))
  | again received more acks _ ih =>
      obtain ⟨hreply, hevents, after, hafter⟩ :=
        hawaits.answered config hsize more acks (Nat.sub_le _ _) (by omega)
      rw [Nat.sub_add_cancel received] at hreply hafter
      have hlatest : latest = origin.packetOf data _ :=
        (hshows.resolve_left fun hoptions => Nat.ne_of_gt received hoptions.1).2
      rw [← hlatest] at hreply
      exact .again hreply hevents (ih hafter hshows)

/-! ## From the request on -/

/-- The block after which a client goes on that has got a reply to its request. -/
def Packet.startBlock (reply : Packet) : Nat := if reply.isData then 1 else 0

theorem Awaits.start {request : Arrival} (hopens : request.Opens config origin)
    (hfile : request.disk.content origin.file = data) (hsize : data.length < Transfer.fileLimit)
    (sessions : Sessions) :
    ∃ reply transfer, (request.outcome config sessions).reply = some reply ∧
      Shows origin data reply.startBlock reply ∧
      (request.outcome config sessions).events.filter isCompletion = [] ∧
      Awaits request.client data origin transfer (request.outcome config sessions).sessions
        reply.startBlock := by
  have hfresh := hopens.fresh
  have hconsistent := hfresh.consistent data
  have hsame : origin.SameFile origin := ⟨rfl, rfl, rfl⟩
  obtain ⟨started, reply, hfound, hreply, hevents, hcases⟩ :=
    hopens.outcome_cases hfile hsize sessions
  have hnone : (request.outcome config sessions).events.filter isCompletion = [] := by
    rw [hevents]
    rfl
  rcases hcases with ⟨rfl, granted, rfl⟩ | ⟨rfl, rfl⟩
  · have hlatest : started.lastSent.toNat = 0 := congrArg UInt64.toNat hfresh.lastSent_eq
    exact ⟨_, started, hreply, .inl ⟨rfl, granted, rfl⟩, hnone, hfound, hsame, hconsistent,
      hlatest, hfresh.completed_eq⟩
  · exact ⟨_, _, hreply, .inr ⟨Nat.one_pos, rfl⟩, hnone, hfound, hsame.sent data 1,
      hconsistent.sent hfresh.atEnd_eq (lastBlock_pos _ _), rfl, hfresh.completed_eq⟩

theorem Shows.start_cases {reply : Packet} (h : Shows origin data reply.startBlock reply) :
    (reply.startBlock = 0 ∧ ∃ granted, reply = .optionAck granted) ∨
      (reply.startBlock = 1 ∧ reply = origin.packetOf data 1) := by
  rcases h with ⟨hstart, hoptions⟩ | ⟨-, hreply⟩
  · exact .inl ⟨hstart, hoptions⟩
  · have hstart : reply.startBlock = 1 := by
      rw [hreply]
      rfl
    rw [hstart] at hreply
    exact .inr ⟨hstart, hreply⟩

/-- The data packets of a course in lock-step that are not repeated, the first one perhaps in reply
to the request, are all blocks of the file in order. -/
theorem Shows.dataPackets_eq {reply : Packet} {replies : List Packet}
    (h : Shows origin data reply.startBlock reply)
    (hreplies : replies = (List.range' (reply.startBlock + 1)
      (lastBlock data origin.blockSize.toNat - reply.startBlock)).map (origin.packetOf data)) :
    (reply :: replies).filter Packet.isData =
      (List.range' 1 (lastBlock data origin.blockSize.toNat)).map (origin.packetOf data) := by
  have hall : replies.filter Packet.isData = replies := by
    rw [hreplies, List.filter_eq_self]
    intro packet hpacket
    obtain ⟨block, -, rfl⟩ := List.mem_map.mp hpacket
    rfl
  rcases h.start_cases with ⟨hstart, granted, rfl⟩ | ⟨hstart, rfl⟩
  · rw [List.filter_cons_of_neg (by simp [Packet.isData]), hall, hreplies]
    rfl
  · have hlast : lastBlock data origin.blockSize.toNat =
        data.length / origin.blockSize.toNat + 1 := rfl
    rw [List.filter_cons_of_pos rfl, hall, hreplies, hstart, hlast, Nat.add_sub_cancel,
      List.range'_succ, List.map_cons]

end

/-- A client that acknowledges every packet by its own number, options by 0, and may repeat its
acknowledgement before as long as the file has not ended, is sent each block of the file for the
first time once and in order: `N / B + 1` blocks of `B` octets, of which only the last one is
shorter, and which are the file when they are put together. Repetitions get the latest packet again.
The acknowledgement of the last block is not answered, and announces once that the transfer is
complete. A regular file is shorter than 2^63 octets, since its offsets are signed. -/
theorem lock_step_delivers_file (config : Config) (before : Sessions) (request : Arrival)
    (origin : Transfer) (data : Bytes) (hopens : request.Opens config origin)
    (hfile : request.disk.content origin.file = data) (hsize : data.length < 2 ^ 63) :
    let size := origin.blockSize.toNat
    let last := data.length / size + 1
    let opened := request.outcome config before
    ∃ reply, opened.reply = some reply ∧
      ((∃ granted, reply = .optionAck granted) ∨ reply = .data 1 (data.take size)) ∧
      ∀ turns, LockStep request.client origin.file data last reply.startBlock turns →
        let run := outcomes config opened.sessions (turns.map (·.ack))
        InStep reply turns run ∧
        (∃ payloads : List Bytes,
          (reply :: firstReplies turns run).filter Packet.isData =
            payloads.mapIdx (fun i payload => .data (UInt16.ofNat (i + 1)) payload) ∧
          payloads.length = last ∧ payloads.flatten = data ∧
          (∀ payload ∈ payloads.dropLast, payload.length = size) ∧
          payloads.getLast?.map (·.length) = some (data.length % size)) ∧
        ∃ blocks : UInt64, blocks.toNat = last ∧
          run.getLast?.map (·.events) = some [.completed request.client origin.path blocks] ∧
          completions (opened :: run) = [.completed request.client origin.path blocks] := by
  intro size last opened
  have hpos : 0 < size := hopens.fresh.blockSize_pos
  obtain ⟨reply, transfer, hreply, hshows, hnone, hawaits⟩ :=
    Awaits.start hopens hfile hsize before
  refine ⟨reply, hreply, ?_, ?_⟩
  · rcases hshows.start_cases with ⟨-, hoptions⟩ | ⟨-, hblock⟩
    · exact .inl hoptions
    · rw [Transfer.packetOf, blockPacket, blockOctets_eq_slice Nat.one_pos] at hblock
      simp [hblock, Bytes.slice, size]
  · intro turns hturns run
    have hdelivered : Delivered request.client data origin reply.startBlock reply turns run :=
      hturns.delivered hsize hawaits hshows
    refine ⟨hdelivered.inStep, ⟨allBlocks data size, ?_, length_allBlocks data size,
      flatten_allBlocks hpos, fun _ => length_of_mem_dropLast, length_getLast?_allBlocks hpos⟩, ?_⟩
    · rw [hshows.dataPackets_eq hdelivered.firstReplies_eq]
      exact map_blockPacket_eq data size
    · obtain ⟨blocks, hblocks, hfinal, hcompletions⟩ := hdelivered.completed
      refine ⟨blocks, hblocks, hfinal, ?_⟩
      rw [completions_cons, hnone, hcompletions]
      rfl

namespace Small

/-- The client acknowledges options, repeats that, and repeats its acknowledgement of block 1. -/
def turns : List Turn :=
  [⟨ack 0, false⟩, ⟨ack 0, true⟩, ⟨ack 1, false⟩, ⟨ack 1, true⟩, ⟨ack 2, false⟩, ⟨ack 3, false⟩,
    ⟨ack 4, false⟩]

theorem ack_acksBlock (wire : UInt16) :
    (ack wire).AcksBlock client transfer.file data wire.toNat :=
  ⟨rfl, congrArg Packet.ack UInt16.ofNat_toNat.symm, disk_holds⟩

theorem turns_lockStep : LockStep client transfer.file data 4 0 turns :=
  .onward (by decide) (ack_acksBlock 0)
    (.again (by decide) (by decide) (ack_acksBlock 0)
      (.onward (by decide) (ack_acksBlock 1)
        (.again (by decide) (by decide) (ack_acksBlock 1)
          (.onward (by decide) (ack_acksBlock 2)
            (.onward (by decide) (ack_acksBlock 3) (.finish (ack_acksBlock 4)))))))

end Small

/-- The small file arrives in four blocks although two acknowledgements are repeated. -/
theorem small_lock_step_delivers_file :
    let opened := Small.request.outcome Small.config (.empty 0)
    let run := outcomes Small.config opened.sessions (Small.turns.map (·.ack))
    ∃ reply, opened.reply = some reply ∧ InStep reply Small.turns run ∧
      ∃ payloads : List Bytes, payloads.length = 4 ∧ payloads.flatten = Small.data ∧
        (reply :: firstReplies Small.turns run).filter Packet.isData =
          payloads.mapIdx (fun i payload => .data (UInt16.ofNat (i + 1)) payload) := by
  obtain ⟨reply, hreply, -, hcourse⟩ := lock_step_delivers_file Small.config (.empty 0)
    Small.request Small.transfer Small.data Small.request_opens rfl (by decide)
  have hoptions : some reply = some (.optionAck [("blksize", "8")]) := hreply.symm.trans rfl
  obtain rfl := Option.some.inj hoptions
  obtain ⟨hinStep, ⟨payloads, hpackets, hlength, hdata, -⟩, -⟩ :=
    hcourse Small.turns Small.turns_lockStep
  exact ⟨_, hreply, hinStep, payloads, hlength, hdata, hpackets⟩

end BootServer.Tftp
