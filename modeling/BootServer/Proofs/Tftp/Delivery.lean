import BootServer.Proofs.Tftp.Course

/-!
# What a transfer delivers

Whatever block numbers a client acknowledges, and in whatever order, the transfer of an unchanged
file sends blocks of the file and nothing else, but for errors where the file cannot be read; it
ends with the last block, after which nothing is answered and the completion is announced at most
once.
-/

namespace BootServer.Tftp

def isCompletion : TransferEvent → Bool
  | .completed .. => true
  | _ => false

/-- The announcements of complete transfers in a course. -/
def completions (past : List Outcome) : List TransferEvent :=
  (past.flatMap (·.events)).filter isCompletion

theorem completions_append (past : List Outcome) (outcome : Outcome) :
    completions (past ++ [outcome]) = completions past ++ outcome.events.filter isCompletion := by
  simp [completions]

def SentIn (past : List Outcome) (origin : Transfer) (data : Bytes) (block : Nat) : Prop :=
  ∃ outcome ∈ past, outcome.reply = some (origin.packetOf data block)

theorem sentIn_append_iff (past : List Outcome) (outcome : Outcome) (origin : Transfer)
    (data : Bytes) (block : Nat) :
    SentIn (past ++ [outcome]) origin data block ↔
      SentIn past origin data block ∨ outcome.reply = some (origin.packetOf data block) := by
  simp [SentIn, or_and_right, exists_or]

/-- Two transfers are of the same file, under the same name and in the same block size. -/
structure Transfer.SameFile (transfer origin : Transfer) : Prop where
  path_eq : transfer.path = origin.path
  file_eq : transfer.file = origin.file
  blockSize_eq : transfer.blockSize = origin.blockSize

theorem Transfer.SameFile.packetOf_eq {transfer origin : Transfer} (h : transfer.SameFile origin)
    (data : Bytes) (block : Nat) : transfer.packetOf data block = origin.packetOf data block := by
  rw [packetOf, h.blockSize_eq, packetOf]

/-- A reply that the transfer `origin` of a file may give, if reading it is refused for nothing but
these reasons. -/
def Answers (refused : Fault → Prop) (origin : Transfer) (data : Bytes) (reply : Packet) : Prop :=
  (∃ granted, reply = .optionAck granted) ∨
    (∃ block, 0 < block ∧ block ≤ lastBlock data origin.blockSize.toNat ∧
      reply = origin.packetOf data block) ∨
    ∃ cause, refused cause ∧ reply = (Failure.system cause).packet

/-- How the transfer that started as `origin` stands after a course. -/
structure Underway (refused : Fault → Prop) (client : IPv4) (data : Bytes)
    (origin transfer : Transfer) (sessions : Sessions) (past : List Outcome) : Prop where
  found : sessions.transfer? client = some transfer
  same : transfer.SameFile origin
  consistent : transfer.Consistent data
  replies : ∀ outcome ∈ past, ∀ reply, outcome.reply = some reply →
    Answers refused origin data reply
  atEnd_iff : transfer.atEnd = true ↔
    SentIn past origin data (lastBlock data origin.blockSize.toNat)
  completions_eq : completions past =
    if transfer.completed then [.completed client origin.path transfer.lastSent] else []

namespace Underway

variable {config : Config} {refused : Fault → Prop} {client : IPv4} {data : Bytes}
  {origin transfer : Transfer} {sessions : Sessions} {past : List Outcome} {outcome : Outcome}

theorem replies_append (h : Underway refused client data origin transfer sessions past)
    (hnew : ∀ reply, outcome.reply = some reply → Answers refused origin data reply) :
    ∀ old ∈ past ++ [outcome], ∀ reply, old.reply = some reply →
      Answers refused origin data reply := by
  intro old hold
  rcases List.mem_append.mp hold with hold | hold
  · exact h.replies old hold
  · rwa [List.mem_singleton.mp hold]

/-- The invariant after an outcome that leaves the transfer as it is and sends nothing. -/
theorem append_idle (h : Underway refused client data origin transfer sessions past)
    (hfound : outcome.sessions.transfer? client = some transfer)
    (hreply : outcome.reply = none) (hevents : outcome.events = []) :
    Underway refused client data origin transfer outcome.sessions (past ++ [outcome]) where
  found := hfound
  same := h.same
  consistent := h.consistent
  replies := h.replies_append (by simp [hreply])
  atEnd_iff := by
    rw [h.atEnd_iff, sentIn_append_iff, hreply]
    simp
  completions_eq := by
    rw [completions_append, hevents, h.completions_eq, List.filter_nil, List.append_nil]

/-- The invariant after the announcement that the transfer is complete. -/
theorem append_completed (h : Underway refused client data origin transfer sessions past)
    (hend : transfer.atEnd = true) (hopen : transfer.completed = false)
    (hfound : outcome.sessions.transfer? client = some { transfer with completed := true })
    (hreply : outcome.reply = none)
    (hevents : outcome.events = [.completed client transfer.path transfer.lastSent]) :
    Underway refused client data origin { transfer with completed := true } outcome.sessions
      (past ++ [outcome]) where
  found := hfound
  same := ⟨h.same.path_eq, h.same.file_eq, h.same.blockSize_eq⟩
  consistent := h.consistent.complete hend
  replies := h.replies_append (by simp [hreply])
  atEnd_iff := by
    rw [sentIn_append_iff, hreply, h.atEnd_iff]
    simp
  completions_eq := by
    rw [completions_append, hevents, h.completions_eq, hopen, h.same.path_eq]
    rfl

/-- The invariant after one more block, before which the transfer was not at its end. -/
theorem append_sent (h : Underway refused client data origin transfer sessions past) {block : UInt64}
    (hend : transfer.atEnd = false) (hblock : 0 < block.toNat)
    (hlast : block.toNat ≤ lastBlock data transfer.blockSize.toNat)
    (hfound : outcome.sessions.transfer? client = some (transfer.sent data block))
    (hreply : outcome.reply = some (transfer.packetOf data block.toNat))
    (hevents : outcome.events = []) :
    Underway refused client data origin (transfer.sent data block) outcome.sessions
      (past ++ [outcome]) where
  found := hfound
  same := ⟨h.same.path_eq, h.same.file_eq, h.same.blockSize_eq⟩
  consistent := h.consistent.sent hend hlast
  replies := by
    refine h.replies_append fun reply hsome => Or.inr (Or.inl ⟨block.toNat, hblock, ?_, ?_⟩)
    · rwa [← h.same.blockSize_eq]
    · rw [hreply, h.same.packetOf_eq] at hsome
      exact (Option.some.inj hsome).symm
  atEnd_iff := by
    have hnever : ¬ SentIn past origin data (lastBlock data origin.blockSize.toNat) := by
      rw [← h.atEnd_iff, hend]
      exact Bool.false_ne_true
    have hpos := h.consistent.blockSize_pos
    rw [h.same.blockSize_eq] at hlast hpos
    rw [sentIn_append_iff, or_iff_right hnever, hreply, h.same.packetOf_eq, Option.some.injEq,
      Transfer.packetOf, Transfer.packetOf, blockPacket_eq_lastBlock_iff hpos hblock hlast,
      Transfer.sent, decide_eq_true_iff, h.same.blockSize_eq]
  completions_eq := by
    have hopen := h.consistent.completed_eq_false hend
    rw [completions_append, hevents, h.completions_eq, Transfer.sent]
    simp only [hopen, Bool.false_eq_true, if_false, List.filter_nil, List.append_nil]

/-- The invariant after an acknowledgement whose block could not be read. -/
theorem append_failed (h : Underway refused client data origin transfer sessions past)
    {cause : Fault} (hrefused : refused cause)
    (hfound : outcome.sessions.transfer? client = some transfer)
    (hreply : outcome.reply = some (Failure.system cause).packet)
    (hevents : outcome.events = [(Failure.system cause).event client]) :
    Underway refused client data origin transfer outcome.sessions (past ++ [outcome]) where
  found := hfound
  same := h.same
  consistent := h.consistent
  replies := by
    refine h.replies_append fun reply hsome => Or.inr (Or.inr ⟨cause, hrefused, ?_⟩)
    exact Option.some.inj (hsome.symm.trans hreply)
  atEnd_iff := by
    rw [h.atEnd_iff, sentIn_append_iff, hreply]
    simp [Failure.packet, Transfer.packetOf, blockPacket]
  completions_eq := by
    rw [completions_append, hevents, h.completions_eq]
    exact List.append_nil _

/-- What one more acknowledgement preserves. -/
theorem step (h : Underway refused client data origin transfer sessions past) (config : Config)
    (hsize : data.length < Transfer.fileLimit) {ack : Arrival}
    (hack : ack.Acknowledges client origin.file data)
    (hrefused : ∀ cause, ack.disk.RefusesReading origin.file cause → refused cause) :
    ∃ after, Underway refused client data origin after (ack.outcome config sessions).sessions
      (past ++ [ack.outcome config sessions]) := by
  obtain ⟨wire, hwire⟩ := Option.isSome_iff_exists.mp hack.acknowledged
  rw [← h.same.file_eq] at hack hrefused
  rcases hack.outcome_cases config hwire h.found h.consistent hsize with
    ⟨hend, hfound, hreply, hevents⟩ | ⟨hend, hopen, hfound, hreply, hevents⟩ |
      ⟨hend, hfound, hreply, hevents⟩ | ⟨hend, cause, hrefuses, hfound, hreply, hevents⟩
  · have hsucc := h.consistent.toNat_acked_succ hsize hend wire
    have hlt := h.consistent.acked_lt_lastBlock hend wire
    rw [← hsucc] at hreply
    exact ⟨_, h.append_sent hend (by omega) (by omega) hfound hreply hevents⟩
  · exact ⟨_, h.append_completed hend hopen hfound hreply hevents⟩
  · exact ⟨_, h.append_idle hfound hreply hevents⟩
  · exact ⟨_, h.append_failed (hrefused cause hrefuses) hfound hreply hevents⟩

/-- What a course of acknowledgements preserves. The induction moves each outcome from the
acknowledgements to come to the past. -/
theorem run (hsize : data.length < Transfer.fileLimit) (acks : List Arrival)
    (hacks : ∀ ack ∈ acks, ack.Acknowledges client origin.file data)
    (hrefused : ∀ ack ∈ acks, ∀ cause, ack.disk.RefusesReading origin.file cause → refused cause)
    (h : Underway refused client data origin transfer sessions past) :
    ∃ after, Underway refused client data origin after (sessionsAfter config sessions acks)
      (past ++ outcomes config sessions acks) := by
  induction acks generalizing transfer sessions past with
  | nil =>
      refine ⟨transfer, ?_⟩
      rw [outcomes, List.append_nil]
      exact h
  | cons ack acks ih =>
      obtain ⟨hack, hacks⟩ := List.forall_mem_cons.mp hacks
      obtain ⟨hfirst, hrefused⟩ := List.forall_mem_cons.mp hrefused
      obtain ⟨after, hafter⟩ := h.step config hsize hack hfirst
      obtain ⟨last, hlast⟩ := ih hacks hrefused hafter
      refine ⟨last, ?_⟩
      rw [outcomes, List.append_cons]
      exact hlast

/-- A read request that opens a file starts the invariant. -/
theorem start (refused : Fault → Prop) {request : Arrival} (hopens : request.Opens config origin)
    (hfile : request.disk.content origin.file = data) (hsize : data.length < Transfer.fileLimit)
    (sessions : Sessions) :
    ∃ transfer, Underway refused request.client data origin transfer
      (request.outcome config sessions).sessions [request.outcome config sessions] := by
  have hfresh := hopens.fresh
  have hconsistent := hfresh.consistent data
  obtain ⟨started, reply, hfound, hreply, hevents, hcases⟩ :=
    hopens.outcome_cases hfile hsize sessions
  have hcompletions : completions [request.outcome config sessions] = [] := by
    simp [completions, hevents, isCompletion]
  rcases hcases with ⟨rfl, granted, rfl⟩ | ⟨rfl, rfl⟩
  · refine ⟨started, hfound, ⟨rfl, rfl, rfl⟩, hconsistent, ?_, ?_, ?_⟩
    · simp only [List.mem_singleton, forall_eq, hreply, Option.some.injEq]
      exact fun reply heq => Or.inl ⟨granted, heq.symm⟩
    · simp [SentIn, hreply, hfresh.atEnd_eq, Transfer.packetOf, blockPacket]
    · rw [hcompletions, hfresh.completed_eq]
      rfl
  · have hlast : (1 : UInt64).toNat ≤ lastBlock data origin.blockSize.toNat := lastBlock_pos _ _
    refine ⟨_, hfound, ⟨rfl, rfl, rfl⟩, hconsistent.sent hfresh.atEnd_eq hlast, ?_, ?_, ?_⟩
    · simp only [List.mem_singleton, forall_eq, hreply, Option.some.injEq]
      exact fun reply heq => Or.inr (Or.inl ⟨1, Nat.one_pos, hlast, heq.symm⟩)
    · simp only [SentIn, List.mem_singleton, exists_eq_left, hreply, Option.some.injEq]
      rw [Transfer.packetOf, Transfer.packetOf,
        blockPacket_eq_lastBlock_iff hfresh.blockSize_pos Nat.one_pos hlast]
      exact decide_eq_true_iff
    · rw [hcompletions, Transfer.sent, hfresh.completed_eq]
      rfl

end Underway

/-- Every reply of a transfer is its options, or a block of the file with exactly the octets of that
block, or the error for which a block could not be read. The transfer is at its end exactly once the
last block was sent, and exactly then the next acknowledgement is not answered. The completion is
announced at most once, with the number of the last block. The 64-bit arithmetic of block numbers
and offsets is that of the natural numbers. -/
theorem transfer_sends_blocks_of_file (config : Config) (sessions : Sessions) (request : Arrival)
    (transfer : Transfer) (data : Bytes) (acks : List Arrival)
    (hopens : request.Opens config transfer)
    (hfile : request.disk.content transfer.file = data) (hsize : data.length < 2 ^ 63)
    (hacks : ∀ ack ∈ acks, ack.Acknowledges request.client transfer.file data) :
    let size := transfer.blockSize.toNat
    let last := data.length / size + 1
    let past := outcomes config sessions (request :: acks)
    let after := sessionsAfter config sessions (request :: acks)
    (∀ outcome ∈ past, ∀ reply, outcome.reply = some reply →
      (∃ granted, reply = .optionAck granted) ∨
        (∃ block, 0 < block ∧ block ≤ last ∧ reply = .data (UInt16.ofNat block)
          (data.extract ((block - 1) * size) (min (block * size) data.length))) ∨
        ∃ cause, (∃ ack ∈ acks, ack.disk.RefusesReading transfer.file cause) ∧
          reply = (Failure.system cause).packet) ∧
    (completions past = [] ∨ ∃ blocks, blocks.toNat = last ∧
      completions past = [.completed request.client transfer.path blocks]) ∧
    ∃ now, after.transfer? request.client = some now ∧
      (now.atEnd = true ↔ SentIn past transfer data last) ∧
      (∀ next : Arrival, next.Acknowledges request.client transfer.file data →
        ((next.outcome config after).reply = none ↔ SentIn past transfer data last)) ∧
      (∀ block : UInt64, 0 < block.toNat → block.toNat ≤ last →
        (block - 1).toNat = block.toNat - 1 ∧
          (now.offset block).toNat = (block.toNat - 1) * size) ∧
      (now.atEnd = false → ∀ wire,
        (ackedBlock now.lastSent wire + 1).toNat = (ackedBlock now.lastSent wire).toNat + 1 ∧
          (ackedBlock now.lastSent wire).toNat + 1 ≤ last) := by
  intro size last past after
  let refused := fun cause => ∃ ack ∈ acks, ack.disk.RefusesReading transfer.file cause
  obtain ⟨started, hstart⟩ := Underway.start refused hopens hfile hsize sessions
  obtain ⟨now, hnow⟩ : ∃ now, Underway refused request.client data transfer now after past :=
    hstart.run hsize acks hacks fun ack hack cause hrefuses => ⟨ack, hack, hrefuses⟩
  have hlast : lastBlock data now.blockSize.toNat = last := by
    rw [hnow.same.blockSize_eq]
    rfl
  refine ⟨hnow.replies, ?_, now, hnow.found, hnow.atEnd_iff, ?_, ?_, ?_⟩
  · have hcompletions := hnow.completions_eq
    rcases Bool.eq_false_or_eq_true now.completed with hdone | hdone
    · have hend := hnow.consistent.atEnd_of_completed hdone
      rw [if_pos hdone] at hcompletions
      exact Or.inr ⟨now.lastSent, (hnow.consistent.atEnd_iff.mp hend).trans hlast, hcompletions⟩
    · rw [if_neg (by simp [hdone])] at hcompletions
      exact Or.inl hcompletions
  · intro next hnext
    obtain ⟨wire, hwire⟩ := Option.isSome_iff_exists.mp hnext.acknowledged
    have hend : now.atEnd = true ↔ SentIn past transfer data last := hnow.atEnd_iff
    rw [← hnow.same.file_eq] at hnext
    rw [← hend]
    rcases hnext.outcome_cases config hwire hnow.found hnow.consistent hsize with
      ⟨hopen, -, hreply, -⟩ | ⟨hclosed, -, -, hreply, -⟩ | ⟨hclosed, -, hreply, -⟩ |
        ⟨hopen, cause, -, -, hreply, -⟩
    · simp [hreply, hopen]
    · simp [hreply, hclosed]
    · simp [hreply, hclosed]
    · simp [hreply, hopen]
  · intro block hblock hle
    refine ⟨UInt64.toNat_sub_of_le block 1 (UInt64.le_iff_toNat_le.mpr hblock), ?_⟩
    rw [← hlast] at hle
    rw [now.toNat_offset_of_le_lastBlock hsize hblock hle, hnow.same.blockSize_eq]
  · intro hopen wire
    have hlt := hnow.consistent.acked_lt_lastBlock hopen wire
    rw [hlast] at hlt
    exact ⟨hnow.consistent.toNat_acked_succ hsize hopen wire, hlt⟩

namespace Small

/-- A block that was never sent is acknowledged, block 0 again, a block that cannot be read, and
then every block to the last one. -/
def disordered : List Arrival :=
  [ack 77, ack 1, ack 0, { ack 1 with disk := broken }, ack 1, ack 2, ack 3, ack 4]

theorem disordered_acknowledge :
    ∀ ack ∈ disordered, ack.Acknowledges client transfer.file data := by
  simp only [disordered, List.forall_mem_cons]
  exact ⟨⟨rfl, rfl, rfl⟩, ⟨rfl, rfl, rfl⟩, ⟨rfl, rfl, rfl⟩, ⟨rfl, rfl, rfl⟩, ⟨rfl, rfl, rfl⟩,
    ⟨rfl, rfl, rfl⟩, ⟨rfl, rfl, rfl⟩, ⟨rfl, rfl, rfl⟩, nofun⟩

end Small

/-- The last block goes out in the end, the transfer is at its end and announced as complete, and
what is acknowledged after that is not answered. -/
theorem small_transfer_sends_blocks_of_file :
    let past := outcomes Small.config (.empty 0) (Small.request :: Small.disordered)
    let after := sessionsAfter Small.config (.empty 0) (Small.request :: Small.disordered)
    past.map (·.reply) = [some (.optionAck [("blksize", "8")]), some (blockPacket Small.data 8 1),
        some (blockPacket Small.data 8 2), some (blockPacket Small.data 8 1),
        some (.error .notDefined "Input/output error (os error 5)"),
        some (blockPacket Small.data 8 2), some (blockPacket Small.data 8 3),
        some (.data 4 (Small.data.extract 24 28)), none] ∧
      completions past = [.completed Small.client "kernel" 4] ∧
      (∃ now, after.transfer? Small.client = some now ∧ now.atEnd = true) ∧
      ((Small.ack 2).outcome Small.config after).reply = none := by
  intro past after
  have hsent : SentIn past Small.transfer Small.data 4 := by
    have hmem : some (Small.transfer.packetOf Small.data 4) ∈ past.map (·.reply) := by
      decide +kernel
    exact List.mem_map.mp hmem
  obtain ⟨-, hcompletions, now, hfound, hend, hsilent, -⟩ := transfer_sends_blocks_of_file
    Small.config (.empty 0) Small.request Small.transfer Small.data Small.disordered
    Small.request_opens rfl (by decide) Small.disordered_acknowledge
  refine ⟨rfl, ?_, ⟨now, hfound, hend.mpr hsent⟩,
    (hsilent _ (Small.ack_acknowledges 2)).mpr hsent⟩
  rcases hcompletions with hnever | ⟨blocks, hblocks, honce⟩
  · exact nomatch hnever
  · have hfour : blocks = 4 := UInt64.toNat_inj.mp hblocks
    rw [honce, hfour]
    rfl

end BootServer.Tftp
