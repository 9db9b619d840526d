import BootServer.Proofs.Storage.Refusals
import BootServer.Proofs.Tftp.Blocks
import Mathlib.Algebra.Group.Nat.Defs

/-!
# What one acknowledgement does to a transfer

A transfer that has sent no block beyond the last one of its file, and is at its end just when it
has sent that one, stays so under every acknowledgement, whatever number it carries. Until the end
the block after the acknowledged one is sent, or it cannot be read and nothing changes; after the
end nothing is sent.
-/

namespace BootServer.Tftp.Transfer

variable {disk : Disk} {transfer after : Transfer} {data : Bytes} {wire : UInt16} {block : UInt64}
  {failure : Failure}

/-- Files are shorter than this, since their offsets are signed 64-bit numbers. -/
def fileLimit : Nat := 2 ^ 63

/-- The transfer as it is once a block of a file was sent. -/
def sent (transfer : Transfer) (data : Bytes) (block : UInt64) : Transfer :=
  { transfer with
    atEnd := decide (block.toNat = lastBlock data transfer.blockSize.toNat)
    lastSent := block }

/-- The packet that carries a block of a file, in the transfer's block size. -/
def packetOf (transfer : Transfer) (data : Bytes) (block : Nat) : Packet :=
  blockPacket data transfer.blockSize.toNat block

/-- The octets of the file from where a block starts, at most a block of them. -/
def payload (disk : Disk) (transfer : Transfer) (block : UInt64) : Bytes :=
  Bytes.slice (disk.content transfer.file) (transfer.offset block).toNat transfer.blockSize.toNat

/-- A transfer of the file `data` that has sent nothing but blocks of the file. -/
structure Consistent (transfer : Transfer) (data : Bytes) : Prop where
  blockSize_pos : 0 < transfer.blockSize.toNat
  lastSent_le : transfer.lastSent.toNat ≤ lastBlock data transfer.blockSize.toNat
  atEnd_iff : transfer.atEnd = true ↔
    transfer.lastSent.toNat = lastBlock data transfer.blockSize.toNat
  atEnd_of_completed : transfer.completed = true → transfer.atEnd = true

theorem Consistent.completed_eq_false (h : transfer.Consistent data)
    (hend : transfer.atEnd = false) : transfer.completed = false := by
  rw [Bool.eq_false_iff]
  intro hcompleted
  exact Bool.false_ne_true (hend.symm.trans (h.atEnd_of_completed hcompleted))

/-! ## 64-bit arithmetic -/

theorem toNat_offset (hblock : 0 < block.toNat)
    (hfits : (block.toNat - 1) * transfer.blockSize.toNat < 2 ^ 64) :
    (transfer.offset block).toNat = (block.toNat - 1) * transfer.blockSize.toNat := by
  have hsub : (block - 1).toNat = block.toNat - 1 :=
    UInt64.toNat_sub_of_le block 1 (UInt64.le_iff_toNat_le.mpr hblock)
  rw [offset, UInt64.toNat_mul, hsub, UInt16.toNat_toUInt64, Nat.mod_eq_of_lt hfits]

theorem lastBlock_lt (hsize : data.length < fileLimit) (size : Nat) :
    lastBlock data size < 2 ^ 64 := by
  have hdiv := Nat.div_le_self data.length size
  unfold fileLimit at hsize
  unfold lastBlock
  omega

/-- The offset of a block of a file is computed without wrapping around, and a file has it. -/
theorem toNat_offset_of_le_lastBlock (transfer : Transfer) (hsize : data.length < fileLimit)
    (hblock : 0 < block.toNat) (hlast : block.toNat ≤ lastBlock data transfer.blockSize.toNat) :
    (transfer.offset block).toNat = (block.toNat - 1) * transfer.blockSize.toNat := by
  have hstart := start_le_of_le_lastBlock hlast
  unfold fileLimit at hsize
  exact toNat_offset hblock (by omega)

/-- Before the end the block after an acknowledged one is one of the file's. -/
theorem Consistent.acked_lt_lastBlock (h : transfer.Consistent data)
    (hend : transfer.atEnd = false) (wire : UInt16) :
    (ackedBlock transfer.lastSent wire).toNat < lastBlock data transfer.blockSize.toNat := by
  have hacked := ackedBlock_le transfer.lastSent wire
  have hle := h.lastSent_le
  have hne : transfer.lastSent.toNat ≠ lastBlock data transfer.blockSize.toNat := by
    rw [Ne, ← h.atEnd_iff, hend]
    exact Bool.false_ne_true
  omega

theorem Consistent.toNat_acked_succ (h : transfer.Consistent data)
    (hsize : data.length < fileLimit) (hend : transfer.atEnd = false) (wire : UInt16) :
    (ackedBlock transfer.lastSent wire + 1).toNat =
      (ackedBlock transfer.lastSent wire).toNat + 1 := by
  have hlt := h.acked_lt_lastBlock hend wire
  have hlast := lastBlock_lt hsize transfer.blockSize.toNat
  rw [UInt64.toNat_add, UInt64.toNat_one, Nat.mod_eq_of_lt (by omega)]

/-! ## Steps -/

/-- A block is read at its start, which is within the reach of a file, or it is not read at all. -/
theorem readBlock_cases (disk : Disk) (transfer : Transfer) (block : UInt64) :
    ((transfer.offset block).toNat < 2 ^ 63 ∧
      transfer.readBlock disk block = .ok (transfer.payload disk block)) ∨
    ∃ cause, transfer.readBlock disk block = .error cause ∧
      ((2 ^ 63 ≤ (transfer.offset block).toNat ∧ cause = .invalidArgument) ∨
        disk.RefusesReading transfer.file cause) := by
  unfold readBlock
  split
  next hoffset =>
    rw [UInt64.lt_iff_toNat_lt, show offsetMax.toNat = 2 ^ 63 - 1 from rfl] at hoffset
    exact .inr ⟨_, rfl, .inl ⟨by omega, rfl⟩⟩
  next hoffset =>
    rw [UInt64.not_lt, UInt64.le_iff_toNat_le] at hoffset
    rcases disk.readPart_cases transfer.file (transfer.offset block).toNat
      transfer.blockSize.toNat with hread | ⟨cause, hfails, hrefuses⟩
    · exact .inl ⟨Nat.lt_succ_of_le hoffset, hread⟩
    · exact .inr ⟨cause, hfails, .inr hrefuses⟩

/-- The first block is read at the start of the file. -/
theorem readBlock_one (disk : Disk) (transfer : Transfer) :
    transfer.readBlock disk 1 = disk.readPart transfer.file 0 transfer.blockSize.toNat := by
  have hoffset : transfer.offset 1 = 0 := by simp [offset]
  have hreach : ¬ offsetMax < 0 := by decide
  rw [readBlock, hoffset, if_neg hreach, UInt64.toNat_zero]

theorem sendBlock_of_readBlock {octets : Bytes} (h : transfer.readBlock disk block = .ok octets) :
    transfer.sendBlock disk block =
      .ok ({ transfer with atEnd := octets.length < transfer.blockSize.toNat, lastSent := block },
        .data block.toUInt16 octets) := by
  rw [sendBlock, h]

theorem sendBlock_of_fault {cause : Fault} (h : transfer.readBlock disk block = .error cause) :
    transfer.sendBlock disk block = .error (.system cause) := by
  rw [sendBlock, h]

/-- A block is sent as it was read. -/
theorem readBlock_of_sendBlock {packet : Packet}
    (h : transfer.sendBlock disk block = .ok (after, packet)) :
    ∃ octets, transfer.readBlock disk block = .ok octets ∧
      packet = .data block.toUInt16 octets ∧
      after = { transfer with
        atEnd := octets.length < transfer.blockSize.toNat
        lastSent := block } := by
  cases hread : transfer.readBlock disk block with
  | error cause =>
      rw [sendBlock_of_fault hread] at h
      exact nomatch h
  | ok octets =>
      rw [sendBlock_of_readBlock hread] at h
      obtain ⟨rfl, rfl⟩ := Prod.mk.inj (Except.ok.inj h)
      exact ⟨octets, rfl, rfl, rfl⟩

theorem fault_of_sendBlock (h : transfer.sendBlock disk block = .error failure) :
    ∃ cause, transfer.readBlock disk block = .error cause ∧ failure = .system cause := by
  cases hread : transfer.readBlock disk block with
  | error cause =>
      rw [sendBlock_of_fault hread] at h
      exact ⟨cause, rfl, (Except.error.inj h).symm⟩
  | ok octets =>
      rw [sendBlock_of_readBlock hread] at h
      exact nomatch h

theorem sendBlock_inv {packet : Packet}
    (h : transfer.sendBlock disk block = .ok (after, packet)) :
    (transfer.offset block).toNat < 2 ^ 63 ∧
      packet = .data block.toUInt16 (transfer.payload disk block) ∧
      after = { transfer with
        atEnd := (transfer.payload disk block).length < transfer.blockSize.toNat
        lastSent := block } := by
  obtain ⟨octets, hread, hpacket, hafter⟩ := readBlock_of_sendBlock h
  rcases readBlock_cases disk transfer block with ⟨hreach, hpayload⟩ | ⟨cause, hfails, -⟩
  · obtain rfl := Except.ok.inj (hread.symm.trans hpayload)
    exact ⟨hreach, hpacket, hafter⟩
  · exact nomatch hread.symm.trans hfails

/-- A block that is not sent lies beyond the reach of a file, or cannot be read. -/
theorem sendBlock_eq_error (h : transfer.sendBlock disk block = .error failure) :
    ∃ cause, failure = .system cause ∧
      (cause = .invalidArgument ∨ disk.RefusesReading transfer.file cause) := by
  obtain ⟨cause, hread, rfl⟩ := fault_of_sendBlock h
  rcases readBlock_cases disk transfer block with ⟨-, hpayload⟩ | ⟨other, hfails, hwhy⟩
  · exact nomatch hread.symm.trans hpayload
  · obtain rfl := Except.error.inj (hread.symm.trans hfails)
    exact ⟨cause, rfl, hwhy.imp_left And.right⟩

/-- A transfer that takes an acknowledgement sends a block, or it is at its end. -/
theorem acknowledge_inv {result : AckOutcome}
    (h : transfer.acknowledge disk wire = .ok (after, result)) :
    (transfer.atEnd = false ∧ ∃ packet, result = .data packet ∧
      transfer.sendBlock disk (ackedBlock transfer.lastSent wire + 1) = .ok (after, packet)) ∨
    (transfer.atEnd = true ∧ transfer.completed = false ∧
      result = .completed transfer.lastSent ∧ after = { transfer with completed := true }) ∨
    (transfer.atEnd = true ∧ result = .idle ∧ after = transfer) := by
  unfold acknowledge at h
  dsimp only at h
  split at h
  next hend =>
    split at h
    next hfirst =>
      obtain ⟨rfl, rfl⟩ := Prod.mk.inj (Except.ok.inj h)
      have hopen : transfer.completed = false := by
        simpa using (Bool.and_eq_true_iff.mp hfirst).2
      exact .inr (.inl ⟨hend, hopen, rfl, rfl⟩)
    next =>
      obtain ⟨rfl, rfl⟩ := Prod.mk.inj (Except.ok.inj h)
      exact .inr (.inr ⟨hend, rfl, rfl⟩)
  next hend =>
    split at h
    next => exact nomatch h
    next hsend =>
      obtain ⟨rfl, rfl⟩ := Prod.mk.inj (Except.ok.inj h)
      exact .inl ⟨eq_false_of_ne_true hend, _, rfl, hsend⟩

/-- An acknowledgement fails where the block after it is not sent. -/
theorem acknowledge_eq_error (h : transfer.acknowledge disk wire = .error failure) :
    transfer.sendBlock disk (ackedBlock transfer.lastSent wire + 1) = .error failure := by
  unfold acknowledge at h
  dsimp only at h
  split at h
  next => split at h <;> exact nomatch h
  next =>
    split at h
    next hsend =>
      obtain rfl := Except.error.inj h
      exact hsend
    next => exact nomatch h

/-- Sending a block of the file sends exactly the block, and the end is noticed with the last; or
the block cannot be read. -/
theorem sendBlock_cases (block : UInt64) (hpos : 0 < transfer.blockSize.toNat)
    (hfile : disk.content transfer.file = data) (hsize : data.length < fileLimit)
    (hblock : 0 < block.toNat) (hlast : block.toNat ≤ lastBlock data transfer.blockSize.toNat) :
    transfer.sendBlock disk block =
      .ok (transfer.sent data block, transfer.packetOf data block.toNat) ∨
    ∃ cause, transfer.sendBlock disk block = .error (.system cause) ∧
      disk.RefusesReading transfer.file cause := by
  have hoffset := toNat_offset_of_le_lastBlock transfer hsize hblock hlast
  have hstart := start_le_of_le_lastBlock hlast
  unfold fileLimit at hsize
  rcases readBlock_cases disk transfer block with ⟨-, hread⟩ | ⟨cause, hfails, hbeyond | hrefuses⟩
  · refine .inl ?_
    have hpayload : transfer.payload disk block =
        blockOctets data transfer.blockSize.toNat block.toNat := by
      rw [payload, hfile, hoffset, ← blockOctets_eq_slice hblock]
    have hend : decide ((transfer.payload disk block).length < transfer.blockSize.toNat) =
        decide (block.toNat = lastBlock data transfer.blockSize.toNat) := by
      rw [hpayload, decide_eq_decide]
      exact length_blockOctets_lt_iff hpos hblock hlast
    have hnumber : UInt16.ofNat block.toNat = block.toUInt16 := UInt16.ofNat_uInt64ToNat block
    simp only [sendBlock_of_readBlock hread, sent, packetOf, blockPacket, ← hpayload, hnumber, hend]
  · -- the block starts within the file
    rw [hoffset] at hbeyond
    omega
  · exact .inr ⟨cause, sendBlock_of_fault hfails, hrefuses⟩

theorem Consistent.acknowledge_cases (h : transfer.Consistent data)
    (hfile : disk.content transfer.file = data) (hsize : data.length < fileLimit) (wire : UInt16) :
    (transfer.atEnd = false ∧ transfer.acknowledge disk wire =
      .ok (transfer.sent data (ackedBlock transfer.lastSent wire + 1),
        .data (transfer.packetOf data ((ackedBlock transfer.lastSent wire).toNat + 1)))) ∨
    (transfer.atEnd = true ∧ transfer.completed = false ∧ transfer.acknowledge disk wire =
      .ok ({ transfer with completed := true }, .completed transfer.lastSent)) ∨
    (transfer.atEnd = true ∧ transfer.acknowledge disk wire = .ok (transfer, .idle)) ∨
    (transfer.atEnd = false ∧ ∃ cause, transfer.acknowledge disk wire = .error (.system cause) ∧
      disk.RefusesReading transfer.file cause) := by
  rcases Bool.eq_false_or_eq_true transfer.atEnd with hend | hend
  · have hstep : transfer.acknowledge disk wire =
        if ackedBlock transfer.lastSent wire = transfer.lastSent && !transfer.completed then
          .ok ({ transfer with completed := true }, .completed transfer.lastSent)
        else .ok (transfer, .idle) := by
      simp only [acknowledge, hend, if_true]
    by_cases hfirst : (decide (ackedBlock transfer.lastSent wire = transfer.lastSent) &&
        !transfer.completed) = true
    · have hopen : transfer.completed = false := by
        simpa using (Bool.and_eq_true_iff.mp hfirst).2
      exact Or.inr (Or.inl ⟨hend, hopen, hstep.trans (if_pos hfirst)⟩)
    · exact Or.inr (Or.inr (Or.inl ⟨hend, hstep.trans (if_neg hfirst)⟩))
  · have hsucc := h.toNat_acked_succ hsize hend wire
    have hlt := h.acked_lt_lastBlock hend wire
    rcases sendBlock_cases (ackedBlock transfer.lastSent wire + 1) h.blockSize_pos hfile hsize
      (by omega) (by omega) with hsend | ⟨cause, hfails, hrefuses⟩
    · refine Or.inl ⟨hend, ?_⟩
      simp only [acknowledge, hend, Bool.false_eq_true, if_false, hsend, hsucc]
    · refine Or.inr (Or.inr (Or.inr ⟨hend, cause, ?_, hrefuses⟩))
      simp only [acknowledge, hend, Bool.false_eq_true, if_false, hfails]

/-- The first acknowledgement of the last block completes the transfer. -/
theorem acknowledge_last (hend : transfer.atEnd = true) (hopen : transfer.completed = false)
    (hacked : ackedBlock transfer.lastSent wire = transfer.lastSent) :
    transfer.acknowledge disk wire =
      .ok ({ transfer with completed := true }, .completed transfer.lastSent) := by
  simp [acknowledge, hend, hopen, hacked]

theorem Consistent.sent (h : transfer.Consistent data) (hend : transfer.atEnd = false)
    (hlast : block.toNat ≤ lastBlock data transfer.blockSize.toNat) :
    (transfer.sent data block).Consistent data where
  blockSize_pos := h.blockSize_pos
  lastSent_le := hlast
  atEnd_iff := decide_eq_true_iff
  atEnd_of_completed := by
    intro hcompleted
    exact absurd (hcompleted.symm.trans (h.completed_eq_false hend)) (by decide)

theorem Consistent.complete (h : transfer.Consistent data) (hend : transfer.atEnd = true) :
    { transfer with completed := true }.Consistent data where
  blockSize_pos := h.blockSize_pos
  lastSent_le := h.lastSent_le
  atEnd_iff := h.atEnd_iff
  atEnd_of_completed := fun _ => hend

end BootServer.Tftp.Transfer
