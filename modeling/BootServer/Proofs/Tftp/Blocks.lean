import BootServer.Tftp.Transfer
import Mathlib.Tactic.ByContra

/-!
# The blocks of a file

A file of `N` octets in blocks of `B` octets has the blocks 1 to `N / B + 1`; the last one is the
only one that is shorter than `B`, and it is empty when `B` divides `N`. The octets that a transfer
reads for a block are those of the block, and its 64-bit arithmetic is exact, as long as the block
is one of the file's.
-/

namespace BootServer.Tftp

/-! ## Acknowledged blocks -/

theorem toNat_ackedBlock (lastSent : UInt64) (wire : UInt16) :
    (ackedBlock lastSent wire).toNat =
      lastSent.toNat - (lastSent.toNat + 65536 - wire.toNat) % 65536 := by
  have hwire := wire.toNat_lt
  have hback : (lastSent.toUInt16 - wire).toUInt64.toNat =
      (lastSent.toNat + 65536 - wire.toNat) % 65536 := by
    simp only [UInt16.toNat_toUInt64, UInt16.toNat_sub, UInt64.toNat_toUInt16]
    omega
  unfold ackedBlock
  by_cases h : (lastSent.toUInt16 - wire).toUInt64 ≤ lastSent
  · simp only [if_pos h]
    rw [UInt64.toNat_sub_of_le _ _ h, hback]
  · simp only [if_neg h]
    rw [UInt64.le_iff_toNat_le, hback] at h
    rw [UInt64.toNat_zero]
    omega

theorem ackedBlock_le (lastSent : UInt64) (wire : UInt16) :
    (ackedBlock lastSent wire).toNat ≤ lastSent.toNat := by
  rw [toNat_ackedBlock]
  omega

/-- A block that is not far behind the last one is told from its number on the wire. -/
theorem ackedBlock_ofNat {lastSent : UInt64} {block : Nat} (hle : block ≤ lastSent.toNat)
    (hnear : lastSent.toNat < block + 65536) :
    (ackedBlock lastSent (UInt16.ofNat block)).toNat = block := by
  rw [toNat_ackedBlock, UInt16.toNat_ofNat']
  omega

/-! ## Blocks of a file -/

/-- The octets of a block: those from `(block - 1) * size` to before `block * size`, as far as the
file has them. -/
def blockOctets (data : Bytes) (size block : Nat) : Bytes :=
  data.extract ((block - 1) * size) (min (block * size) data.length)

/-- The packet that carries a block; the wire has 16 bits for its number. -/
def blockPacket (data : Bytes) (size block : Nat) : Packet :=
  .data (UInt16.ofNat block) (blockOctets data size block)

/-- The number of the last block. -/
def lastBlock (data : Bytes) (size : Nat) : Nat := data.length / size + 1

variable {data : Bytes} {size block : Nat}

theorem lastBlock_pos (data : Bytes) (size : Nat) : 0 < lastBlock data size := Nat.succ_pos _

theorem blockOctets_eq_slice (hblock : 0 < block) :
    blockOctets data size block = Bytes.slice data ((block - 1) * size) size := by
  obtain ⟨k, rfl⟩ : ∃ k, block = k + 1 := ⟨block - 1, by omega⟩
  simp only [blockOctets, Bytes.slice, List.extract_eq_take_drop, Nat.add_sub_cancel,
    Nat.add_one_mul]
  rw [List.take_eq_take_iff, List.length_drop]
  omega

/-- Up to the last block every block starts within the file. -/
theorem start_le_of_le_lastBlock (hlast : block ≤ lastBlock data size) :
    (block - 1) * size ≤ data.length := by
  calc
    (block - 1) * size ≤ data.length / size * size :=
      Nat.mul_le_mul_right size (Nat.sub_le_of_le_add hlast)
    _ ≤ data.length := Nat.div_mul_le_self _ _

theorem length_blockOctets (hblock : 0 < block) :
    (blockOctets data size block).length = min size (data.length - (block - 1) * size) := by
  rw [blockOctets_eq_slice hblock, Bytes.slice, List.length_take, List.length_drop]

/-- The last block is the one that is short. -/
theorem length_blockOctets_lt_iff (hsize : 0 < size) (hblock : 0 < block)
    (hlast : block ≤ lastBlock data size) :
    (blockOctets data size block).length < size ↔ block = lastBlock data size := by
  have hmod := Nat.mod_lt data.length hsize
  have hdiv := Nat.div_add_mod' data.length size
  rw [length_blockOctets hblock]
  constructor
  · intro hshort
    by_contra hne
    have hfull : block * size ≤ data.length / size * size :=
      Nat.mul_le_mul_right size (Nat.le_of_lt_succ (Nat.lt_of_le_of_ne hlast hne))
    have hsucc : (block - 1) * size + size = block * size := by
      rw [← Nat.succ_mul, Nat.succ_eq_add_one, Nat.sub_add_cancel hblock]
    omega
  · rintro rfl
    unfold lastBlock
    rw [Nat.add_sub_cancel]
    omega

/-- A packet with the last block is no packet with another block. -/
theorem blockPacket_eq_lastBlock_iff (hsize : 0 < size) (hblock : 0 < block)
    (hlast : block ≤ lastBlock data size) :
    blockPacket data size block = blockPacket data size (lastBlock data size) ↔
      block = lastBlock data size := by
  constructor
  · intro heq
    have hoctets : blockOctets data size block = blockOctets data size (lastBlock data size) := by
      simp only [blockPacket, Packet.data.injEq] at heq
      exact heq.2
    rw [← length_blockOctets_lt_iff hsize hblock hlast, hoctets]
    exact (length_blockOctets_lt_iff hsize (lastBlock_pos _ _) (Nat.le_refl _)).mpr rfl
  · rintro rfl
    rfl

/-! ## All blocks together -/

/-- The octets of all blocks in turn. -/
def allBlocks (data : Bytes) (size : Nat) : List Bytes :=
  (List.range' 1 (lastBlock data size)).map (blockOctets data size)

theorem allBlocks_eq_append (data : Bytes) (size : Nat) :
    allBlocks data size = (List.range' 1 (data.length / size)).map (blockOctets data size) ++
      [blockOctets data size (lastBlock data size)] := by
  rw [allBlocks, lastBlock, List.range'_1_concat, List.map_append, List.map_singleton,
    Nat.add_comm 1]

theorem length_allBlocks (data : Bytes) (size : Nat) :
    (allBlocks data size).length = lastBlock data size := by
  rw [allBlocks, List.length_map, List.length_range']

theorem map_blockPacket_eq (data : Bytes) (size : Nat) :
    (List.range' 1 (lastBlock data size)).map (blockPacket data size) =
      (allBlocks data size).mapIdx fun i payload => .data (UInt16.ofNat (i + 1)) payload := by
  apply List.ext_getElem
  · simp [allBlocks]
  · intro i hleft hright
    simp [allBlocks, blockPacket, Nat.add_comm]

/-- Every block but the last one is full. -/
theorem length_of_mem_dropLast {payload : Bytes} (h : payload ∈ (allBlocks data size).dropLast) :
    payload.length = size := by
  rw [allBlocks_eq_append, List.dropLast_concat] at h
  obtain ⟨block, hblock, rfl⟩ := List.mem_map.mp h
  obtain ⟨hpos, hlt⟩ := List.mem_range'_1.mp hblock
  have hend : block * size ≤ data.length := by
    calc
      block * size ≤ data.length / size * size := Nat.mul_le_mul_right size (by omega)
      _ ≤ data.length := Nat.div_mul_le_self _ _
  have hsucc : (block - 1) * size + size = block * size := by
    rw [← Nat.succ_mul, Nat.succ_eq_add_one, Nat.sub_add_cancel hpos]
  rw [length_blockOctets hpos]
  omega

/-- The last block has what is left over. -/
theorem length_getLast?_allBlocks (hsize : 0 < size) :
    (allBlocks data size).getLast?.map (·.length) = some (data.length % size) := by
  have hmod := Nat.mod_lt data.length hsize
  have hdiv := Nat.div_add_mod' data.length size
  rw [allBlocks_eq_append, List.getLast?_concat, Option.map_some,
    length_blockOctets (lastBlock_pos _ _), lastBlock, Nat.add_sub_cancel, Option.some_inj]
  omega

/-- The beginning of the file grows by one block at a time. -/
theorem take_append_blockOctets (data : Bytes) (size count : Nat) :
    data.take (count * size) ++ blockOctets data size (count + 1) =
      data.take ((count + 1) * size) := by
  have hblock : blockOctets data size (count + 1) = (data.drop (count * size)).take size := by
    rw [blockOctets_eq_slice (Nat.succ_pos count), Bytes.slice, Nat.succ_sub_one]
  rw [hblock, Nat.succ_mul, List.take_add]

/-- Up to the last block is the whole file. -/
theorem take_lastBlock (hsize : 0 < size) : data.take (lastBlock data size * size) = data := by
  have hmod := Nat.mod_lt data.length hsize
  have hdiv := Nat.div_add_mod' data.length size
  apply List.take_of_length_le
  rw [lastBlock, Nat.succ_mul]
  omega

/-- The first blocks put together are the beginning of the file. -/
theorem flatten_blockOctets (data : Bytes) (size count : Nat) :
    ((List.range' 1 count).map (blockOctets data size)).flatten = data.take (count * size) := by
  induction count with
  | zero => simp
  | succ count ih =>
      rw [List.range'_1_concat, List.map_append, List.flatten_append, ih, List.map_singleton,
        List.flatten_singleton, Nat.add_comm 1, take_append_blockOctets]

/-- All blocks put together are the file. -/
theorem flatten_allBlocks (hsize : 0 < size) : (allBlocks data size).flatten = data := by
  rw [allBlocks, flatten_blockOctets, take_lastBlock hsize]

end BootServer.Tftp
