import BootServer.Proofs.Tftp.Blocks
import Mathlib.Data.Nat.ModEq
import Mathlib.Order.Bounds.Basic

/-!
# Block numbers on the wire

The wire carries a block number modulo 65536, so an acknowledgement fits many blocks. It is taken to
be of the latest block sent that it fits, which is exact for the last 65536 of them. When it fits no
block sent, it is taken to be of block 0.
-/

namespace BootServer.Tftp

/-- The blocks, up to the one sent latest, whose number on the wire is `wire`. -/
def fitting (lastSent : UInt64) (wire : UInt16) : Set Nat :=
  {block | block ≤ lastSent.toNat ∧ block ≡ wire.toNat [MOD 65536]}

variable {lastSent : UInt64} {wire : UInt16} {block : Nat}

/-- How far behind the latest block its number on the wire puts a block that fits. -/
theorem mod_of_mem_fitting (h : block ∈ fitting lastSent wire) :
    (lastSent.toNat + 65536 - wire.toNat) % 65536 = (lastSent.toNat - block) % 65536 := by
  obtain ⟨hle, hmod⟩ := h
  have hwire := wire.toNat_lt
  rw [Nat.ModEq, Nat.mod_eq_of_lt hwire] at hmod
  omega

theorem le_ackedBlock (h : block ∈ fitting lastSent wire) :
    block ≤ (ackedBlock lastSent wire).toNat := by
  have hback := Nat.mod_le (lastSent.toNat - block) 65536
  have hle : block ≤ lastSent.toNat := h.1
  rw [toNat_ackedBlock, mod_of_mem_fitting h]
  omega

/-- Stepping back from the latest block by less than 65536 arrives at a block that fits, unless
that is before the first one. -/
theorem ackedBlock_mem_fitting
    (h : (lastSent.toNat + 65536 - wire.toNat) % 65536 ≤ lastSent.toNat) :
    (ackedBlock lastSent wire).toNat ∈ fitting lastSent wire := by
  have hwire := wire.toNat_lt
  refine ⟨ackedBlock_le lastSent wire, ?_⟩
  rw [toNat_ackedBlock, Nat.ModEq]
  omega

theorem isGreatest_ackedBlock (h : (fitting lastSent wire).Nonempty) :
    IsGreatest (fitting lastSent wire) (ackedBlock lastSent wire).toNat := by
  obtain ⟨block, hblock⟩ := h
  have hback : (lastSent.toNat + 65536 - wire.toNat) % 65536 ≤ lastSent.toNat := by
    rw [mod_of_mem_fitting hblock]
    exact (Nat.mod_le _ _).trans (Nat.sub_le _ _)
  exact ⟨ackedBlock_mem_fitting hback, fun _ => le_ackedBlock⟩

theorem ackedBlock_of_fitting_eq_empty (h : fitting lastSent wire = ∅) :
    (ackedBlock lastSent wire).toNat = 0 := by
  have hback : lastSent.toNat < (lastSent.toNat + 65536 - wire.toNat) % 65536 := by
    by_contra hle
    have hmem := ackedBlock_mem_fitting (Nat.le_of_not_lt hle)
    rw [h] at hmem
    exact hmem
  rw [toNat_ackedBlock]
  omega

/-- An acknowledgement is of the greatest block that fits it, or of block 0 when none does; it is
never past the latest block, and finds each of the last 65536 blocks from its number. -/
theorem ackedBlock_is_greatest_fitting (lastSent : UInt64) (wire : UInt16) :
    ((fitting lastSent wire).Nonempty →
        IsGreatest (fitting lastSent wire) (ackedBlock lastSent wire).toNat) ∧
      (fitting lastSent wire = ∅ → (ackedBlock lastSent wire).toNat = 0) ∧
      (ackedBlock lastSent wire).toNat ≤ lastSent.toNat ∧
      ∀ block : Nat, lastSent.toNat < block + 65536 → block ≤ lastSent.toNat →
        (ackedBlock lastSent (UInt16.ofNat (block % 65536))).toNat = block := by
  refine ⟨isGreatest_ackedBlock, ackedBlock_of_fitting_eq_empty, ackedBlock_le lastSent wire, ?_⟩
  intro block hnear hle
  have hnumber : (UInt16.ofNat (block % 65536)).toNat = block % 65536 := by
    rw [UInt16.toNat_ofNat', Nat.mod_mod]
  have hfits : block ∈ fitting lastSent (UInt16.ofNat (block % 65536)) := by
    refine ⟨hle, ?_⟩
    rw [hnumber]
    exact (Nat.mod_modEq block 65536).symm
  rw [toNat_ackedBlock, mod_of_mem_fitting hfits]
  omega

example : ackedBlock 65537 0 = 65536 ∧ ackedBlock 65537 65535 = 65535 ∧ ackedBlock 5 6 = 0 := by
  decide

end BootServer.Tftp
