import BootServer.Config.Completion
import BootServer.Proofs.Dhcp.Choice
import Mathlib.Algebra.Group.Nat.Defs

/-!
# The window and the subnet

The window of a pool may leave the subnet of its base. It does not when the mask is a prefix that
leaves room for offset and length, as the usual values do on subnets of at least 64 addresses.
-/

namespace BootServer

namespace IPv4

/-- A number is rounded down by the mask of all but its `k` low bits. -/
theorem and_highMask {x k : Nat} (hk : k ≤ 32) (hx : x < 2 ^ 32) :
    x &&& (2 ^ 32 - 2 ^ k) = x / 2 ^ k * 2 ^ k := by
  have hmask : 2 ^ 32 - 2 ^ k = (2 ^ (32 - k) - 1) * 2 ^ k := by
    rw [Nat.sub_mul, ← Nat.pow_add, Nat.sub_add_cancel hk, Nat.one_mul]
  apply Nat.eq_of_testBit_eq
  intro i
  rw [hmask, Nat.testBit_and, Nat.testBit_mul_two_pow, Nat.testBit_mul_two_pow,
    Nat.testBit_two_pow_sub_one, Nat.testBit_div_two_pow]
  by_cases hi : k ≤ i
  · rw [Nat.sub_add_cancel hi]
    by_cases hlow : i < 32
    · have hbit : i - k < 32 - k := by omega
      simp [hi, hbit]
    · have hbit : x.testBit i = false :=
        Nat.testBit_lt_two_pow (Nat.lt_of_lt_of_le hx (Nat.pow_le_pow_right (by decide) (by omega)))
      simp [hbit]
  · simp [hi]

variable {mask : IPv4} {k : Nat}

theorem toNat_masked (hk : k ≤ 32) (hmask : mask.toNat = 2 ^ 32 - 2 ^ k) (ip : IPv4) :
    (ip.masked mask).toNat = ip.toNat / 2 ^ k * 2 ^ k := by
  rw [masked, toNat, UInt32.toNat_and]
  change ip.toNat &&& mask.toNat = _
  rw [hmask]
  exact and_highMask hk ip.word.toNat_lt

theorem masked_eq_masked (hk : k ≤ 32) (hmask : mask.toNat = 2 ^ 32 - 2 ^ k) {first second : IPv4}
    (hblock : first.toNat / 2 ^ k = second.toNat / 2 ^ k) :
    first.masked mask = second.masked mask := by
  have htoNat : (first.masked mask).toNat = (second.masked mask).toNat := by
    rw [toNat_masked hk hmask, toNat_masked hk hmask, hblock]
  rw [← ofNat_toNat (first.masked mask), htoNat, ofNat_toNat]

end IPv4

namespace Config

/-- Every address of the pool, except the server's own, is on the subnet. -/
def WindowOnSubnet (config : Config) : Prop :=
  ∀ ip, (Dhcp.Pool.ofConfig config).contains ip = true → ip ≠ config.address →
    (Dhcp.Pool.ofConfig config).isValid ip = true

variable {config : Config} {k : Nat}

/-- The window is on the subnet if the mask leaves `k` bits to hosts and the window ends within the
block of the base. -/
theorem windowOnSubnet_of_room (hk : k ≤ 32)
    (hmask : config.dhcp.subnetMask.toNat = 2 ^ 32 - 2 ^ k)
    (hroom : config.dhcp.poolBase.toNat % 2 ^ k + config.dhcp.poolOffset.toNat +
      config.dhcp.poolLength.toNat ≤ 2 ^ k) : config.WindowOnSubnet := by
  intro ip hcontains _
  obtain ⟨hstart, hfinish⟩ := Dhcp.Pool.contains_iff.mp hcontains
  have hbounds : config.dhcp.poolBase.toNat + config.dhcp.poolOffset.toNat ≤ ip.toNat ∧
      ip.toNat < config.dhcp.poolBase.toNat + config.dhcp.poolOffset.toNat +
        config.dhcp.poolLength.toNat := by
    simp only [Dhcp.Pool.finish, Dhcp.Pool.start, Dhcp.Pool.ofConfig] at hstart hfinish
    omega
  have hbase := Nat.div_add_mod' config.dhcp.poolBase.toNat (2 ^ k)
  have hblock : ip.toNat / 2 ^ k = config.dhcp.poolBase.toNat / 2 ^ k := by
    apply Nat.div_eq_of_lt_le
    · omega
    · rw [Nat.succ_mul]
      omega
  have hmasked := IPv4.masked_eq_masked hk hmask hblock
  simp [Dhcp.Pool.isValid, Dhcp.Pool.network, Dhcp.Pool.ofConfig, hmasked]

/-- A pool that is left blank is completed to one on the subnet if the mask leaves at least six bits
to hosts. -/
theorem windowOnSubnet_completed (hlower : 6 ≤ k) (hk : k ≤ 32)
    (hmask : config.completed.dhcp.subnetMask.toNat = 2 ^ 32 - 2 ^ k)
    (hbase : config.lacks .dhcpPoolBase = true) (hoffset : config.lacks .dhcpPoolOffset = true)
    (hlength : config.lacks .dhcpPoolLength = true) : config.completed.WindowOnSubnet := by
  have hpoolBase : config.completed.dhcp.poolBase =
      config.address.masked config.completed.dhcp.subnetMask := by
    simp only [completed, hbase, if_true]
  have hpoolOffset : config.completed.dhcp.poolOffset = 20 := by
    simp only [completed, hoffset, if_true]
  have hpoolLength : config.completed.dhcp.poolLength = 20 := by
    simp only [completed, hlength, if_true]
  apply windowOnSubnet_of_room hk hmask
  rw [hpoolBase, hpoolOffset, hpoolLength, IPv4.toNat_masked hk hmask, Nat.mul_mod_left]
  calc
    0 + (20 : UInt32).toNat + (20 : UInt32).toNat ≤ 2 ^ 6 := by decide
    _ ≤ 2 ^ k := Nat.pow_le_pow_right (by decide) hlower

end Config

end BootServer
