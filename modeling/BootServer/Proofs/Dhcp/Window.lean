import BootServer.Proofs.Dhcp.Allocation

/-!
# The window of a pool

The bounds of the window are sums that stop at the greatest 32-bit number. For addresses below that
number they are the sums themselves: the window has the addresses of unbounded arithmetic, in
ascending order, and never goes on at the low addresses.
-/

namespace BootServer.Dhcp.Pool

variable {pool : Pool} {n : Nat}

/-- Below the greatest word the start of the window is the plain sum. -/
theorem start_le_iff (h : n < wordMax) :
    pool.start ≤ n ↔ pool.base.toNat + pool.offset.toNat ≤ n := by
  rw [start]
  omega

/-- From the start of the window on its end is the plain sum, cut at the greatest word. -/
theorem lt_finish_iff (h : pool.start ≤ n) :
    n < pool.finish ↔
      n < pool.base.toNat + pool.offset.toNat + pool.length.toNat ∧ n < wordMax := by
  rw [finish, Nat.lt_min]
  refine and_congr_left fun hmax => ?_
  -- the first sum is below the greatest word, or nothing is both past it and below that word
  have hstart : pool.start = pool.base.toNat + pool.offset.toNat := by
    have hle := (start_le_iff hmax).mp h
    exact Nat.min_eq_left (Nat.le_of_lt (Nat.lt_of_le_of_lt hle hmax))
  rw [hstart]

theorem contains_iff_sums {ip : IPv4} :
    pool.contains ip = true ↔
      pool.base.toNat + pool.offset.toNat ≤ ip.toNat ∧
        ip.toNat < pool.base.toNat + pool.offset.toNat + pool.length.toNat ∧
        ip.toNat < wordMax := by
  rw [contains_iff]
  constructor
  · rintro ⟨hstart, hfinish⟩
    have hbelow := (lt_finish_iff hstart).mp hfinish
    exact ⟨(start_le_iff hbelow.2).mp hstart, hbelow⟩
  · rintro ⟨hsum, hbelow⟩
    have hstart := (start_le_iff hbelow.2).mpr hsum
    exact ⟨hstart, (lt_finish_iff hstart).mpr hbelow⟩

/-- The window lists in strictly ascending order, none twice, the addresses that it contains. These
are the numbers from `base + offset` to before `base + offset + length` below the greatest word, so
none of them is below the base and none is 255.255.255.255. -/
theorem window_without_wrap (pool : Pool) :
    pool.window.Pairwise (fun first second => first.toNat < second.toNat) ∧
      pool.window.Nodup ∧
      (∀ ip, ip ∈ pool.window ↔ pool.contains ip = true) ∧
      (∀ ip, pool.contains ip = true ↔
        pool.base.toNat + pool.offset.toNat ≤ ip.toNat ∧
          ip.toNat < pool.base.toNat + pool.offset.toNat + pool.length.toNat ∧
          ip.toNat < 4294967295) ∧
      ∀ ip ∈ pool.window, pool.base.toNat ≤ ip.toNat ∧ ip ≠ IPv4.broadcast := by
  refine ⟨pool.ascending_window, pool.ascending_window.nodup, fun _ => mem_window_iff,
    fun _ => contains_iff_sums, ?_⟩
  intro ip hip
  obtain ⟨hlower, -, hmax⟩ := contains_iff_sums.mp (mem_window_iff.mp hip)
  refine ⟨Nat.le_of_add_right_le hlower, ?_⟩
  rintro rfl
  exact Nat.lt_irrefl _ hmax

end BootServer.Dhcp.Pool
