import BootServer.Proofs.Dhcp.LeaseTable
import Mathlib.Data.Finset.Card

/-!
# The lease table is one set of leases

Assignments act on a lease table as on a set: the leases that name the client or the address go, and
the new one comes in. Both indexes, the number of leases and the listing tell this one set, whoever
moves where and whoever loses an address to whom on the way.
-/

namespace BootServer.Dhcp

namespace Lease

/-- The leases that are in force after another one: it ends those of its client and its address. -/
def supersede (held : Finset Lease) (lease : Lease) : Finset Lease :=
  insert lease (held.filter fun other => other.client ≠ lease.client ∧ other.ip ≠ lease.ip)

/-- What is in force after leases that were given one after the other. -/
def inForce (given : List Lease) : Finset Lease := given.foldl supersede ∅

theorem mem_supersede {held : Finset Lease} {lease other : Lease} :
    other ∈ supersede held lease ↔
      other = lease ∨ (other ∈ held ∧ other.client ≠ lease.client ∧ other.ip ≠ lease.ip) := by
  rw [supersede, Finset.mem_insert, Finset.mem_filter]

end Lease

namespace Leases

/-- Record leases one after the other. -/
def assignAll (leases : Leases) (given : List Lease) : Leases :=
  given.foldl (fun leases lease => leases.assign lease.client lease.ip) leases

/-- Whatever a table is asked, it tells one set of leases. -/
structure Reports (leases : Leases) (held : Finset Lease) : Prop where
  addressOf_iff : ∀ client ip, leases.addressOf client = some ip ↔ ⟨client, ip⟩ ∈ held
  holder_iff : ∀ client ip, leases.holder ip = some client ↔ ⟨client, ip⟩ ∈ held
  size_eq : leases.size = held.card
  isEmpty_iff : leases.isEmpty = true ↔ held = ∅
  mem_toList_iff : ∀ lease, lease ∈ leases.toList ↔ lease ∈ held
  toList_ascending : leases.toList.Pairwise fun first second => first.ip.toNat < second.ip.toNat
  length_toList : leases.toList.length = leases.size

variable {leases : Leases} {held : Finset Lease}

/-! ## The two indexes as lists of leases -/

theorem length_eq_card {listed : List Lease} (hnodup : listed.Nodup)
    (hmem : ∀ lease, lease ∈ listed ↔ lease ∈ held) : listed.length = held.card := by
  have hheld : listed.toFinset = held := by
    ext lease
    rw [List.mem_toFinset, hmem]
  rw [← hheld, List.toFinset_card_of_nodup hnodup]

/-- The index by client as a list of leases. -/
def clientLeases (leases : Leases) : List Lease :=
  leases.byClient.entries.map fun entry => ⟨entry.1, entry.2⟩

/-- The index by address as a list of leases. -/
def addressLeases (leases : Leases) : List Lease :=
  leases.byAddress.entries.map fun entry => ⟨entry.2, entry.1⟩

theorem toList_perm (leases : Leases) : leases.toList.Perm leases.addressLeases :=
  List.mergeSort_perm _ _

namespace Consistent

variable (h : leases.Consistent)
include h

theorem mem_clientLeases (lease : Lease) :
    lease ∈ leases.clientLeases ↔ leases.addressOf lease.client = some lease.ip := by
  rw [addressOf, Table.get?_eq_some_iff h.clients_distinct, clientLeases, List.mem_map]
  constructor
  · rintro ⟨entry, hentry, rfl⟩
    exact hentry
  · intro hentry
    exact ⟨_, hentry, rfl⟩

theorem mem_addressLeases (lease : Lease) :
    lease ∈ leases.addressLeases ↔ leases.holder lease.ip = some lease.client := by
  rw [holder, Table.get?_eq_some_iff h.addresses_distinct, addressLeases, List.mem_map]
  constructor
  · rintro ⟨entry, hentry, rfl⟩
    exact hentry
  · intro hentry
    exact ⟨_, hentry, rfl⟩

theorem nodup_clients : (leases.clientLeases.map Lease.client).Nodup := by
  rw [clientLeases, List.map_map]
  exact h.clients_distinct

theorem nodup_addresses : (leases.addressLeases.map Lease.ip).Nodup := by
  rw [addressLeases, List.map_map]
  exact h.addresses_distinct

theorem toList_ascending :
    leases.toList.Pairwise fun first second => first.ip.toNat < second.ip.toNat := by
  have hsorted : leases.toList.Pairwise fun first second => first.ip.atMost second.ip = true := by
    apply List.pairwise_mergeSort
    · intro a b c hab hbc
      simp only [IPv4.atMost, decide_eq_true_eq] at hab hbc ⊢
      exact UInt32.le_trans hab hbc
    · intro a b
      simpa [IPv4.atMost] using UInt32.le_total a.ip.word b.ip.word
  have hdistinct : leases.toList.Pairwise fun first second => first.ip ≠ second.ip := by
    rw [← List.pairwise_map]
    exact ((leases.toList_perm.map Lease.ip).nodup_iff).mpr h.nodup_addresses
  -- in order and never the same
  refine (hsorted.and hdistinct).imp ?_
  rintro first second ⟨hle, hne⟩
  have hword : first.ip.word ≤ second.ip.word := of_decide_eq_true hle
  have hnat : first.ip.toNat ≠ second.ip.toNat := by
    intro hsame
    apply hne
    rw [← IPv4.ofNat_toNat first.ip, hsame, IPv4.ofNat_toNat]
  exact Nat.lt_of_le_of_ne (UInt32.le_iff_toNat_le.mp hword) hnat

/-- A consistent table tells the set of leases that it finds by client. -/
theorem reports (hheld : ∀ client ip, leases.addressOf client = some ip ↔ ⟨client, ip⟩ ∈ held) :
    leases.Reports held := by
  have hclients : leases.size = held.card := by
    have hlength : leases.clientLeases.length = leases.size := List.length_map _
    rw [← hlength]
    apply length_eq_card (List.Nodup.of_map _ h.nodup_clients)
    intro lease
    rw [h.mem_clientLeases, hheld]
  have haddresses : ∀ lease, lease ∈ leases.addressLeases ↔ lease ∈ held := by
    intro lease
    rw [h.mem_addressLeases, ← h.inverse, hheld]
  refine ⟨hheld, ?_, hclients, ?_, ?_, h.toList_ascending, ?_⟩
  · intro client ip
    rw [← h.inverse, hheld]
  · rw [isEmpty, beq_iff_eq, hclients, Finset.card_eq_zero]
  · intro lease
    rw [leases.toList_perm.mem_iff, haddresses]
  · rw [leases.toList_perm.length_eq, hclients]
    exact length_eq_card (List.Nodup.of_map _ h.nodup_addresses) haddresses

theorem assignAll (given : List Lease) : (leases.assignAll given).Consistent := by
  induction given generalizing leases with
  | nil => exact h
  | cons lease given ih => exact ih (h.assign lease.client lease.ip)

end Consistent

/-! ## Assignments -/

namespace Reports

variable (h : leases.Reports held)
include h

theorem assign (hconsistent : leases.Consistent) (lease : Lease) :
    (leases.assign lease.client lease.ip).Reports (lease.supersede held) := by
  apply (hconsistent.assign lease.client lease.ip).reports
  intro client ip
  rw [addressOf_assign hconsistent, Lease.mem_supersede, ← h.addressOf_iff]
  by_cases hclient : client = lease.client
  · subst hclient
    have hip : lease.ip = ip ↔ (⟨lease.client, ip⟩ : Lease) = lease := by
      cases lease
      simp [eq_comm]
    simp [hip]
  · have hlease : (⟨client, ip⟩ : Lease) ≠ lease := fun hsame => hclient (congrArg Lease.client hsame)
    by_cases htaken : leases.addressOf client = some lease.ip
    · simp [hclient, hlease, htaken, eq_comm]
    · have hip : leases.addressOf client = some ip → ip ≠ lease.ip := by
        rintro haddress rfl
        exact htaken haddress
      simpa [hclient, hlease, htaken] using hip

/-- What an assignment answers is a matter of the set. -/
theorem outcome_iff (client : String) (ip : IPv4) :
    (leases.outcome client ip = .unchanged ↔ ⟨client, ip⟩ ∈ held) ∧
      (∀ previous, leases.outcome client ip = .reassigned previous ↔
        ⟨client, previous⟩ ∈ held ∧ previous ≠ ip) ∧
      (leases.outcome client ip = .fresh ↔ ∀ previous, ⟨client, previous⟩ ∉ held) := by
  simp only [← h.addressOf_iff]
  unfold outcome
  cases leases.addressOf client with
  | none => simp
  | some own =>
      by_cases hown : own = ip
      · simp [hown, eq_comm]
      · simp [hown]

theorem assignAll (hconsistent : leases.Consistent) (given : List Lease) :
    (leases.assignAll given).Reports (given.foldl Lease.supersede held) := by
  induction given generalizing leases held with
  | nil => exact h
  | cons lease given ih =>
      exact ih (h.assign hconsistent lease) (hconsistent.assign lease.client lease.ip)

end Reports

theorem reports_empty : empty.Reports ∅ := by
  apply consistent_empty.reports
  intro client ip
  simp [addressOf, empty]

/-- Assignments on a new table, whatever they move and whomever they deprive, act on one set of leases:
the next one takes every lease of its client and of its address out of the set and puts itself into
it, and it answers that nothing changes, that the client moves, or that it is new according to what
the set says of the client. Everything that the table is asked tells this set. -/
theorem assignments_act_on_one_set (given : List Lease) (client : String) (ip : IPv4) :
    let leases := empty.assignAll given
    let held := Lease.inForce given
    leases.Reports held ∧
      (leases.outcome client ip = .unchanged ↔ ⟨client, ip⟩ ∈ held) ∧
      (∀ previous, leases.outcome client ip = .reassigned previous ↔
        ⟨client, previous⟩ ∈ held ∧ previous ≠ ip) ∧
      (leases.outcome client ip = .fresh ↔ ∀ previous, ⟨client, previous⟩ ∉ held) ∧
      (leases.assign client ip).Reports
        (insert ⟨client, ip⟩ (held.filter fun other => other.client ≠ client ∧ other.ip ≠ ip)) := by
  intro leases held
  have hreports : leases.Reports held := reports_empty.assignAll consistent_empty given
  have hconsistent : leases.Consistent := consistent_empty.assignAll given
  obtain ⟨hunchanged, hreassigned, hfresh⟩ := hreports.outcome_iff client ip
  exact ⟨hreports, hunchanged, hreassigned, hfresh, hreports.assign hconsistent ⟨client, ip⟩⟩

end Leases

end BootServer.Dhcp
