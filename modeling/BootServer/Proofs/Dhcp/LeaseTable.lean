import BootServer.Dhcp.Leases

/-!
# The lease table is one-to-one

The two indexes of a lease table are inverse to each other. An assignment keeps them so, because it
takes the address from its holder and gives the old address of the client back.
-/

namespace BootServer.Dhcp.Leases

/-- The two indexes of a lease table store every key once and are inverse to each other. -/
structure Consistent (leases : Leases) : Prop where
  clients_distinct : leases.byClient.Distinct
  addresses_distinct : leases.byAddress.Distinct
  inverse : ∀ client ip, leases.addressOf client = some ip ↔ leases.holder ip = some client

theorem consistent_empty : empty.Consistent where
  clients_distinct := Table.distinct_empty
  addresses_distinct := Table.distinct_empty
  inverse client ip := by simp [addressOf, holder, empty]

namespace Consistent

variable {leases : Leases} (h : leases.Consistent)
include h

/-- No address is leased to two clients. -/
theorem client_unique {first second : String} {ip : IPv4}
    (hfirst : leases.addressOf first = some ip) (hsecond : leases.addressOf second = some ip) :
    first = second := by
  rw [h.inverse] at hfirst hsecond
  exact Option.some.inj (hfirst.symm.trans hsecond)

/-- No client holds two addresses. -/
theorem address_unique {client : String} {first second : IPv4}
    (hfirst : leases.holder first = some client) (hsecond : leases.holder second = some client) :
    first = second := by
  rw [← h.inverse] at hfirst hsecond
  exact Option.some.inj (hfirst.symm.trans hsecond)

end Consistent

/-! ## Assignments -/

variable {leases : Leases}

theorem outcome_eq_unchanged_iff (client : String) (ip : IPv4) :
    leases.outcome client ip = .unchanged ↔ leases.addressOf client = some ip := by
  unfold outcome
  cases leases.addressOf client with
  | none => simp
  | some previous => by_cases hprevious : previous = ip <;> simp [hprevious]

theorem assign_of_held {client : String} {ip : IPv4} (hheld : leases.addressOf client = some ip) :
    leases.assign client ip = leases := by
  rw [assign, (outcome_eq_unchanged_iff client ip).mpr hheld]

theorem assign_of_not_held {client : String} {ip : IPv4}
    (hheld : leases.addressOf client ≠ some ip) :
    leases.assign client ip = ⟨(leases.withoutHolder ip).insert client ip,
      (leases.withoutClient client).insert ip client⟩ := by
  have hchanged := mt (outcome_eq_unchanged_iff client ip).mp hheld
  unfold assign
  split
  · contradiction
  · rfl

theorem get?_withoutHolder (h : leases.Consistent) (ip : IPv4) (other : String) :
    (leases.withoutHolder ip).get? other =
      if leases.addressOf other = some ip then none else leases.addressOf other := by
  have hinverse := h.inverse other ip
  unfold withoutHolder
  cases hholder : leases.holder ip with
  | none =>
      have hother : leases.addressOf other ≠ some ip := by simp [hinverse, hholder]
      rw [if_neg hother, addressOf]
  | some holder =>
      rw [hholder, Option.some_inj] at hinverse
      simp only [Table.get?_erase, @eq_comm _ other, hinverse]
      rfl

theorem get?_withoutClient (h : leases.Consistent) (client : String) (ip : IPv4) :
    (leases.withoutClient client).get? ip =
      if leases.holder ip = some client then none else leases.holder ip := by
  have hinverse := h.inverse client ip
  unfold withoutClient
  cases haddress : leases.addressOf client with
  | none =>
      have hholder : leases.holder ip ≠ some client := by simp [← hinverse, haddress]
      rw [if_neg hholder, holder]
  | some previous =>
      rw [haddress, Option.some_inj] at hinverse
      simp only [Table.get?_erase, @eq_comm _ ip, hinverse]
      rfl

/-- The client gets the address, whoever held it loses it, and nobody else is concerned. -/
theorem addressOf_assign (h : leases.Consistent) (client : String) (ip : IPv4) (other : String) :
    (leases.assign client ip).addressOf other =
      if other = client then some ip
      else if leases.addressOf other = some ip then none
      else leases.addressOf other := by
  by_cases hheld : leases.addressOf client = some ip
  · rw [assign_of_held hheld]
    by_cases hother : other = client
    · rw [if_pos hother, hother, hheld]
    · have hip : leases.addressOf other ≠ some ip :=
        fun hip => hother (h.client_unique hip hheld)
      rw [if_neg hother, if_neg hip]
  · rw [assign_of_not_held hheld, addressOf, Table.get?_insert, get?_withoutHolder h]

/-- The address goes to the client, the one that the client held before becomes free, and no other
address is concerned. -/
theorem holder_assign (h : leases.Consistent) (client : String) (ip other : IPv4) :
    (leases.assign client ip).holder other =
      if other = ip then some client
      else if leases.holder other = some client then none
      else leases.holder other := by
  by_cases hheld : leases.addressOf client = some ip
  · rw [assign_of_held hheld]
    have hholder := (h.inverse client ip).mp hheld
    by_cases hother : other = ip
    · rw [if_pos hother, hother, hholder]
    · have hclient : leases.holder other ≠ some client :=
        fun hclient => hother (h.address_unique hclient hholder)
      rw [if_neg hother, if_neg hclient]
  · rw [assign_of_not_held hheld, holder, Table.get?_insert, get?_withoutClient h]

theorem distinct_withoutHolder (h : leases.Consistent) (ip : IPv4) :
    (leases.withoutHolder ip).Distinct := by
  unfold withoutHolder
  split
  · exact Table.distinct_erase h.clients_distinct _
  · exact h.clients_distinct

theorem distinct_withoutClient (h : leases.Consistent) (client : String) :
    (leases.withoutClient client).Distinct := by
  unfold withoutClient
  split
  · exact Table.distinct_erase h.addresses_distinct _
  · exact h.addresses_distinct

theorem Consistent.assign (h : leases.Consistent) (client : String) (ip : IPv4) :
    (leases.assign client ip).Consistent := by
  refine ⟨?_, ?_, fun other address => ?_⟩
  · by_cases hheld : leases.addressOf client = some ip
    · rw [assign_of_held hheld]
      exact h.clients_distinct
    · rw [assign_of_not_held hheld]
      exact Table.distinct_insert (distinct_withoutHolder h ip) _ _
  · by_cases hheld : leases.addressOf client = some ip
    · rw [assign_of_held hheld]
      exact h.addresses_distinct
    · rw [assign_of_not_held hheld]
      exact Table.distinct_insert (distinct_withoutClient h client) _ _
  · have hinverse := h.inverse other address
    rw [addressOf_assign h, holder_assign h]
    by_cases hclient : other = client <;> by_cases hip : address = ip <;> grind

end BootServer.Dhcp.Leases
