import BootServer.Proofs.Dhcp.Visits

/-!
# Leases are safe

Whoever asks for what in whatever order, and whatever the probe answers, the lease table stays
one-to-one, the server's own address is never leased, a visit changes the lease of its own client
only, and a lease once held is never lost.
-/

namespace BootServer.Dhcp

namespace Leases

/-- The table is one-to-one and the server's own address is in nobody's hands. -/
structure Sound (leases : Leases) (config : Config) : Prop where
  consistent : leases.Consistent
  server_free : leases.holder config.address = none

variable {config : Config} {leases : Leases} {client : String} {ip : IPv4}

theorem sound_empty (config : Config) : empty.Sound config :=
  ⟨consistent_empty, Table.get?_empty _⟩

theorem Sound.free_of_grantable (h : leases.Sound config)
    (hgrantable : (Pool.ofConfig config).Grantable leases client ip) :
    (Pool.ofConfig config).Free leases client ip := by
  rcases hgrantable with hown | ⟨-, hfree⟩
  · exact .inl ((h.consistent.inverse client ip).mp hown)
  · exact hfree

theorem Sound.ne_server_of_free (h : leases.Sound config)
    (hfree : (Pool.ofConfig config).Free leases client ip) : ip ≠ config.address := by
  rcases hfree with hheld | ⟨-, hserver⟩
  · rintro rfl
    rw [h.server_free] at hheld
    exact nomatch hheld
  · exact hserver

theorem Sound.assign (h : leases.Sound config)
    (hfree : (Pool.ofConfig config).Free leases client ip) :
    (leases.assign client ip).Sound config where
  consistent := h.consistent.assign client ip
  server_free := by
    rw [holder_assign h.consistent, if_neg (h.ne_server_of_free hfree).symm, h.server_free]
    exact if_neg (Option.some_ne_none client).symm

/-- Assigning a free address to a client leaves everybody else's lease alone. -/
theorem addressOf_assign_of_ne (h : leases.Sound config)
    (hfree : (Pool.ofConfig config).Free leases client ip) {other : String}
    (hother : other ≠ client) :
    (leases.assign client ip).addressOf other = leases.addressOf other := by
  have hip : leases.addressOf other ≠ some ip := by
    rw [Ne, h.consistent.inverse other ip]
    intro hholder
    rcases hfree with hheld | ⟨hnobody, -⟩
    · exact hother (Option.some.inj (hholder.symm.trans hheld))
    · rw [hnobody] at hholder
      exact nomatch hholder
  rw [addressOf_assign h.consistent, if_neg hother, if_neg hip]

end Leases

namespace Visit

variable {config : Config} {leases : Leases}

theorem sound (h : leases.Sound config) (visit : Visit) :
    (visit.outcome config leases).leases.Sound config := by
  rcases outcome_cases config leases visit with hnothing | ⟨ip, hgrantable, hgrants⟩
  · rw [hnothing.leases_eq]
    exact h
  · rw [hgrants.leases_eq]
    exact h.assign (h.free_of_grantable hgrantable)

theorem addressOf_of_ne (h : leases.Sound config) (visit : Visit) {client : String}
    (hclient : client ≠ visit.client) :
    (visit.outcome config leases).leases.addressOf client = leases.addressOf client := by
  rcases outcome_cases config leases visit with hnothing | ⟨ip, hgrantable, hgrants⟩
  · rw [hnothing.leases_eq]
  · rw [hgrants.leases_eq]
    exact Leases.addressOf_assign_of_ne h (h.free_of_grantable hgrantable) hclient

theorem isSome_addressOf (h : leases.Sound config) (visit : Visit) {client : String}
    (hclient : (leases.addressOf client).isSome) :
    ((visit.outcome config leases).leases.addressOf client).isSome := by
  by_cases hown : client = visit.client
  · rcases outcome_cases config leases visit with hnothing | ⟨ip, -, hgrants⟩
    · rw [hnothing.leases_eq]
      exact hclient
    · rw [hgrants.leases_eq, Leases.addressOf_assign h.consistent, if_pos hown, Option.isSome_some]
  · rw [addressOf_of_ne h visit hown]
    exact hclient

end Visit

theorem sound_leasesAfter {config : Config} {leases : Leases} (h : leases.Sound config)
    (visits : List Visit) : (leasesAfter config leases visits).Sound config :=
  leasesAfter_induction (Leases.Sound · config) (fun _ visit hleases => Visit.sound hleases visit) h
    visits

/-- A lease once held is never lost. -/
theorem isSome_addressOf_leasesAfter {config : Config} {leases : Leases} {client : String}
    (h : leases.Sound config) (hclient : (leases.addressOf client).isSome)
    (visits : List Visit) : ((leasesAfter config leases visits).addressOf client).isSome := by
  have hboth := leasesAfter_induction
    (fun leases => leases.Sound config ∧ (leases.addressOf client).isSome)
    (fun _ visit hleases =>
      ⟨Visit.sound hleases.1 visit, Visit.isSome_addressOf hleases.1 visit hleases.2⟩)
    ⟨h, hclient⟩ visits
  exact hboth.2

/-- After any visits the two indexes of the lease table are inverse to each other, so that no
address is leased twice and no client has two addresses; the server's own address is not leased;
the next visit, whatever it is, changes the lease of its own client only; and every client with a
lease has one after any further visits. -/
theorem leases_safe_after_visits (config : Config) (visits : List Visit) :
    let leases := leasesAfter config .empty visits
    leases.Consistent ∧
      (∀ first second ip, leases.addressOf first = some ip → leases.addressOf second = some ip →
        first = second) ∧
      (∀ client first second, leases.holder first = some client →
        leases.holder second = some client → first = second) ∧
      (∀ client, leases.addressOf client ≠ some config.address) ∧
      leases.holder config.address = none ∧
      (∀ (visit : Visit) client, client ≠ visit.client →
        (visit.outcome config leases).leases.addressOf client = leases.addressOf client) ∧
      ∀ client, (leases.addressOf client).isSome →
        ∀ later, ((leasesAfter config leases later).addressOf client).isSome := by
  intro leases
  have hsound : leases.Sound config := sound_leasesAfter (Leases.sound_empty config) visits
  refine ⟨hsound.consistent, ?_, ?_, ?_, hsound.server_free, ?_, ?_⟩
  · intro first second ip
    exact hsound.consistent.client_unique
  · intro client first second
    exact hsound.consistent.address_unique
  · intro client
    rw [Ne, hsound.consistent.inverse, hsound.server_free]
    exact (Option.some_ne_none client).symm
  · intro visit client
    exact Visit.addressOf_of_ne hsound visit
  · intro client hclient
    exact isSome_addressOf_leasesAfter hsound hclient

end BootServer.Dhcp
