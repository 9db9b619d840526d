import BootServer.Proofs.Dhcp.Reservation

/-!
# Where leased addresses come from

A leased address is one of the window, or one of the served subnet that its client asked for in some
earlier packet, however long ago. What other clients do has no part in it, so a client that never
asks for an address is offered addresses of the window only.
-/

namespace BootServer.Dhcp

variable {config : Config} {leases : Leases} {past : List Visit} {client : String} {ip : IPv4}

/-- An address is in the window, or on the served subnet and asked for by the client. -/
def Traced (config : Config) (past : List Visit) (client : String) (ip : IPv4) : Prop :=
  ip ∈ (Pool.ofConfig config).window ∨
    ((Pool.ofConfig config).isValid ip = true ∧
      ∃ visit ∈ past, visit.client = client ∧ visit.packet.AsksFor ip)

theorem Traced.append (h : Traced config past client ip) (later : List Visit) :
    Traced config (past ++ later) client ip := by
  refine h.imp_right ?_
  rintro ⟨hvalid, visit, hvisit, hasked⟩
  exact ⟨hvalid, visit, List.mem_append_left later hvisit, hasked⟩

/-- A client that asked for nothing has nothing but addresses of the window. -/
theorem Traced.mem_window (h : Traced config past client ip)
    (hasked : ∀ visit ∈ past, visit.client = client → ∀ named, ¬ visit.packet.AsksFor named) :
    ip ∈ (Pool.ofConfig config).window := by
  rcases h with hwindow | ⟨-, visit, hvisit, hclient, hnamed⟩
  · exact hwindow
  · exact absurd hnamed (hasked visit hvisit hclient ip)

def Leases.AllTraced (leases : Leases) (config : Config) (past : List Visit) : Prop :=
  ∀ client ip, leases.addressOf client = some ip → Traced config past client ip

/-- Every source of an address is traced: the lease that the client has, the window, or the packet
itself. -/
theorem Pool.Source.traced {visit : Visit} (htraced : leases.AllTraced config past)
    (h : (Pool.ofConfig config).Source leases visit.packet ip) :
    Traced config (past ++ [visit]) visit.client ip := by
  cases h with
  | held haddress => exact (htraced _ _ haddress).append [visit]
  | window hcontains hfree => exact .inl (mem_window_iff.mpr hcontains)
  | asked hasks hvalid hfree =>
      have hvisit : visit ∈ past ++ [visit] := List.mem_append_right past List.mem_cons_self
      exact .inr ⟨hvalid, visit, hvisit, rfl, hasks⟩

namespace Visit

theorem allTraced (hsound : leases.Sound config) (htraced : leases.AllTraced config past)
    (visit : Visit) :
    (visit.outcome config leases).leases.AllTraced config (past ++ [visit]) := by
  intro client ip haddress
  by_cases hclient : client = visit.client
  · rcases outcome_sources config leases visit with hnothing | ⟨granted, hsource, hgrants⟩
    · rw [hnothing.leases_eq] at haddress
      exact (htraced client ip haddress).append [visit]
    · rw [hgrants.leases_eq, Leases.addressOf_assign hsound.consistent, if_pos hclient] at haddress
      obtain rfl := Option.some.inj haddress
      rw [hclient]
      exact hsource.traced htraced
  · rw [addressOf_of_ne hsound visit hclient] at haddress
    exact (htraced client ip haddress).append [visit]

theorem traced_of_reply (htraced : leases.AllTraced config past) (visit : Visit) {reply : Packet}
    (hreply : (visit.outcome config leases).reply = some reply)
    (hgranted : reply.granted? = some ip) :
    Traced config (past ++ [visit]) visit.client ip := by
  rcases outcome_sources config leases visit with hnothing | ⟨granted, hsource, hgrants⟩
  · rw [hnothing.reply_granted reply hreply] at hgranted
    exact nomatch hgranted
  · obtain ⟨granting, hgranting, hip⟩ := hgrants.reply_granted
    obtain rfl := Option.some.inj (hgranting.symm.trans hreply)
    obtain rfl := Option.some.inj (hip.symm.trans hgranted)
    exact hsource.traced htraced

end Visit

/-- The induction is on the visits; those before them are remembered. -/
theorem allTraced_leasesAfter (hsound : leases.Sound config)
    (htraced : leases.AllTraced config past) (visits : List Visit) :
    (leasesAfter config leases visits).AllTraced config (past ++ visits) := by
  induction visits generalizing leases past with
  | nil =>
      rw [List.append_nil]
      exact htraced
  | cons visit rest ih =>
      have hrest := ih (Visit.sound hsound visit) (Visit.allTraced hsound htraced visit)
      rw [List.append_assoc] at hrest
      exact hrest

/-- After any visits every leased address is in the window, or on the served subnet and one that its
client asked for in one of these visits. So the next visit, if its client asks for no address in it
and never did before, is granted nothing but an address of the window. -/
theorem leases_from_window_or_request (config : Config) (visits : List Visit) :
    let pool := Pool.ofConfig config
    let leases := leasesAfter config .empty visits
    (∀ client ip, leases.addressOf client = some ip →
      ip ∈ pool.window ∨
        (pool.isValid ip = true ∧
          ∃ visit ∈ visits, visit.client = client ∧ visit.packet.AsksFor ip)) ∧
      ∀ (visit : Visit) reply ip, (visit.outcome config leases).reply = some reply →
        reply.granted? = some ip →
        (∀ earlier ∈ visits ++ [visit], earlier.client = visit.client →
          ∀ named, ¬ earlier.packet.AsksFor named) →
        ip ∈ pool.window := by
  intro pool leases
  have hempty : Leases.empty.AllTraced config [] := fun _ _ haddress => nomatch haddress
  have htraced : leases.AllTraced config visits :=
    allTraced_leasesAfter (Leases.sound_empty config) hempty visits
  refine ⟨htraced, ?_⟩
  intro visit reply ip hreply hgranted hasked
  exact (Visit.traced_of_reply htraced visit hreply hgranted).mem_window hasked

namespace Small

/-- An address of the subnet outside the window. -/
def outside : IPv4 := .ofOctets 10 0 0 200

/-- Another client looks for an address and asks for none. -/
def shy : Visit :=
  { Visit.looking address with
    packet := { (Visit.looking address).packet with hardware := .ofBytes 16 [2, 0, 0, 0, 0, 2] } }

end Small

/-- One client has an address outside the window that it asked for, and another that asks for none is
offered one of the window. -/
theorem small_leases_from_window_or_request :
    let pool := Pool.ofConfig Small.config
    let leases := leasesAfter Small.config .empty [Visit.claiming Small.outside]
    leases.addressOf (Visit.claiming Small.outside).client = some Small.outside ∧
      Small.outside ∉ pool.window ∧
      ((Small.shy.outcome Small.config leases).reply.bind Packet.granted?) = some Small.address ∧
      Small.address ∈ pool.window := by
  intro pool leases
  have hgranted : ((Small.shy.outcome Small.config leases).reply.bind Packet.granted?) =
      some Small.address := by
    decide +kernel
  obtain ⟨reply, hreply, hip⟩ := Option.bind_eq_some_iff.mp hgranted
  have hshy : ∀ ip, ¬ Small.shy.packet.AsksFor ip := by
    rintro ip ⟨-, ⟨-, hrequested⟩ | ⟨hkind, -⟩⟩
    · exact nomatch hrequested
    · exact absurd hkind (by decide)
  have hasked : ∀ earlier ∈ [Visit.claiming Small.outside, Small.shy],
      earlier.client = Small.shy.client → ∀ ip, ¬ earlier.packet.AsksFor ip := by
    intro earlier hearlier hclient
    rcases List.mem_cons.mp hearlier with rfl | hlater
    · exact absurd hclient (by decide +kernel)
    · obtain rfl := List.mem_singleton.mp hlater
      exact hshy
  refine ⟨by decide +kernel, by decide +kernel, hgranted, ?_⟩
  exact (leases_from_window_or_request Small.config [Visit.claiming Small.outside]).2 Small.shy reply
    Small.address hreply hip hasked

end BootServer.Dhcp
