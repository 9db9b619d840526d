import BootServer.Dhcp.Outcome
import BootServer.Proofs.Dhcp.Choice
import BootServer.Proofs.Dhcp.LeaseTable

/-!
# Visits of clients

Packets come in one after the other, each with the disk as it is then and with a probe of its own.
A visit leaves the lease table as it is and grants nothing, or it records the address that its
reply grants.
-/

namespace BootServer.Dhcp

/-- A packet that comes in. -/
structure Visit where
  /-- The disk at that time. -/
  disk : Disk
  /-- Who answers where at that time. -/
  probe : Probe
  packet : Packet

def Visit.client (visit : Visit) : String := visit.packet.clientKey

def Visit.outcome (config : Config) (leases : Leases) (visit : Visit) : Outcome :=
  handle config visit.disk visit.probe leases visit.packet

def leasesAfter (config : Config) : Leases → List Visit → Leases
  | leases, [] => leases
  | leases, visit :: rest => leasesAfter config (visit.outcome config leases).leases rest

theorem leasesAfter_append (config : Config) (leases : Leases) (first second : List Visit) :
    leasesAfter config leases (first ++ second) =
      leasesAfter config (leasesAfter config leases first) second := by
  induction first generalizing leases with
  | nil => rfl
  | cons visit rest ih => exact ih _

/-- What one visit preserves is preserved by any number of them. -/
theorem leasesAfter_induction {config : Config} (invariant : Leases → Prop)
    (hstep : ∀ leases (visit : Visit), invariant leases →
      invariant (visit.outcome config leases).leases)
    {leases : Leases} (h : invariant leases) (visits : List Visit) :
    invariant (leasesAfter config leases visits) := by
  induction visits generalizing leases with
  | nil => exact h
  | cons visit rest ih => exact ih (hstep leases visit h)

/-- The address that a reply grants: that of an offer or an acknowledgement. -/
def Packet.granted? (reply : Packet) : Option IPv4 :=
  match reply.messageCode?.bind MessageType.ofCode? with
  | some .offer => some reply.yourAddress
  | some .ack => some reply.yourAddress
  | _ => none

@[simp] theorem messageCode?_grant (config : Config) (disk : Disk) (packet : Packet)
    (kind : MessageType) (ip clientAddress : IPv4) :
    (grant config disk packet kind ip clientAddress).messageCode? = some kind.code := by
  unfold grant
  dsimp only
  split
  · simp
  · cases bootServer? config <;> simp

@[simp] theorem yourAddress_grant (config : Config) (disk : Disk) (packet : Packet)
    (kind : MessageType) (ip clientAddress : IPv4) :
    (grant config disk packet kind ip clientAddress).yourAddress = ip := by
  unfold grant
  dsimp only
  split
  · rfl
  · cases bootServer? config <;> rfl

theorem granted?_grant_offer (config : Config) (disk : Disk) (packet : Packet)
    (ip clientAddress : IPv4) :
    (grant config disk packet .offer ip clientAddress).granted? = some ip := by
  simp [Packet.granted?]

theorem granted?_grant_ack (config : Config) (disk : Disk) (packet : Packet)
    (ip clientAddress : IPv4) :
    (grant config disk packet .ack ip clientAddress).granted? = some ip := by
  simp [Packet.granted?]

theorem granted?_refusal (config : Config) (packet : Packet) :
    (refusal config packet).granted? = none := by
  simp [Packet.granted?, refusal]

namespace Visit

variable {config : Config} {leases : Leases} {visit : Visit} {ip : IPv4}

/-- What a visit does when nothing is granted: the table stays and the reply grants nothing. -/
structure GrantsNothing (outcome : Outcome) (leases : Leases) : Prop where
  leases_eq : outcome.leases = leases
  reply_granted : ∀ reply, outcome.reply = some reply → reply.granted? = none

/-- What a visit does when an address is granted: it is recorded, and the reply grants it. -/
structure Grants (outcome : Outcome) (leases : Leases) (client : String) (ip : IPv4) : Prop where
  leases_eq : outcome.leases = leases.assign client ip
  reply_granted : ∃ reply, outcome.reply = some reply ∧ reply.granted? = some ip

theorem grantsNothing_of_verdict
    (h : (verdict config leases visit.probe visit.packet).verdict.granted? = none) :
    GrantsNothing (visit.outcome config leases) leases := by
  unfold outcome handle settle
  cases hverdict : (verdict config leases visit.probe visit.packet).verdict with
  | silence | ignore _ | exhausted => exact ⟨rfl, by simp⟩
  | refuse _ =>
      refine ⟨rfl, ?_⟩
      rintro reply ⟨⟩
      exact granted?_refusal config visit.packet
  | offer _ | acknowledge _ => simp [hverdict, Verdict.granted?] at h

theorem grants_of_verdict
    (h : (verdict config leases visit.probe visit.packet).verdict.granted? = some ip) :
    Grants (visit.outcome config leases) leases visit.client ip := by
  unfold outcome handle settle
  cases hverdict : (verdict config leases visit.probe visit.packet).verdict with
  | offer _ =>
      rw [hverdict] at h
      obtain rfl := Option.some.inj h
      exact ⟨rfl, _, rfl, granted?_grant_offer ..⟩
  | acknowledge _ =>
      rw [hverdict] at h
      obtain rfl := Option.some.inj h
      exact ⟨rfl, _, rfl, granted?_grant_ack ..⟩
  | silence | ignore _ | exhausted | refuse _ => simp [hverdict, Verdict.granted?] at h

theorem reply_of_offer
    (h : (verdict config leases visit.probe visit.packet).verdict = .offer ip) :
    ∃ reply, (visit.outcome config leases).reply = some reply ∧
      reply.messageCode? = some MessageType.offer.code ∧ reply.granted? = some ip := by
  unfold outcome handle settle
  rw [h]
  exact ⟨_, rfl, messageCode?_grant .., granted?_grant_offer ..⟩

/-- A visit grants nothing, or an address that has a source. -/
theorem outcome_sources (config : Config) (leases : Leases) (visit : Visit) :
    GrantsNothing (visit.outcome config leases) leases ∨
      ∃ ip, (Pool.ofConfig config).Source leases visit.packet ip ∧
        Grants (visit.outcome config leases) leases visit.client ip := by
  cases hgranted : (verdict config leases visit.probe visit.packet).verdict.granted? with
  | none => exact .inl (grantsNothing_of_verdict hgranted)
  | some ip => exact .inr ⟨ip, source_of_verdict hgranted, grants_of_verdict hgranted⟩

/-- A visit grants nothing, or an address that its client may be granted. -/
theorem outcome_cases (config : Config) (leases : Leases) (visit : Visit) :
    GrantsNothing (visit.outcome config leases) leases ∨
      ∃ ip, (Pool.ofConfig config).Grantable leases visit.client ip ∧
        Grants (visit.outcome config leases) leases visit.client ip := by
  refine (outcome_sources config leases visit).imp_right ?_
  rintro ⟨ip, hsource, hgrants⟩
  exact ⟨ip, hsource.grantable, hgrants⟩

end Visit

end BootServer.Dhcp
