import BootServer.Proofs.Dhcp.Announcements
import Mathlib.Tactic.ByContra

/-!
# Retransmissions are harmless

A packet that comes in again right after it was handled meets a lease table in which its client
already holds what it was granted. Then the address is found on another way than before, without a
search and without a question, but it is the same one, and nothing is left to be recorded.
-/

namespace BootServer.Dhcp

variable {config : Config} {leases after : Leases} {probe : Probe} {packet : Packet}
  {client : String} {ip : IPv4}

/-- A lease table after an address went to a client: addresses other than this one that were not
the client's are in the same hands as before. -/
structure Leases.Passed (leases after : Leases) (client : String) (ip : IPv4) : Prop where
  addressOf_eq : after.addressOf client = some ip
  holder_eq : after.holder ip = some client
  holder_of_ne : ∀ other, other ≠ ip → leases.holder other ≠ some client →
    after.holder other = leases.holder other

theorem Leases.passed_assign (h : leases.Consistent) (client : String) (ip : IPv4) :
    leases.Passed (leases.assign client ip) client ip where
  addressOf_eq := by
    rw [addressOf_assign h, if_pos rfl]
  holder_eq := by
    rw [holder_assign h, if_pos rfl]
  holder_of_ne := by
    intro other hother hclient
    rw [holder_assign h, if_neg hother, if_neg hclient]

/-! ## The same verdict again -/

/-- If an address could only be available to a client by being the one that it got, then that is so
afterwards. -/
theorem Pool.isAvailable_passed_iff {pool : Pool} {asked : Nat} {named : IPv4}
    (hpassed : leases.Passed after client ip)
    (hgot : (pool.isAvailable leases probe asked named client).1 = true → named = ip) :
    (pool.isAvailable after probe asked named client).1 = true ↔ named = ip := by
  constructor
  · intro havailable
    by_contra hne
    have hclient : leases.holder named ≠ some client := by
      intro hheld
      apply hne
      apply hgot
      rw [isAvailable_of_held hheld]
    apply hne
    apply hgot
    rw [isAvailable_iff] at havailable ⊢
    rwa [hpassed.holder_of_ne named hne hclient] at havailable
  · rintro rfl
    rw [isAvailable_of_held hpassed.holder_eq]

theorem offSubnet_ne_of_granted {verdict : Verdict} (hgranted : verdict.granted? = some ip)
    (named : IPv4) : (offSubnet config packet named).verdict ≠ verdict := by
  rintro rfl
  rw [granted?_offSubnet] at hgranted
  exact nomatch hgranted

theorem verdict_onDiscover_of_passed (hpassed : leases.Passed after packet.clientKey ip)
    (h : (onDiscover config leases probe packet).verdict = .offer ip) :
    (onDiscover config after probe packet).verdict = .offer ip := by
  have hheld (asked : List Question) : (offerAny config after probe packet asked).verdict =
      .offer ip := verdict_offerAny_of_held hpassed.addressOf_eq
  unfold onDiscover at h ⊢
  cases hnamed : packet.requestedAddress?.bind IPv4.specified? with
  | none => exact hheld []
  | some named =>
      simp only [hnamed] at h ⊢
      by_cases hvalid : (!(Pool.ofConfig config).isValid named) = true
      · rw [if_pos hvalid] at h
        exact absurd h (offSubnet_ne_of_granted rfl named)
      · rw [if_neg hvalid] at h ⊢
        have hgot : ((Pool.ofConfig config).isAvailable leases probe 0 named
            packet.clientKey).1 = true → named = ip := by
          intro hfree
          rw [if_pos hfree] at h
          exact Verdict.offer.inj h
        have hagain := Pool.isAvailable_passed_iff hpassed hgot
        by_cases hip : named = ip
        · rw [if_pos (hagain.mpr hip), hip]
        · rw [if_neg (mt hagain.mp hip)]
          exact hheld _

/-- Only a claimed address of the subnet is acknowledged. -/
theorem claimed_of_onClaim (h : (onClaim config leases probe packet).verdict = .acknowledge ip) :
    claimedAddress? packet = some ip ∧ (Pool.ofConfig config).isValid ip = true := by
  unfold onClaim at h
  cases hclaimed : claimedAddress? packet with
  | none => simp [hclaimed, unresolved] at h
  | some named =>
      simp only [hclaimed] at h
      by_cases hvalid : (!(Pool.ofConfig config).isValid named) = true
      · rw [if_pos hvalid] at h
        exact absurd h (offSubnet_ne_of_granted rfl named)
      · rw [if_neg hvalid] at h
        split at h
        · obtain rfl := Verdict.acknowledge.inj h
          exact ⟨rfl, by simpa using hvalid⟩
        · simp [Decision.after, unresolved] at h

theorem verdict_onClaim_of_passed (hpassed : leases.Passed after packet.clientKey ip)
    (h : (onClaim config leases probe packet).verdict = .acknowledge ip) :
    (onClaim config after probe packet).verdict = .acknowledge ip := by
  obtain ⟨hclaimed, hvalid⟩ := claimed_of_onClaim h
  rw [onClaim_of_held hclaimed hvalid hpassed.holder_eq]

theorem Verdict.granted?_eq_some_iff {verdict : Verdict} :
    verdict.granted? = some ip ↔ verdict = .offer ip ∨ verdict = .acknowledge ip := by
  cases verdict <;> simp [granted?]

theorem onDiscover_ne_acknowledge : (onDiscover config leases probe packet).verdict ≠
    .acknowledge ip := by
  unfold onDiscover offerAny offSubnet
  grind [Decision.after, Decision.plain]

theorem onClaim_ne_offer : (onClaim config leases probe packet).verdict ≠ .offer ip := by
  unfold onClaim unresolved offSubnet
  grind [Decision.after, Decision.plain]

/-- What is granted to a client is granted to it again once it has it. -/
theorem verdict_of_passed (hpassed : leases.Passed after packet.clientKey ip)
    (h : (verdict config leases probe packet).verdict.granted? = some ip) :
    (verdict config after probe packet).verdict = (verdict config leases probe packet).verdict := by
  rcases verdict_cases config packet with ⟨-, hdiscover⟩ | ⟨-, hclaim⟩ | ⟨fixed, -, hfixed⟩
  · rw [hdiscover] at h ⊢
    rw [hdiscover]
    rcases Verdict.granted?_eq_some_iff.mp h with hoffer | hack
    · rw [hoffer, verdict_onDiscover_of_passed hpassed hoffer]
    · exact absurd hack onDiscover_ne_acknowledge
  · rw [hclaim] at h ⊢
    rw [hclaim]
    rcases Verdict.granted?_eq_some_iff.mp h with hoffer | hack
    · exact absurd hoffer onClaim_ne_offer
    · rw [hack, verdict_onClaim_of_passed hpassed hack]
  · rw [hfixed, hfixed]

theorem Visit.verdict_again (h : leases.Consistent) (visit : Visit) :
    (verdict config (visit.outcome config leases).leases visit.probe visit.packet).verdict =
      (verdict config leases visit.probe visit.packet).verdict := by
  cases hgranted : (verdict config leases visit.probe visit.packet).verdict.granted? with
  | none =>
      have hnothing : GrantsNothing (visit.outcome config leases) leases :=
        grantsNothing_of_verdict hgranted
      rw [hnothing.leases_eq]
  | some ip =>
      have hgrants : Grants (visit.outcome config leases) leases visit.client ip :=
        grants_of_verdict hgranted
      rw [hgrants.leases_eq]
      exact verdict_of_passed (Leases.passed_assign h visit.client ip) hgranted

/-! ## The same outcome again -/

def isAssignment : LeaseEvent → Bool
  | .assigned .. => true
  | _ => false

/-- The second of two outcomes of the same packet: the same reply, nothing new in the table, and the
same announcements but for that of an assignment. -/
structure Outcome.Repeats (again first : Outcome) : Prop where
  reply_eq : again.reply = first.reply
  leases_eq : again.leases = first.leases
  events_eq : again.events = first.events.filter (!isAssignment ·)

theorem filter_assignmentEvents (leases : Leases) (client : String) (ip : IPv4) :
    (assignmentEvents leases client ip).filter (!isAssignment ·) = [] := by
  unfold assignmentEvents
  cases leases.outcome client ip <;> rfl

theorem repeats_settleGrant {kind : MessageType} {event : LeaseEvent} (h : leases.Consistent)
    (hgrant : IsGrant packet.clientKey ip kind event) (config : Config) (disk : Disk)
    (decision next : Decision) (clientAddress : IPv4) :
    let first := settleGrant config disk leases packet decision kind ip clientAddress event
    (settleGrant config disk first.leases packet next kind ip clientAddress event).Repeats
      first := by
  intro first
  have hheld : first.leases.addressOf packet.clientKey = some ip :=
    (Leases.passed_assign h packet.clientKey ip).addressOf_eq
  have hevent : [event].filter (!isAssignment ·) = [event] := by
    cases hgrant <;> rfl
  refine ⟨rfl, Leases.assign_of_held hheld, ?_⟩
  calc
    assignmentEvents first.leases packet.clientKey ip ++ [event] = [event] := by
      rw [assignmentEvents_of_held hheld, List.nil_append]
    _ = (assignmentEvents leases packet.clientKey ip ++ [event]).filter (!isAssignment ·) := by
      rw [List.filter_append, filter_assignmentEvents, hevent, List.nil_append]

theorem repeats_settle (h : leases.Consistent) (config : Config) (disk : Disk) (packet : Packet)
    {decision next : Decision} (hverdict : next.verdict = decision.verdict) :
    let first := settle config disk leases packet decision
    (settle config disk first.leases packet next).Repeats first := by
  unfold settle
  rw [hverdict]
  cases decision.verdict with
  | silence | ignore _ | refuse _ | exhausted => exact ⟨rfl, rfl, rfl⟩
  | offer ip => exact repeats_settleGrant h .offer config disk decision next .unspecified
  | acknowledge ip =>
      exact repeats_settleGrant h .ack config disk decision next packet.clientAddress

/-- After any visits, a packet that is handled twice in a row, with the same disk and a probe that
gives the same answers, is answered the second time as the first time; the second time nothing is
recorded, and everything but an assignment is announced again. -/
theorem second_handling_repeats_first (config : Config) (visits : List Visit) (visit : Visit) :
    let leases := leasesAfter config .empty visits
    let first := visit.outcome config leases
    let again := visit.outcome config first.leases
    again.reply = first.reply ∧ again.leases = first.leases ∧
      again.events = first.events.filter (!isAssignment ·) := by
  intro leases first again
  have hsound : leases.Sound config := sound_leasesAfter (Leases.sound_empty config) visits
  have hrepeats : again.Repeats first :=
    repeats_settle hsound.consistent config visit.disk visit.packet
      (visit.verdict_again hsound.consistent)
  exact ⟨hrepeats.reply_eq, hrepeats.leases_eq, hrepeats.events_eq⟩

end BootServer.Dhcp
