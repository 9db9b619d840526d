import BootServer.Proofs.Dhcp.LeaseSafety

/-!
# Replies, leases and announcements keep in step

Whatever a visit leads to, its reply, the lease table and the announcements tell the same story: an
address is granted, recorded and announced, or a request is refused and nothing is recorded, or
nothing is said to the client at all. So whoever listens to the announced assignments from the
start knows the lease table.
-/

namespace BootServer.Dhcp

variable {config : Config} {leases : Leases} {visit : Visit} {client : String} {ip : IPv4}
  {kind : MessageType} {event : LeaseEvent}

/-- A kind of message by which an address is granted, and the announcement that belongs to it. -/
inductive IsGrant (client : String) (ip : IPv4) : MessageType → LeaseEvent → Prop
  | offer : IsGrant client ip .offer (.offered client ip)
  | ack : IsGrant client ip .ack (.acknowledged client ip)

namespace Outcome

/-- A client is sent an address by a message of a kind. The address is recorded as the client's,
the record is announced exactly if it changes the table, and then the message is announced. -/
structure GrantsBy (outcome : Outcome) (leases : Leases) (client : String) (ip : IPv4)
    (kind : MessageType) (event : LeaseEvent) : Prop where
  reply_eq : ∃ reply, outcome.reply = some reply ∧ reply.messageCode? = some kind.code ∧
    reply.yourAddress = ip
  leases_eq : outcome.leases = leases.assign client ip
  addressOf_eq : outcome.leases.addressOf client = some ip
  events_eq :
    (outcome.leases = leases ∧ outcome.events = [event]) ∨
      (outcome.leases ≠ leases ∧
        outcome.events = [.assigned client ip (leases.addressOf client), event])

/-- A client is refused, which is announced once. -/
structure Refuses (outcome : Outcome) (leases : Leases) (client : String) : Prop where
  reply_eq : ∃ reply, outcome.reply = some reply ∧
    reply.messageCode? = some MessageType.nak.code
  leases_eq : outcome.leases = leases
  events_eq : ∃ reason, outcome.events = [.refused client reason]

/-- A client is not answered, for which at most one reason is announced. -/
structure StaysSilent (outcome : Outcome) (leases : Leases) (client : String) : Prop where
  reply_eq : outcome.reply = none
  leases_eq : outcome.leases = leases
  events_eq : outcome.events = [] ∨ (∃ reason, outcome.events = [.ignored client reason]) ∨
    outcome.events = [.exhausted client]

end Outcome

/-! ## One visit -/

theorem assignmentEvents_of_held (hheld : leases.addressOf client = some ip) :
    assignmentEvents leases client ip = [] := by
  rw [assignmentEvents, (Leases.outcome_eq_unchanged_iff client ip).mpr hheld]

theorem assignmentEvents_of_not_held (hheld : leases.addressOf client ≠ some ip) :
    assignmentEvents leases client ip = [.assigned client ip (leases.addressOf client)] := by
  unfold assignmentEvents Leases.outcome
  cases haddress : leases.addressOf client with
  | none => rfl
  | some previous =>
      have hprevious : previous ≠ ip := fun h => hheld (haddress.trans (congrArg some h))
      simp [hprevious]

theorem Leases.assign_ne_of_not_held (h : leases.Consistent)
    (hheld : leases.addressOf client ≠ some ip) : leases.assign client ip ≠ leases := by
  intro hsame
  apply hheld
  rw [← hsame, addressOf_assign h, if_pos rfl]

theorem grantsBy_settleGrant (h : leases.Consistent) (hgrant : IsGrant client ip kind event)
    (disk : Disk) (packet : Packet) (decision : Decision) (clientAddress : IPv4)
    (hclient : packet.clientKey = client) :
    (settleGrant config disk leases packet decision kind ip clientAddress event).GrantsBy leases
      client ip kind event := by
  subst hclient
  refine ⟨⟨_, rfl, messageCode?_grant .., yourAddress_grant ..⟩, rfl, ?_, ?_⟩
  · rw [settleGrant, Leases.addressOf_assign h, if_pos rfl]
  · by_cases hheld : leases.addressOf packet.clientKey = some ip
    · refine .inl ⟨Leases.assign_of_held hheld, ?_⟩
      rw [settleGrant, assignmentEvents_of_held hheld, List.nil_append]
    · refine .inr ⟨Leases.assign_ne_of_not_held h hheld, ?_⟩
      rw [settleGrant, assignmentEvents_of_not_held hheld, List.singleton_append]

/-- All that a visit can lead to. -/
theorem Visit.answer_cases (h : leases.Consistent) (config : Config) (visit : Visit) :
    (∃ ip kind event, IsGrant visit.client ip kind event ∧
        (Pool.ofConfig config).Grantable leases visit.client ip ∧
        (visit.outcome config leases).GrantsBy leases visit.client ip kind event) ∨
      (visit.outcome config leases).Refuses leases visit.client ∨
      (visit.outcome config leases).StaysSilent leases visit.client := by
  unfold outcome handle settle
  cases hverdict : (verdict config leases visit.probe visit.packet).verdict with
  | silence => exact .inr (.inr ⟨rfl, rfl, .inl rfl⟩)
  | ignore reason => exact .inr (.inr ⟨rfl, rfl, .inr (.inl ⟨_, rfl⟩)⟩)
  | refuse reason => exact .inr (.inl ⟨⟨_, rfl, Packet.messageCode?_reply ..⟩, rfl, _, rfl⟩)
  | exhausted => exact .inr (.inr ⟨rfl, rfl, .inr (.inr rfl)⟩)
  | offer ip =>
      have hgrantable := grantable_of_verdict (congrArg Verdict.granted? hverdict)
      exact .inl ⟨ip, _, _, .offer, hgrantable, grantsBy_settleGrant h .offer _ _ _ _ rfl⟩
  | acknowledge ip =>
      have hgrantable := grantable_of_verdict (congrArg Verdict.granted? hverdict)
      exact .inl ⟨ip, _, _, .ack, hgrantable, grantsBy_settleGrant h .ack _ _ _ _ rfl⟩

/-! ## Listening to the announcements -/

/-- What a listener who keeps a table of addresses by client makes of an announcement. -/
def noted (table : Table String IPv4) : LeaseEvent → Table String IPv4
  | .assigned client ip _ => table.insert client ip
  | _ => table

/-- The table of a listener after some announcements. -/
def replayed (table : Table String IPv4) (events : List LeaseEvent) : Table String IPv4 :=
  events.foldl noted table

/-- What is announced in the course of some visits. -/
def announcements (config : Config) : Leases → List Visit → List LeaseEvent
  | _, [] => []
  | leases, visit :: rest =>
    let outcome := visit.outcome config leases
    outcome.events ++ announcements config outcome.leases rest

theorem replayed_append (table : Table String IPv4) (first second : List LeaseEvent) :
    replayed table (first ++ second) = replayed (replayed table first) second :=
  List.foldl_append

theorem noted_grant (hgrant : IsGrant client ip kind event) (table : Table String IPv4) :
    noted table event = table := by
  cases hgrant <;> rfl

/-- An assignment of a free address to a client evicts nobody. -/
theorem Leases.Sound.byClient_assign (h : leases.Sound config)
    (hfree : (Pool.ofConfig config).Free leases client ip)
    (hheld : leases.addressOf client ≠ some ip) :
    (leases.assign client ip).byClient = leases.byClient.insert client ip := by
  have hnobody : leases.holder ip = none := by
    rcases hfree with hholder | ⟨hnobody, -⟩
    · exact absurd ((h.consistent.inverse client ip).mpr hholder) hheld
    · exact hnobody
  rw [assign_of_not_held hheld, withoutHolder, hnobody]

/-- A listener who knew the table before a visit knows it after the visit. -/
theorem Visit.replayed_events (h : leases.Sound config) (visit : Visit) :
    replayed leases.byClient (visit.outcome config leases).events =
      (visit.outcome config leases).leases.byClient := by
  rcases visit.answer_cases h.consistent config with
    ⟨ip, kind, event, hgrant, hgrantable, hgrants⟩ | hrefuses | hsilent
  · rcases hgrants.events_eq with ⟨hleases, hevents⟩ | ⟨hchanged, hevents⟩
    · rw [hevents, hleases]
      exact noted_grant hgrant _
    · have hheld : leases.addressOf visit.client ≠ some ip := by
        intro hheld
        exact hchanged (hgrants.leases_eq.trans (Leases.assign_of_held hheld))
      rw [hevents, hgrants.leases_eq, h.byClient_assign (h.free_of_grantable hgrantable) hheld]
      exact noted_grant hgrant _
  · obtain ⟨reason, hevents⟩ := hrefuses.events_eq
    rw [hevents, hrefuses.leases_eq]
    rfl
  · rw [hsilent.leases_eq]
    rcases hsilent.events_eq with hevents | ⟨reason, hevents⟩ | hevents <;>
    · rw [hevents]
      rfl

theorem replayed_announcements (h : leases.Sound config) (visits : List Visit) :
    replayed leases.byClient (announcements config leases visits) =
      (leasesAfter config leases visits).byClient := by
  induction visits generalizing leases with
  | nil => rfl
  | cons visit rest ih =>
      rw [announcements, replayed_append, Visit.replayed_events h visit]
      exact ih (Visit.sound h visit)

/-- After any visits, the next visit is one of three: an address is granted by an offer or an
acknowledgement, which is recorded and announced; a refusal is sent and announced once; or nothing
is sent, for at most one announced reason. The table changes only with the announcement of an
assignment, so that all assignments announced from the start, noted down in turn, are the lease
table. -/
theorem announcements_tell_leases (config : Config) (visits : List Visit) :
    let leases := leasesAfter config .empty visits
    (∀ visit : Visit,
      let outcome := visit.outcome config leases
      (∃ ip kind event, IsGrant visit.client ip kind event ∧
          outcome.GrantsBy leases visit.client ip kind event) ∨
        outcome.Refuses leases visit.client ∨ outcome.StaysSilent leases visit.client) ∧
      replayed .empty (announcements config .empty visits) = leases.byClient ∧
      ∀ client ip, leases.holder ip = some client ↔
        (replayed .empty (announcements config .empty visits)).get? client = some ip := by
  intro leases
  have hsound : leases.Sound config := sound_leasesAfter (Leases.sound_empty config) visits
  have hreplayed : replayed .empty (announcements config .empty visits) = leases.byClient :=
    replayed_announcements (Leases.sound_empty config) visits
  refine ⟨?_, hreplayed, ?_⟩
  · intro visit
    rcases visit.answer_cases hsound.consistent config with
      ⟨ip, kind, event, hgrant, -, hgrants⟩ | hrefuses | hsilent
    · exact .inl ⟨ip, kind, event, hgrant, hgrants⟩
    · exact .inr (.inl hrefuses)
    · exact .inr (.inr hsilent)
  · intro client ip
    rw [hreplayed]
    exact (hsound.consistent.inverse client ip).symm

end BootServer.Dhcp
