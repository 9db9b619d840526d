import BootServer.Proofs.Tftp.ServedFiles

/-!
# Clients do not see each other

All clients share one table of sessions. A packet edits the session of its own client only, and what
it is answered with depends on nothing else in the table, so what a client gets to see of a run is
settled by its own packets and by when idle sessions are dropped.
-/

namespace BootServer.Tftp

/-- What the server acts on: a packet, or the time to drop idle sessions. -/
inductive Occasion where
  | packet (arrival : Arrival)
  | prune (now : Nat)

namespace Occasion

def outcome (config : Config) (sessions : Sessions) : Occasion → Outcome
  | packet arrival => arrival.outcome config sessions
  | prune now => pruneIdle sessions now

/-- The packets of other clients do not concern a client. -/
def concerns (client : IPv4) : Occasion → Bool
  | packet arrival => arrival.client = client
  | prune _ => true

end Occasion

def sessionsOver (config : Config) : Sessions → List Occasion → Sessions
  | sessions, [] => sessions
  | sessions, occasion :: rest =>
    sessionsOver config (occasion.outcome config sessions).sessions rest

/-- What a client sees of a run: on each occasion that concerns it, the reply and its session. -/
def sightings (config : Config) (client : IPv4) :
    Sessions → List Occasion → List (Option Packet × Option Session)
  | _, [] => []
  | sessions, occasion :: rest =>
    let outcome := occasion.outcome config sessions
    let later := sightings config client outcome.sessions rest
    if occasion.concerns client then (outcome.reply, outcome.sessions.get? client) :: later
    else later

variable {config : Config} {client other : IPv4} {sessions before after : Sessions}

/-! ## Edits of one session -/

/-- What packets of a client can do to the sessions. -/
inductive Sessions.Edited (client : IPv4) (before : Sessions) : Sessions → Prop
  | refl : Edited client before before
  | touch {after : Sessions} (h : Edited client before after) (port : UInt16) (now : Nat) :
      Edited client before (after.touch client port now)
  | setTransfer {after : Sessions} (h : Edited client before after) (transfer : Option Transfer) :
      Edited client before (after.setTransfer client transfer)
  | remove {after : Sessions} (h : Edited client before after) :
      Edited client before (after.remove client)

theorem launch_edited (h : Sessions.Edited client before after) (disk : Disk) (transfer : Transfer)
    (mode : String) (options : Options) :
    Sessions.Edited client before (launch disk after client transfer mode options).sessions := by
  unfold launch
  dsimp only
  split
  next => exact h
  next => exact h.setTransfer _

theorem onRead_edited (h : Sessions.Edited client before after) (disk : Disk)
    (fileName mode : String) (options : Options) :
    Sessions.Edited client before
      (onRead config disk after client fileName mode options).sessions := by
  unfold onRead
  dsimp only
  split
  next => exact h.setTransfer none
  next => exact launch_edited (h.setTransfer none) ..

theorem onAck_edited (h : Sessions.Edited client before after) (disk : Disk) (wire : UInt16) :
    Sessions.Edited client before (onAck disk after client wire).sessions := by
  unfold onAck
  split
  next => exact h
  next =>
    split
    next => exact h
    next =>
      dsimp only
      split <;> exact h.setTransfer _

theorem perform_edited (h : Sessions.Edited client before after) (disk : Disk) (packet : Packet) :
    Sessions.Edited client before (perform config disk after client packet).sessions := by
  cases packet with
  | readRequest => exact onRead_edited h ..
  | writeRequest | data => exact h
  | optionAck => exact onAck_edited h ..
  | ack => exact onAck_edited h ..
  | error => exact h.remove

theorem Arrival.edited (config : Config) (sessions : Sessions) (arrival : Arrival) :
    Sessions.Edited arrival.client sessions (arrival.outcome config sessions).sessions := by
  unfold Arrival.outcome handle
  dsimp only
  rw [finish_sessions]
  exact perform_edited (.touch .refl _ _) ..

/-! ## Sessions that look alike to a client -/

namespace Sessions

/-- Two tables have the same session for a client. -/
structure Alike (client : IPv4) (before after : Sessions) : Prop where
  get?_eq : before.get? client = after.get? client
  timeout_eq : before.timeout = after.timeout

namespace Alike

theorem refl (client : IPv4) (sessions : Sessions) : Alike client sessions sessions := ⟨rfl, rfl⟩

theorem symm (h : Alike client before after) : Alike client after before :=
  ⟨h.get?_eq.symm, h.timeout_eq.symm⟩

theorem trans {last : Sessions} (h : Alike client before after) (hlast : Alike client after last) :
    Alike client before last :=
  ⟨h.get?_eq.trans hlast.get?_eq, h.timeout_eq.trans hlast.timeout_eq⟩

theorem transfer?_eq (h : Alike client before after) :
    before.transfer? client = after.transfer? client := by
  exact Sessions.transfer?_congr h.get?_eq

theorem touch (h : Alike client before after) (port : UInt16) (now : Nat) :
    Alike client (before.touch client port now) (after.touch client port now) where
  get?_eq := by rw [get?_touch, get?_touch, h.transfer?_eq]
  timeout_eq := h.timeout_eq

theorem remove (h : Alike client before after) :
    Alike client (before.remove client) (after.remove client) where
  get?_eq := (Table.get?_erase_self ..).trans (Table.get?_erase_self ..).symm
  timeout_eq := h.timeout_eq

theorem setTransfer (h : Alike client before after) (transfer : Option Transfer) :
    Alike client (before.setTransfer client transfer) (after.setTransfer client transfer) := by
  cases hsession : after.get? client with
  | none =>
      have hbefore := h.get?_eq.trans hsession
      simp only [Sessions.setTransfer, hbefore, hsession]
      exact h
  | some session =>
      have hbefore := h.get?_eq.trans hsession
      constructor
      · rw [get?_setTransfer hbefore, get?_setTransfer hsession]
      · simp only [Sessions.setTransfer, hbefore, hsession]
        exact h.timeout_eq

theorem prune (h : Alike client before after) (hbefore : before.table.Distinct)
    (hafter : after.table.Distinct) (now : Nat) :
    Alike client (before.prune now) (after.prune now) where
  get?_eq := by
    have hget : before.table.get? client = after.table.get? client := h.get?_eq
    simp only [get?, Sessions.prune]
    rw [Table.get?_keepIf hbefore, Table.get?_keepIf hafter, hget, h.timeout_eq]
  timeout_eq := h.timeout_eq

end Alike

namespace Edited

theorem alike (h : Edited client before after) (hne : other ≠ client) :
    Alike other before after := by
  induction h with
  | refl => exact .refl other before
  | touch _ port now ih => exact ih.trans ⟨(Table.get?_insert_of_ne _ _ hne).symm, rfl⟩
  | @setTransfer after _ transfer ih =>
      refine ih.trans ?_
      unfold Sessions.setTransfer
      split
      next => exact .refl other after
      next => exact ⟨(Table.get?_insert_of_ne _ _ hne).symm, rfl⟩
  | remove _ ih => exact ih.trans ⟨(Table.get?_erase_of_ne _ hne).symm, rfl⟩

theorem distinct (h : Edited client before after) (hbefore : before.table.Distinct) :
    after.table.Distinct := by
  induction h with
  | refl => exact hbefore
  | touch _ port now ih => exact Table.distinct_insert ih _ _
  | setTransfer _ transfer ih =>
      unfold Sessions.setTransfer
      split
      next => exact ih
      next => exact Table.distinct_insert ih _ _
  | remove _ ih => exact Table.distinct_erase ih _

end Edited

end Sessions

/-! ## The client's own packets -/

/-- Work is answered alike, and leaves sessions that look alike to a client. -/
structure Work.Alike (client : IPv4) (work others : Work) : Prop where
  reply_eq : work.reply = others.reply
  sessions_alike : Sessions.Alike client work.sessions others.sessions

theorem launch_alike (h : Sessions.Alike client before after) (disk : Disk) (transfer : Transfer)
    (mode : String) (options : Options) :
    Work.Alike client (launch disk before client transfer mode options)
      (launch disk after client transfer mode options) := by
  unfold launch
  cases firstPacket disk transfer options with
  | error failure => exact ⟨rfl, h⟩
  | ok first => exact ⟨rfl, h.setTransfer _⟩

theorem onRead_alike (h : Sessions.Alike client before after) (disk : Disk)
    (fileName mode : String) (options : Options) :
    Work.Alike client (onRead config disk before client fileName mode options)
      (onRead config disk after client fileName mode options) := by
  have hended := h.setTransfer none
  unfold onRead
  cases openRequested config disk fileName with
  | error failure => exact ⟨rfl, hended⟩
  | ok opened =>
      have hlaunch := launch_alike hended disk (settled opened options) mode options
      exact ⟨hlaunch.reply_eq, hlaunch.sessions_alike⟩

theorem onAck_alike (h : Sessions.Alike client before after) (disk : Disk) (wire : UInt16) :
    Work.Alike client (onAck disk before client wire) (onAck disk after client wire) := by
  unfold onAck
  rw [h.transfer?_eq]
  cases after.transfer? client with
  | none => exact ⟨rfl, h⟩
  | some transfer =>
      dsimp only
      cases transfer.acknowledge disk wire with
      | error failure => exact ⟨rfl, h⟩
      | ok moved =>
          obtain ⟨now, result⟩ := moved
          cases result with
          | data packet => exact ⟨rfl, h.setTransfer _⟩
          | completed blocks => exact ⟨rfl, h.setTransfer _⟩
          | idle => exact ⟨rfl, h.setTransfer _⟩

theorem perform_alike (config : Config) (h : Sessions.Alike client before after) (disk : Disk)
    (packet : Packet) :
    Work.Alike client (perform config disk before client packet)
      (perform config disk after client packet) := by
  cases packet with
  | readRequest => exact onRead_alike h ..
  | writeRequest | data => exact ⟨rfl, h⟩
  | optionAck => exact onAck_alike h ..
  | ack => exact onAck_alike h ..
  | error => exact ⟨rfl, h.remove⟩

/-! ## Occasions -/

theorem pruneIdle_reply (sessions : Sessions) (now : Nat) :
    (pruneIdle sessions now).reply = none := by
  unfold pruneIdle
  dsimp only
  split <;> rfl

namespace Occasion

theorem distinct (config : Config) (h : sessions.table.Distinct) (occasion : Occasion) :
    (occasion.outcome config sessions).sessions.table.Distinct := by
  cases occasion with
  | packet arrival => exact (arrival.edited config sessions).distinct h
  | prune now =>
      rw [outcome, pruneIdle_sessions]
      exact Table.distinct_keepIf h _

theorem alike_of_not_concerns {occasion : Occasion} (h : occasion.concerns client = false) :
    Sessions.Alike client sessions (occasion.outcome config sessions).sessions := by
  cases occasion with
  | packet arrival =>
      have hne : client ≠ arrival.client := Ne.symm (of_decide_eq_false h)
      exact (arrival.edited config sessions).alike hne
  | prune now => exact nomatch h

theorem alike_of_concerns (config : Config) {occasion : Occasion}
    (h : occasion.concerns client = true) (halike : Sessions.Alike client before after)
    (hbefore : before.table.Distinct) (hafter : after.table.Distinct) :
    (occasion.outcome config before).reply = (occasion.outcome config after).reply ∧
      Sessions.Alike client (occasion.outcome config before).sessions
        (occasion.outcome config after).sessions := by
  cases occasion with
  | packet arrival =>
      obtain rfl : arrival.client = client := of_decide_eq_true h
      obtain ⟨hreply, hsessions⟩ := perform_alike config
        (halike.touch arrival.port arrival.now) arrival.disk arrival.packet
      simp only [outcome, Arrival.outcome, handle, finish_reply, finish_sessions]
      exact ⟨hreply, hsessions⟩
  | prune now =>
      constructor
      · simp only [outcome, pruneIdle_reply]
      · rw [outcome, outcome, pruneIdle_sessions, pruneIdle_sessions]
        exact halike.prune hbefore hafter now

end Occasion

/-- A client sees of a run what it would see of the occasions that concern it alone. Both runs go
through sessions that look alike to the client. -/
theorem sightings_filter (config : Config) (halike : Sessions.Alike client before after)
    (hbefore : before.table.Distinct) (hafter : after.table.Distinct)
    (occasions : List Occasion) :
    let concerning := occasions.filter (·.concerns client)
    sightings config client before occasions = sightings config client after concerning ∧
      Sessions.Alike client (sessionsOver config before occasions)
        (sessionsOver config after concerning) := by
  induction occasions generalizing before after with
  | nil => exact ⟨rfl, halike⟩
  | cons occasion rest ih =>
      have hnext := occasion.distinct config hbefore
      cases hconcerns : occasion.concerns client with
      | false =>
          have hunseen : Sessions.Alike client (occasion.outcome config before).sessions after :=
            (Occasion.alike_of_not_concerns hconcerns).symm.trans halike
          have hrest := ih hunseen hnext hafter
          simpa [sightings, sessionsOver, hconcerns] using hrest
      | true =>
          obtain ⟨hreply, hsessions⟩ :=
            Occasion.alike_of_concerns config hconcerns halike hbefore hafter
          obtain ⟨hsightings, hlast⟩ := ih hsessions hnext (occasion.distinct config hafter)
          rw [List.filter_cons_of_pos hconcerns]
          refine ⟨?_, hlast⟩
          simp only [sightings, hconcerns, if_true, hreply, hsessions.get?_eq, hsightings]

/-- Two runs have the same packets of a client, at the same times and in the same order relative to
the same dropping of idle sessions, and any packets of other clients in between. The client gets the
same replies and has the same session after each of these occasions, and in the end. -/
theorem client_sees_own_packets_only (config : Config) (timeout : Nat) (client : IPv4)
    (first second : List Occasion)
    (hsame : first.filter (·.concerns client) = second.filter (·.concerns client)) :
    sightings config client (.empty timeout) first =
        sightings config client (.empty timeout) second ∧
      (sessionsOver config (.empty timeout) first).get? client =
        (sessionsOver config (.empty timeout) second).get? client := by
  have hempty : (Sessions.empty timeout).table.Distinct := Table.distinct_empty
  have halike := Sessions.Alike.refl client (.empty timeout)
  obtain ⟨hfirst, hfirstLast⟩ := sightings_filter config halike hempty hempty first
  obtain ⟨hsecond, hsecondLast⟩ := sightings_filter config halike hempty hempty second
  rw [hsame] at hfirst hfirstLast
  exact ⟨hfirst.trans hsecond.symm, hfirstLast.get?_eq.trans hsecondLast.get?_eq.symm⟩

namespace Small

def neighbour : IPv4 := .ofOctets 10 0 0 21

/-- The neighbour reads while the client does, and breaks off. -/
def busyRun : List Occasion :=
  [.packet request, .packet { request with client := neighbour }, .packet (ack 0), .prune 0,
    .packet { ack 4 with client := neighbour, packet := .error .notDefined "" }, .packet (ack 1)]

def quietRun : List Occasion :=
  [.packet request, .packet (ack 0), .prune 0, .packet (ack 1)]

end Small

/-- The client gets its options and its first two blocks in either run. -/
theorem small_client_sees_own_packets_only :
    let seen := sightings Small.config Small.client (.empty 0)
    Small.busyRun.filter (·.concerns Small.client) =
        Small.quietRun.filter (·.concerns Small.client) ∧
      seen Small.busyRun = seen Small.quietRun ∧
      (seen Small.busyRun).map (·.1) =
        [some (.optionAck [("blksize", "8")]), some (blockPacket Small.data 8 1), none,
          some (blockPacket Small.data 8 2)] := by
  intro seen
  have hsame : Small.busyRun.filter (·.concerns Small.client) =
      Small.quietRun.filter (·.concerns Small.client) := rfl
  obtain ⟨hseen, -⟩ :=
    client_sees_own_packets_only Small.config 0 Small.client Small.busyRun Small.quietRun hsame
  exact ⟨hsame, hseen, by decide +kernel⟩

end BootServer.Tftp
