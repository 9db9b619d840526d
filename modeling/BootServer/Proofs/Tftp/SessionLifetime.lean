import BootServer.Proofs.Tftp.Reactions
import Mathlib.Data.List.Nodup
import Mathlib.Data.List.Perm.Subperm

/-!
# How long sessions last

A client has a session from its first packet on, until it sends an error packet, or idle sessions
are dropped when its latest packet is longer ago than the timeout. Dropping sessions touches no
other session, and a client whose session was dropped is served as one that was never seen.
-/

namespace BootServer.Tftp

/-- The latest packet of a client in a run, and what came after it. -/
structure Latest (client : IPv4) (calls : List Call) (arrival : Arrival) (later : List Call) :
    Prop where
  split : ∃ earlier, calls = earlier ++ .occasion (.packet arrival) :: later
  client_eq : arrival.client = client
  absent : Absent client later

/-- Sessions are dropped by none of these calls up to a point in time. -/
structure Spares (later : List Call) (deadline : Nat) : Prop where
  not_clear : .clear ∉ later
  in_time : ∀ now, .occasion (.prune now) ∈ later → now ≤ deadline

/-- What pruning does: these clients lose their sessions, which it counts and announces, and all
others keep theirs. -/
structure Pruning (sessions : Sessions) (now : Nat) (dropped : List IPv4) : Prop where
  nodup : dropped.Nodup
  mem_iff : ∀ client, client ∈ dropped ↔
    (sessions.get? client).isSome ∧ (pruneIdle sessions now).sessions.get? client = none
  untouched : ∀ client, client ∉ dropped →
    (pruneIdle sessions now).sessions.get? client = sessions.get? client
  count_eq : sessions.pruneCount now = dropped.length
  silent : dropped = [] → (pruneIdle sessions now).events = []
  announced : dropped ≠ [] → ∃ count : UInt64, count.toNat = dropped.length ∧
    (pruneIdle sessions now).events = [.pruned count]

variable {config : Config} {client : IPv4} {sessions : Sessions} {session : Session}
  {arrival : Arrival} {call : Call} {calls later : List Call} {now deadline : Nat}

/-! ## Runs -/

theorem afterCalls_append (config : Config) (sessions : Sessions) (earlier later : List Call) :
    afterCalls config sessions (earlier ++ later) =
      afterCalls config (afterCalls config sessions earlier) later := by
  induction earlier generalizing sessions with
  | nil => rfl
  | cons call earlier ih => exact ih (call.outcome config sessions).sessions

theorem Sessions.Edited.timeout_eq {before after : Sessions}
    (h : Sessions.Edited client before after) : after.timeout = before.timeout := by
  induction h with
  | refl => rfl
  | touch _ _ _ ih => exact ih
  | setTransfer _ _ ih =>
      rw [← ih, Sessions.setTransfer]
      split <;> rfl
  | remove _ ih => exact ih

theorem Call.timeout_eq (config : Config) (sessions : Sessions) (call : Call) :
    (call.outcome config sessions).sessions.timeout = sessions.timeout := by
  match call with
  | .occasion (.packet arrival) => exact (arrival.edited config sessions).timeout_eq
  | .occasion (.prune now) => rw [outcome, Occasion.outcome, pruneIdle_sessions, Sessions.prune]
  | .clear => rfl

theorem timeout_afterCalls (config : Config) (sessions : Sessions) (calls : List Call) :
    (afterCalls config sessions calls).timeout = sessions.timeout := by
  induction calls generalizing sessions with
  | nil => rfl
  | cons call calls ih => rw [afterCalls, ih, call.timeout_eq config sessions]

theorem Absent.tail (h : Absent client (call :: later)) : Absent client later :=
  fun arrival harrival => h arrival (List.mem_cons_of_mem call harrival)

theorem absent_or_latest (client : IPv4) (calls : List Call) :
    Absent client calls ∨ ∃ arrival later, Latest client calls arrival later := by
  induction calls with
  | nil => exact .inl fun _ harrival => absurd harrival List.not_mem_nil
  | cons call calls ih =>
      rcases ih with habsent | ⟨arrival, later, ⟨earlier, rfl⟩, hclient, hlater⟩
      · by_cases hown : ∃ arrival, call = .occasion (.packet arrival) ∧ arrival.client = client
        · obtain ⟨arrival, rfl, hclient⟩ := hown
          exact .inr ⟨arrival, calls, ⟨[], rfl⟩, hclient, habsent⟩
        · refine .inl fun arrival harrival hclient => ?_
          rcases List.mem_cons.mp harrival with rfl | harrival
          · exact hown ⟨arrival, rfl, hclient⟩
          · exact habsent arrival harrival hclient
      · exact .inr ⟨arrival, later, ⟨call :: earlier, rfl⟩, hclient, hlater⟩

/-! ## Steps -/

theorem Arrival.Reaction.left_eq {before : Option Transfer} {left : Option Session}
    {reply : Option Packet} {events : List TransferEvent}
    (h : arrival.Reaction config before left reply events) :
    (arrival.packet.isError = true ∧ left = none) ∨
      arrival.packet.isError = false ∧ ∃ transfer, left = some (arrival.session transfer) := by
  cases h with
  | ended hpacket => exact .inl ⟨hpacket, rfl⟩
  | refused hwrites =>
      refine .inr ⟨Bool.eq_false_iff.mpr fun herror => ?_, _, rfl⟩
      exact absurd hwrites (Bool.eq_false_iff.mp (Packet.not_writes_of_isError herror))
  | unserved hpacket | opened hpacket => exact .inr ⟨by rw [hpacket]; rfl, _, rfl⟩
  | unknown hwire | failed hwire | acknowledged hwire =>
      have hkind := Packet.plain_of_acknowledged (Option.isSome_of_eq_some hwire)
      exact .inr ⟨hkind.1, _, rfl⟩

theorem get?_afterCalls_of_none (config : Config) (habsent : Absent client later)
    (hdistinct : sessions.table.Distinct) (h : sessions.get? client = none) :
    (afterCalls config sessions later).get? client = none := by
  induction later generalizing sessions with
  | nil => exact h
  | cons call later ih =>
      apply ih habsent.tail (call.distinct config hdistinct)
      rcases call.cases_of config hdistinct client with ⟨arrival, rfl, hown⟩ | hsame | hnone
      · exact absurd hown (habsent arrival List.mem_cons_self)
      · exact hsame.trans h
      · exact hnone

theorem spares_packet : Spares (.occasion (.packet arrival) :: later) deadline ↔
    Spares later deadline := by
  constructor
  · rintro ⟨hclear, htime⟩
    exact ⟨fun h => hclear (List.mem_cons_of_mem _ h),
      fun now h => htime now (List.mem_cons_of_mem _ h)⟩
  · rintro ⟨hclear, htime⟩
    exact ⟨by simpa using hclear, by simpa using htime⟩

theorem spares_prune : Spares (.occasion (.prune now) :: later) deadline ↔
    now ≤ deadline ∧ Spares later deadline := by
  constructor
  · rintro ⟨hclear, htime⟩
    exact ⟨htime now List.mem_cons_self, fun h => hclear (List.mem_cons_of_mem _ h),
      fun now h => htime now (List.mem_cons_of_mem _ h)⟩
  · rintro ⟨hnow, hclear, htime⟩
    exact ⟨by simpa using hclear, by simpa using ⟨hnow, htime⟩⟩

theorem isSome_get?_afterCalls (config : Config) (habsent : Absent client later)
    (hdistinct : sessions.table.Distinct) (h : sessions.get? client = some session) :
    ((afterCalls config sessions later).get? client).isSome ↔
      Spares later (session.lastSeen + sessions.timeout) := by
  -- on the calls: the packets of others leave the session as it is, and so does pruning in time
  induction later generalizing sessions with
  | nil =>
      rw [afterCalls, h]
      exact iff_of_true rfl ⟨List.not_mem_nil, fun _ hnow => absurd hnow List.not_mem_nil⟩
  | cons call later ih =>
      have hnext := call.distinct config hdistinct
      have hlost := get?_afterCalls_of_none config habsent.tail hnext
      rw [afterCalls]
      match call with
      | .occasion (.packet arrival) =>
          have hother := habsent arrival List.mem_cons_self
          have hsame := ((arrival.edited config sessions).alike (Ne.symm hother)).get?_eq
          rw [spares_packet, ih habsent.tail hnext (hsame.symm.trans h), Call.timeout_eq]
      | .occasion (.prune now) =>
          have hpruned := Sessions.get?_prune hdistinct client now
          have hidle : session.idle now ≤ sessions.timeout ↔
              now ≤ session.lastSeen + sessions.timeout := by
            rw [Session.idle]
            omega
          simp only [← pruneIdle_sessions, h, Option.filter_some, decide_eq_true_iff, hidle]
            at hpruned
          rw [spares_prune]
          by_cases htime : now ≤ session.lastSeen + sessions.timeout
          · rw [if_pos htime] at hpruned
            rw [and_iff_right htime, ih habsent.tail hnext hpruned, Call.timeout_eq]
          · rw [if_neg htime] at hpruned
            rw [hlost hpruned]
            exact iff_of_false Bool.false_ne_true fun hspares => htime hspares.1
      | .clear =>
          rw [hlost rfl]
          exact iff_of_false Bool.false_ne_true fun hspares => hspares.not_clear List.mem_cons_self

/-! ## Pruning -/

theorem length_clients_le {clients : List IPv4} (h : clients.Nodup) : clients.length ≤ 2 ^ 32 := by
  have hwords : (clients.map fun client => client.word.toNat).Nodup := by
    apply List.Nodup.map _ h
    rintro ⟨first⟩ ⟨second⟩ hsame
    exact congrArg IPv4.mk (UInt32.toNat_inj.mp hsame)
  have hrange : clients.map (fun client => client.word.toNat) ⊆ List.range (2 ^ 32) := by
    intro word hword
    obtain ⟨client, -, rfl⟩ := List.mem_map.mp hword
    exact List.mem_range.mpr client.word.toNat_lt
  have hlength := (List.Nodup.subperm hwords hrange).length_le
  rwa [List.length_map, List.length_range] at hlength

/-- The clients whose sessions are idle for longer than they may. -/
def overdue (sessions : Sessions) (now : Nat) : List IPv4 :=
  (sessions.table.entries.filter fun entry => !(entry.2.idle now ≤ sessions.timeout)).map (·.1)

theorem nodup_overdue (h : sessions.table.Distinct) (now : Nat) : (overdue sessions now).Nodup :=
  List.Nodup.sublist (List.Sublist.map _ List.filter_sublist) h

theorem mem_overdue_iff (h : sessions.table.Distinct) :
    client ∈ overdue sessions now ↔
      ∃ session, sessions.get? client = some session ∧ ¬ session.idle now ≤ sessions.timeout := by
  simp only [overdue, List.mem_map, List.mem_filter, Bool.not_eq_true', decide_eq_false_iff_not]
  constructor
  · rintro ⟨⟨_, session⟩, ⟨hentry, hidle⟩, rfl⟩
    exact ⟨session, (Table.get?_eq_some_iff h).mpr hentry, hidle⟩
  · rintro ⟨session, hsession, hidle⟩
    exact ⟨(client, session), ⟨Table.mem_entries_of_get? hsession, hidle⟩, rfl⟩

theorem pruneCount_eq (sessions : Sessions) (now : Nat) :
    sessions.pruneCount now = (overdue sessions now).length := by
  have hparts := List.length_eq_length_filter_add (l := sessions.table.entries)
    fun entry => decide (entry.2.idle now ≤ sessions.timeout)
  have hkept : (sessions.prune now).size = (sessions.table.entries.filter fun entry =>
      decide (entry.2.idle now ≤ sessions.timeout)).length := rfl
  rw [overdue, List.length_map, Sessions.pruneCount, hkept, Sessions.size, Table.size, hparts,
    Nat.add_sub_cancel_left]

theorem pruneIdle_events (sessions : Sessions) (now : Nat) :
    (pruneIdle sessions now).events =
      if sessions.pruneCount now = 0 then []
      else [.pruned (UInt64.ofNat (sessions.pruneCount now))] := by
  rw [pruneIdle, Sessions.pruneCount]
  split <;> rfl

theorem pruning_overdue (h : sessions.table.Distinct) (now : Nat) :
    Pruning sessions now (overdue sessions now) where
  nodup := nodup_overdue h now
  mem_iff := by
    intro client
    rw [mem_overdue_iff h, pruneIdle_sessions, Sessions.get?_prune h]
    cases sessions.get? client with
    | none => simp
    | some session => simp
  untouched := by
    intro client hkept
    rw [mem_overdue_iff h] at hkept
    rw [pruneIdle_sessions, Sessions.get?_prune h]
    cases hsession : sessions.get? client with
    | none => rfl
    | some session =>
        rw [Option.filter_some, if_pos]
        rw [decide_eq_true_iff]
        by_contra hidle
        exact hkept ⟨session, hsession, hidle⟩
  count_eq := pruneCount_eq sessions now
  silent := by
    intro hnone
    rw [pruneIdle_events, pruneCount_eq, hnone]
    rfl
  announced := by
    intro hsome
    have hle := length_clients_le (nodup_overdue h now)
    have hpos : (overdue sessions now).length ≠ 0 := mt List.length_eq_zero_iff.mp hsome
    refine ⟨UInt64.ofNat (overdue sessions now).length, ?_, ?_⟩
    · rw [UInt64.toNat_ofNat']
      omega
    · rw [pruneIdle_events, pruneCount_eq, if_neg hpos]

theorem Arrival.outcome_of_no_session (config : Config) {other : Sessions}
    (h : sessions.get? arrival.client = none) (hother : other.get? arrival.client = none)
    (htimeout : sessions.timeout = other.timeout) :
    (arrival.outcome config sessions).reply = (arrival.outcome config other).reply ∧
      (arrival.outcome config sessions).sessions.get? arrival.client =
        (arrival.outcome config other).sessions.get? arrival.client := by
  have halike : Sessions.Alike arrival.client sessions other := ⟨h.trans hother.symm, htimeout⟩
  obtain ⟨hreply, hsessions⟩ := perform_alike config (halike.touch arrival.port arrival.now)
    arrival.disk arrival.packet
  simp only [outcome, handle, finish_reply, finish_sessions]
  exact ⟨hreply, hsessions.get?_eq⟩

/-! ## Histories -/

theorem Latest.isSome_get?_iff (h : Latest client calls arrival later) (config : Config)
    (timeout : Nat) :
    ((afterCalls config (.empty timeout) calls).get? client).isSome ↔
      arrival.packet.isError = false ∧ Spares later (arrival.now + timeout) := by
  obtain ⟨⟨earlier, rfl⟩, rfl, habsent⟩ := h
  have hdistinct : (afterCalls config (.empty timeout) earlier).table.Distinct :=
    distinct_afterCalls config Table.distinct_empty earlier
  have htimeout : (afterCalls config (.empty timeout) earlier).timeout = timeout :=
    timeout_afterCalls config _ earlier
  rw [afterCalls_append, afterCalls]
  generalize afterCalls config (.empty timeout) earlier = before at hdistinct htimeout ⊢
  have hnext := (Call.occasion (.packet arrival)).distinct config hdistinct
  rcases (arrival.reaction config before).left_eq with
    ⟨herror, hnone⟩ | ⟨hpacket, transfer, hsome⟩
  · rw [get?_afterCalls_of_none config habsent hnext hnone]
    exact iff_of_false Bool.false_ne_true fun hkept => nomatch herror.symm.trans hkept.1
  · rw [isSome_get?_afterCalls config habsent hnext hsome, Call.timeout_eq, htimeout,
      and_iff_right hpacket]
    rfl

/-- A client has a session if it has sent a packet, the latest one is no error, and sessions were
not dropped since, unless at a time not more than the timeout after it. Each client has one session.
Dropping idle sessions counts and announces those that it drops and leaves the others as they are.
The next packet of a client whose session was dropped meets no transfer. -/
theorem sessions_last_until_idle (config : Config) (timeout : Nat) (calls : List Call) :
    let sessions := afterCalls config (.empty timeout) calls
    (∀ client, (sessions.get? client).isSome ↔ ∃ arrival later, Latest client calls arrival later ∧
      arrival.packet.isError = false ∧ Spares later (arrival.now + timeout)) ∧
    sessions.table.keys.Nodup ∧
    ∀ now, ∃ dropped, Pruning sessions now dropped ∧
      ∀ arrival : Arrival, arrival.client ∈ dropped →
        ∀ between, Absent arrival.client between →
          let first := arrival.outcome config
            (afterCalls config (pruneIdle sessions now).sessions between)
          let fresh := arrival.outcome config (.empty timeout)
          first.reply = fresh.reply ∧
            first.sessions.get? arrival.client = fresh.sessions.get? arrival.client ∧
            (arrival.packet.acknowledged?.isSome →
              first.reply = some (.error .unknownTransferId "no transfer in progress")) := by
  intro sessions
  have hempty : (Sessions.empty timeout).table.Distinct := Table.distinct_empty
  have hdistinct : sessions.table.Distinct := distinct_afterCalls config hempty calls
  refine ⟨?_, hdistinct, fun now => ⟨overdue sessions now, pruning_overdue hdistinct now, ?_⟩⟩
  · intro client
    constructor
    · intro hsession
      rcases absent_or_latest client calls with habsent | ⟨arrival, later, hlatest⟩
      · have hnone := get?_afterCalls_of_none config habsent hempty rfl
        exact absurd hsession (by simp [sessions, hnone])
      · exact ⟨arrival, later, hlatest, (hlatest.isSome_get?_iff config timeout).mp hsession⟩
    · rintro ⟨arrival, later, hlatest, hkept⟩
      exact (hlatest.isSome_get?_iff config timeout).mpr hkept
  · intro arrival hdropped between habsent first fresh
    have hpruned := ((pruning_overdue hdistinct now).mem_iff arrival.client).mp hdropped
    have hpruneDistinct := (Call.occasion (.prune now)).distinct config hdistinct
    have hnone := get?_afterCalls_of_none config habsent hpruneDistinct hpruned.2
    have htimeout : (afterCalls config (pruneIdle sessions now).sessions between).timeout =
        (Sessions.empty timeout).timeout := by
      rw [timeout_afterCalls, pruneIdle_sessions, Sessions.prune]
      exact timeout_afterCalls config _ calls
    obtain ⟨hreply, hsession⟩ := arrival.outcome_of_no_session config hnone rfl htimeout
    refine ⟨hreply, hsession, fun hwire => hreply.trans ?_⟩
    exact ((arrival.reaction config (.empty timeout)).of_no_transfer hwire).2

namespace Small

/-- The client asks for a file, a neighbour does so after 200, and sessions are pruned at 300. -/
def visits : List Call :=
  [.occasion (.packet request),
    .occasion (.packet { request with client := neighbour, now := 200 }),
    .occasion (.prune 300)]

end Small

/-- With a timeout of 300 the session of the client lasts up to 300 and no longer. -/
theorem small_sessions_last_until_idle :
    let sessions := afterCalls Small.config (.empty 300) Small.visits
    (sessions.get? Small.client).isSome ∧ ∃ dropped, Pruning sessions 301 dropped ∧
      Small.client ∈ dropped ∧ Small.neighbour ∉ dropped ∧
      ((Small.ack 1).outcome Small.config (pruneIdle sessions 301).sessions).reply =
        some (.error .unknownTransferId "no transfer in progress") := by
  intro sessions
  obtain ⟨-, -, hprune⟩ := sessions_last_until_idle Small.config 300 Small.visits
  obtain ⟨dropped, hpruning, hanew⟩ := hprune 301
  have hdropped : Small.client ∈ dropped := (hpruning.mem_iff _).mpr (by decide +kernel)
  have hkept : Small.neighbour ∉ dropped := fun hmem =>
    absurd ((hpruning.mem_iff _).mp hmem).2 (by decide +kernel)
  have hnothing : Absent Small.client [] := fun _ harrival => absurd harrival List.not_mem_nil
  obtain ⟨-, -, hreply⟩ := hanew (Small.ack 1) hdropped [] hnothing
  exact ⟨by decide +kernel, dropped, hpruning, hdropped, hkept, hreply rfl⟩

end BootServer.Tftp
