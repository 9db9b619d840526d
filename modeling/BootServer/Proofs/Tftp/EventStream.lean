import BootServer.Proofs.Tftp.Reactions

/-!
# What the events tell

An error that is sent is announced, and nothing else is announced as an error. A transfer is
announced when it starts, and when its last block is acknowledged for the first time; one whose
first block cannot be read is announced as started, and then its failure is. So the events tell of
no client that it completed more transfers than it started, and what it completed is what it started
last.
-/

namespace BootServer.Tftp

def TransferEvent.isErrorSent : TransferEvent → Bool
  | .errorSent .. => true
  | _ => false

/-- The path of a transfer that an event announces to a client as started. -/
def startedPath? (client : IPv4) : TransferEvent → Option String
  | .started other path _ _ => if other = client then some path else none
  | _ => none

def completedPath? (client : IPv4) : TransferEvent → Option String
  | .completed other path _ => if other = client then some path else none
  | _ => none

def startedPaths (client : IPv4) (events : List TransferEvent) : List String :=
  events.filterMap (startedPath? client)

def completedPaths (client : IPv4) (events : List TransferEvent) : List String :=
  events.filterMap (completedPath? client)

def eventsOver (config : Config) : Sessions → List Call → List TransferEvent
  | _, [] => []
  | sessions, call :: rest =>
    let outcome := call.outcome config sessions
    outcome.events ++ eventsOver config outcome.sessions rest

/-- Up to every event, a client has not completed more transfers than it has started, and the one
that it completes is the one that it started last. -/
structure Balanced (client : IPv4) (events : List TransferEvent) : Prop where
  counted : ∀ past, past <+: events →
    (completedPaths client past).length ≤ (startedPaths client past).length
  named : ∀ past path blocks rest, events = past ++ .completed client path blocks :: rest →
    (startedPaths client past).getLast? = some path

/-- What was told of a client that has this transfer now: the transfer is the one that was started
last, and while it is not completed, its completion is still to be told. -/
structure Told (client : IPv4) (current : Option Transfer) (past : List TransferEvent) :
    Prop where
  balanced : Balanced client past
  named : ∀ transfer, current = some transfer →
    (startedPaths client past).getLast? = some transfer.path
  owed : ∀ transfer, current = some transfer → transfer.completed = false →
    (completedPaths client past).length < (startedPaths client past).length

variable {config : Config} {client : IPv4} {sessions : Sessions} {arrival : Arrival}
  {before after current : Option Transfer} {transfer : Transfer} {left : Option Session}
  {reply : Option Packet} {past events : List TransferEvent} {event : TransferEvent}
  {path : String}

/-! ## Balanced events -/

@[simp] theorem startedPaths_append (client : IPv4) (past events : List TransferEvent) :
    startedPaths client (past ++ events) = startedPaths client past ++ startedPaths client events :=
  List.filterMap_append

@[simp] theorem completedPaths_append (client : IPv4) (past events : List TransferEvent) :
    completedPaths client (past ++ events) =
      completedPaths client past ++ completedPaths client events :=
  List.filterMap_append

@[simp] theorem startedPaths_started (client : IPv4) (path : String) (size : UInt64)
    (blockSize : UInt16) :
    startedPaths client [.started client path size blockSize] = [path] := by
  simp [startedPaths, startedPath?]

@[simp] theorem startedPaths_completed (client other : IPv4) (path : String) (blocks : UInt64) :
    startedPaths client [.completed other path blocks] = [] := rfl

@[simp] theorem completedPaths_started (client other : IPv4) (path : String) (size : UInt64)
    (blockSize : UInt16) : completedPaths client [.started other path size blockSize] = [] := rfl

@[simp] theorem completedPaths_completed (client : IPv4) (path : String) (blocks : UInt64) :
    completedPaths client [.completed client path blocks] = [path] := by
  simp [completedPaths, completedPath?]

theorem balanced_nil (client : IPv4) : Balanced client [] where
  counted := by
    intro past hpast
    rw [List.prefix_nil.mp hpast]
    exact Nat.le_refl 0
  named := fun _ _ _ _ hsplit => absurd hsplit.symm (by simp)

theorem Balanced.concat (h : Balanced client past)
    (hcount : (completedPaths client (past ++ [event])).length ≤
      (startedPaths client (past ++ [event])).length)
    (hname : ∀ path blocks, event = .completed client path blocks →
      (startedPaths client past).getLast? = some path) :
    Balanced client (past ++ [event]) where
  counted := by
    intro front hfront
    rcases List.prefix_concat_iff.mp hfront with rfl | hfront
    · exact hcount
    · exact h.counted front hfront
  named := by
    intro front path blocks rest hsplit
    -- the completion is the new event, or it was there before
    rcases List.eq_nil_or_concat rest with rfl | ⟨rest, last, rfl⟩
    · obtain ⟨rfl, hlast⟩ := List.append_inj' hsplit rfl
      exact hname path blocks (List.singleton_inj.mp hlast)
    · rw [List.concat_eq_append, ← List.cons_append, ← List.append_assoc] at hsplit
      exact h.named front path blocks rest (List.append_inj' hsplit rfl).1

namespace Told

theorem none (h : Told client before past) : Told client .none past := ⟨h.balanced, nofun, nofun⟩

theorem moved (h : Told client (some transfer) past) {next : Transfer}
    (hpath : next.path = transfer.path) (hcompleted : next.completed = transfer.completed) :
    Told client (some next) past where
  balanced := h.balanced
  named := by
    rintro _ ⟨⟩
    rw [hpath]
    exact h.named transfer rfl
  owed := by
    rintro _ ⟨⟩ hopen
    exact h.owed transfer rfl (hcompleted.symm.trans hopen)

/-- Events that tell of no start and no completion change nothing. -/
theorem quiet (h : Told client current past) (hstarted : startedPaths client events = [])
    (hcompleted : completedPaths client events = []) : Told client current (past ++ events) := by
  induction events generalizing past with
  | nil => rwa [List.append_nil]
  | cons event events ih =>
      obtain ⟨hstart, hstarts⟩ := List.append_eq_nil_iff.mp
        ((startedPaths_append client [event] events).symm.trans hstarted)
      obtain ⟨hcompletion, hcompletions⟩ := List.append_eq_nil_iff.mp
        ((completedPaths_append client [event] events).symm.trans hcompleted)
      have hstartedSame : startedPaths client (past ++ [event]) = startedPaths client past := by
        rw [startedPaths_append, hstart, List.append_nil]
      have hcompletedSame :
          completedPaths client (past ++ [event]) = completedPaths client past := by
        rw [completedPaths_append, hcompletion, List.append_nil]
      have hnext : Told client current (past ++ [event]) := by
        refine ⟨h.balanced.concat ?_ ?_, ?_, ?_⟩
        · rw [hstartedSame, hcompletedSame]
          exact h.balanced.counted past (List.prefix_refl past)
        · rintro path blocks rfl
          exact absurd hcompletion (by simp)
        · rw [hstartedSame]
          exact h.named
        · rw [hstartedSame, hcompletedSame]
          exact h.owed
      rw [List.append_cons]
      exact ih hnext hstarts hcompletions

theorem started (h : Told client before past) (size : UInt64) (blockSize : UInt16)
    (hpath : transfer.path = path) :
    Told client (some transfer) (past ++ [.started client path size blockSize]) := by
  have hstarted : startedPaths client (past ++ [.started client path size blockSize]) =
      startedPaths client past ++ [path] := by
    simp
  have hcompleted : completedPaths client (past ++ [.started client path size blockSize]) =
      completedPaths client past := by
    simp
  have hcount := h.balanced.counted past (List.prefix_refl past)
  refine ⟨h.balanced.concat ?_ (fun _ _ hevent => nomatch hevent), ?_, ?_⟩
  · rw [hstarted, hcompleted, List.length_append]
    exact Nat.le_add_right_of_le hcount
  · rintro _ ⟨⟩
    rw [hstarted, List.getLast?_concat, hpath]
  · rintro _ ⟨⟩ -
    rw [hstarted, hcompleted, List.length_append]
    exact Nat.lt_succ_of_le hcount

theorem completed (h : Told client (some transfer) past) (hopen : transfer.completed = false)
    (blocks : UInt64) :
    Told client (some { transfer with completed := true })
      (past ++ [.completed client transfer.path blocks]) := by
  have hstarted : startedPaths client (past ++ [.completed client transfer.path blocks]) =
      startedPaths client past := by
    simp
  have hcompleted : completedPaths client (past ++ [.completed client transfer.path blocks]) =
      completedPaths client past ++ [transfer.path] := by
    simp
  have hnamed := h.named transfer rfl
  refine ⟨h.balanced.concat ?_ ?_, ?_, ?_⟩
  · -- the completion was still to be told
    rw [hstarted, hcompleted, List.length_append]
    exact h.owed transfer rfl hopen
  · rintro path blocks ⟨⟩
    exact hnamed
  · rintro _ ⟨⟩
    rw [hstarted]
    exact hnamed
  · rintro _ ⟨⟩ hnever
    exact absurd hnever (by simp)

end Told

/-! ## Steps -/

theorem Arrival.ReadFails.told {fileName : String} {options : Options} {failure : Failure}
    (h : arrival.ReadFails config fileName options failure events)
    (hpast : Told arrival.client .none past) : Told arrival.client .none (past ++ events) := by
  cases h with
  | unopened => exact hpast.quiet rfl rfl
  | @unstarted opened _ _ _ =>
      -- the transfer that was announced is none that the client has
      have hstarted : Told arrival.client (some (settled opened options)) (past ++ _) :=
        hpast.started (settled opened options).size (settled opened options).blockSize rfl
      rw [List.append_cons]
      exact hstarted.none.quiet rfl rfl

theorem Arrival.Reaction.told (h : arrival.Reaction config before left reply events)
    (hpast : Told arrival.client before past) :
    Told arrival.client (left.bind (·.transfer)) (past ++ events) := by
  cases h with
  | ended => exact hpast.none.quiet rfl rfl
  | refused => exact hpast.quiet rfl rfl
  | unserved _ hfails => exact hfails.told hpast.none
  | opened _ _ hfirst => exact hpast.started _ _ (firstPacket_ok hfirst).1.path_eq
  | unknown => exact hpast.none.quiet rfl rfl
  | failed _ hbefore =>
      rw [hbefore] at hpast
      exact hpast.quiet rfl rfl
  | acknowledged _ hbefore hack =>
      rw [hbefore] at hpast
      rcases Transfer.acknowledge_inv hack with
        ⟨-, packet, rfl, hsend⟩ | ⟨-, hopen, rfl, rfl⟩ | ⟨-, rfl, rfl⟩
      · obtain ⟨-, -, rfl⟩ := Transfer.sendBlock_inv hsend
        apply Told.quiet _ rfl rfl
        exact hpast.moved rfl rfl
      · exact hpast.completed hopen _
      · exact hpast.quiet rfl rfl

theorem Arrival.Reaction.quiet_of_ne (h : arrival.Reaction config before left reply events)
    (hne : arrival.client ≠ client) :
    startedPaths client events = [] ∧ completedPaths client events = [] := by
  cases h with
  | ended => exact ⟨rfl, rfl⟩
  | refused | unknown | failed => exact ⟨rfl, rfl⟩
  | unserved _ hfails =>
      cases hfails with
      | unopened => exact ⟨rfl, rfl⟩
      | unstarted => exact ⟨by simp [startedPaths, startedPath?, Failure.event, hne], rfl⟩
  | opened => exact ⟨by simp [startedPaths, startedPath?, hne], rfl⟩
  | acknowledged _ _ hack =>
      rcases Transfer.acknowledge_inv hack with
        ⟨-, packet, rfl, -⟩ | ⟨-, -, rfl, rfl⟩ | ⟨-, rfl, rfl⟩
      · exact ⟨rfl, rfl⟩
      · exact ⟨rfl, by simp [completedPaths, completedPath?, AckOutcome.events, hne]⟩
      · exact ⟨rfl, rfl⟩

theorem pruneIdle_quiet (client : IPv4) (sessions : Sessions) (now : Nat) :
    startedPaths client (pruneIdle sessions now).events = [] ∧
      completedPaths client (pruneIdle sessions now).events = [] := by
  unfold pruneIdle
  dsimp only
  split <;> exact ⟨rfl, rfl⟩

theorem Call.quiet_of_not_own (config : Config) (sessions : Sessions) {call : Call}
    (h : ¬ ∃ arrival, call = .occasion (.packet arrival) ∧ arrival.client = client) :
    startedPaths client (call.outcome config sessions).events = [] ∧
      completedPaths client (call.outcome config sessions).events = [] := by
  match call with
  | .occasion (.packet arrival) =>
      apply (arrival.reaction config sessions).quiet_of_ne
      exact fun hclient => h ⟨arrival, rfl, hclient⟩
  | .occasion (.prune now) => exact pruneIdle_quiet client sessions now
  | .clear => exact ⟨rfl, rfl⟩

theorem Call.told (hdistinct : sessions.table.Distinct) (call : Call)
    (hpast : Told client (sessions.transfer? client) past) :
    Told client ((call.outcome config sessions).sessions.transfer? client)
      (past ++ (call.outcome config sessions).events) := by
  by_cases hown : ∃ arrival, call = .occasion (.packet arrival) ∧ arrival.client = client
  · obtain ⟨arrival, rfl, rfl⟩ := hown
    exact (arrival.reaction config sessions).told hpast
  · obtain ⟨hstarted, hcompleted⟩ := quiet_of_not_own config sessions hown
    apply Told.quiet _ hstarted hcompleted
    rcases (call.transfer?_cases config hdistinct client).resolve_left hown with hsame | hnone
    · rw [hsame]
      exact hpast
    · rw [hnone]
      exact hpast.none

theorem told_eventsOver (config : Config) (hdistinct : sessions.table.Distinct)
    (calls : List Call) (hpast : Told client (sessions.transfer? client) past) :
    Told client ((afterCalls config sessions calls).transfer? client)
      (past ++ eventsOver config sessions calls) := by
  -- on the calls: what was told is up to date with the client's transfer throughout
  induction calls generalizing sessions past with
  | nil =>
      rw [eventsOver, List.append_nil]
      exact hpast
  | cons call calls ih =>
      rw [eventsOver, ← List.append_assoc]
      exact ih (call.distinct config hdistinct) (call.told hdistinct hpast)

theorem balanced_eventsOver (config : Config) (timeout : Nat) (calls : List Call)
    (client : IPv4) : Balanced client (eventsOver config (.empty timeout) calls) := by
  have hstart : Told client ((Sessions.empty timeout).transfer? client) [] :=
    ⟨balanced_nil client, fun _ hnone => (nomatch hnone), fun _ hnone => (nomatch hnone)⟩
  exact (told_eventsOver config Table.distinct_empty calls hstart).balanced

/-! ## Replies and events -/

/-- A reply is an error just when the last event says so, and then it is the only one that does. -/
structure ErrorsTold (client : IPv4) (reply : Option Packet) (events : List TransferEvent) :
    Prop where
  error_iff : ∀ code message, reply = some (.error code message) ↔
    events.filter TransferEvent.isErrorSent = [.errorSent client code.code message] ∧
      events.getLast? = some (.errorSent client code.code message)
  silent : (∀ code message, reply ≠ some (.error code message)) →
    events.filter TransferEvent.isErrorSent = []

theorem ErrorCode.code_inj {first second : ErrorCode} (h : first.code = second.code) :
    first = second := by
  rw [← ofCode_code first, h, ofCode_code]

theorem errorsTold_failure (client : IPv4) (failure : Failure) (earlier : List TransferEvent)
    (hearlier : earlier.filter TransferEvent.isErrorSent = []) :
    ErrorsTold client (some failure.packet) (earlier ++ [failure.event client]) where
  error_iff := by
    intro code message
    rw [List.filter_append, hearlier, List.getLast?_concat]
    constructor
    · intro hreply
      obtain ⟨rfl, rfl⟩ := Packet.error.inj (Option.some.inj hreply)
      exact ⟨rfl, rfl⟩
    · rintro ⟨-, hlast⟩
      obtain ⟨-, hcode, rfl⟩ := TransferEvent.errorSent.inj (Option.some.inj hlast)
      rw [← ErrorCode.code_inj hcode, Failure.packet]
  silent := fun hother => absurd rfl (hother failure.code failure.message)

theorem errorsTold_of_quiet (hreply : ∀ code message, reply ≠ some (.error code message))
    (hevents : events.filter TransferEvent.isErrorSent = []) :
    ErrorsTold client reply events where
  error_iff := by
    intro code message
    refine iff_of_false (hreply code message) ?_
    rw [hevents]
    exact fun htold => nomatch htold.1
  silent := fun _ => hevents

theorem Arrival.Reaction.errorsTold (h : arrival.Reaction config before left reply events) :
    ErrorsTold arrival.client reply events := by
  cases h with
  | ended => exact errorsTold_of_quiet (fun _ _ hreply => nomatch hreply) rfl
  | refused | unknown | failed => exact errorsTold_failure arrival.client _ [] rfl
  | unserved _ hfails =>
      cases hfails with
      | unopened => exact errorsTold_failure arrival.client _ [] rfl
      | unstarted => exact errorsTold_failure arrival.client _ [_] rfl
  | opened _ _ hfirst =>
      apply errorsTold_of_quiet _ rfl
      rcases firstPacket_reply hfirst with ⟨payload, rfl⟩ | ⟨granted, rfl⟩
      · exact fun _ _ hreply => nomatch hreply
      · exact fun _ _ hreply => nomatch hreply
  | acknowledged _ _ hack =>
      rcases Transfer.acknowledge_inv hack with
        ⟨-, packet, rfl, hsend⟩ | ⟨-, -, rfl, rfl⟩ | ⟨-, rfl, rfl⟩
      · obtain ⟨-, rfl, -⟩ := Transfer.sendBlock_inv hsend
        exact errorsTold_of_quiet (fun _ _ hreply => nomatch hreply) rfl
      all_goals exact errorsTold_of_quiet (fun _ _ hreply => nomatch hreply) rfl

theorem Arrival.Reaction.of_writes (h : arrival.Reaction config before left reply events)
    (hwrites : arrival.packet.writes = true) :
    left = some (arrival.session before) ∧ reply = some writeRefused.packet := by
  cases h with
  | refused => exact ⟨rfl, rfl⟩
  | ended herror =>
      exact absurd hwrites (Bool.eq_false_iff.mp (Packet.not_writes_of_isError herror))
  | unserved hpacket | opened hpacket =>
      rw [hpacket] at hwrites
      exact nomatch hwrites
  | unknown hwire | failed hwire | acknowledged hwire =>
      have hplain := Packet.plain_of_acknowledged (Option.isSome_of_eq_some hwire)
      exact absurd hwrites (Bool.eq_false_iff.mp hplain.2.1)

theorem Arrival.Reaction.of_isError (h : arrival.Reaction config before left reply events)
    (herror : arrival.packet.isError = true) : left = none ∧ reply = none := by
  cases h with
  | ended => exact ⟨rfl, rfl⟩
  | refused hwrites =>
      exact absurd hwrites (Bool.eq_false_iff.mp (Packet.not_writes_of_isError herror))
  | unserved hpacket | opened hpacket =>
      rw [hpacket] at herror
      exact nomatch herror
  | unknown hwire | failed hwire | acknowledged hwire =>
      have hplain := Packet.plain_of_acknowledged (Option.isSome_of_eq_some hwire)
      exact absurd herror (Bool.eq_false_iff.mp hplain.1)

/-! ## Refused requests -/

/-- Only a read request brings a client to a transfer. -/
theorem Arrival.Reaction.without_transfer (h : arrival.Reaction config none left reply events)
    (hasks : arrival.packet.isReadRequest = false) : left.bind (·.transfer) = none := by
  cases h with
  | ended | refused | unknown => rfl
  | unserved hpacket | opened hpacket =>
      rw [hpacket] at hasks
      exact nomatch hasks
  | failed _ hbefore | acknowledged _ hbefore => exact nomatch hbefore

theorem transfer?_afterCalls_of_none (config : Config) {calls : List Call}
    (hasks : AsksNothing client calls) (hdistinct : sessions.table.Distinct)
    (h : sessions.transfer? client = none) :
    (afterCalls config sessions calls).transfer? client = none := by
  induction calls generalizing sessions with
  | nil => exact h
  | cons call calls ih =>
      apply ih hasks.tail (call.distinct config hdistinct)
      rcases call.transfer?_cases config hdistinct client with ⟨arrival, rfl, rfl⟩ | hsame | hnone
      · have hreaction := arrival.reaction config sessions
        rw [h] at hreaction
        exact hreaction.without_transfer (hasks arrival List.mem_cons_self rfl)
      · exact hsame.trans h
      · exact hnone

theorem Arrival.unknown_of_no_transfer (config : Config) (ack : Arrival)
    (h : sessions.transfer? ack.client = none) (hwire : ack.packet.acknowledged?.isSome) :
    (ack.outcome config sessions).reply =
      some (.error .unknownTransferId "no transfer in progress") := by
  have hreaction := ack.reaction config sessions
  rw [h] at hreaction
  exact (hreaction.of_no_transfer hwire).2

/-- What a refused read request leads to, whatever is called for before the client's next
acknowledgement. -/
structure RefusedRead (config : Config) (request : Arrival) (fileName : String)
    (options : Options) (outcome : Outcome) : Prop where
  refused : ∃ failure, outcome.reply = some (.error failure.code failure.message) ∧
    request.ReadFails config fileName options failure outcome.events
  without : outcome.sessions.transfer? request.client = none
  unknown : ∀ between (ack : Arrival), AsksNothing request.client between →
    ack.client = request.client → ack.packet.acknowledged?.isSome →
    (ack.outcome config (afterCalls config outcome.sessions between)).reply =
      some (.error .unknownTransferId "no transfer in progress")

/-- What a read request leads to that is served: the one event names the file that the request
stands for, its size, and the block size that its transfer has. -/
structure ServedRead (config : Config) (request : Arrival) (fileName : String)
    (outcome : Outcome) : Prop where
  answered : ∃ reply, outcome.reply = some reply ∧ reply.opcode ∈ [.data, .optionAck]
  started : ∃ names place file transfer,
    resolve request.disk config.tftp.root config.tftp.followMarkers fileName = .ok names ∧
    request.disk.locate (located config.tftp.root names) = .ok (place, .file file) ∧
    outcome.sessions.transfer? request.client = some transfer ∧ transfer.file = file ∧
    outcome.events = [.started request.client (joined names)
      (UInt64.ofNat (request.disk.content file).length) transfer.blockSize]

theorem Arrival.read_cases (config : Config) (hdistinct : sessions.table.Distinct)
    {request : Arrival} {fileName mode : String} {options : Options}
    (hpacket : request.packet = .readRequest fileName mode options) :
    RefusedRead config request fileName options (request.outcome config sessions) ∨
      ServedRead config request fileName (request.outcome config sessions) := by
  rcases (request.reaction config sessions).of_reads hpacket with
    ⟨failure, hfails, hleft, hreply⟩ |
      ⟨opened, after, reply, hopen, hfirst, hleft, hreply, hevents⟩
  · have hnone : (request.outcome config sessions).sessions.transfer? request.client = none :=
      Sessions.transfer?_of_get? hleft
    refine .inl ⟨⟨failure, hreply, hfails⟩, hnone, ?_⟩
    intro between ack hasks hclient hwire
    apply ack.unknown_of_no_transfer config _ hwire
    rw [hclient]
    have hnext := (Call.occasion (.packet request)).distinct config hdistinct
    exact transfer?_afterCalls_of_none config hasks hnext hnone
  · obtain ⟨names, place, file, hresolve, hlocate, rfl⟩ := openRequested_eq_ok hopen
    have hsame := (firstPacket_ok hfirst).1
    refine .inr ⟨⟨reply, hreply, ?_⟩, names, place, file, after, hresolve, hlocate, ?_, ?_, ?_⟩
    · rcases firstPacket_reply hfirst with ⟨payload, rfl⟩ | ⟨granted, rfl⟩
      · exact List.mem_cons_self
      · exact List.mem_cons_of_mem _ List.mem_cons_self
    · exact Sessions.transfer?_of_get? hleft
    · rw [hsame.file_eq, file_settled]
      rfl
    · rw [hevents, path_settled, size_settled, ← hsame.blockSize_eq]
      rfl

theorem RefusedRead.of_error {request : Arrival} {fileName message : String} {options : Options}
    {outcome : Outcome} {code : ErrorCode}
    (h : RefusedRead config request fileName options outcome ∨
      ServedRead config request fileName outcome)
    (hreply : outcome.reply = some (.error code message)) :
    RefusedRead config request fileName options outcome := by
  rcases h with hrefused | hserved
  · exact hrefused
  · obtain ⟨reply, hother, hkind⟩ := hserved.answered
    obtain rfl := Option.some.inj (hreply.symm.trans hother)
    exact absurd hkind (by simp [Packet.opcode])

/-- A reply is an error just when its event is the last one. What would write is refused and changes
no transfer; an error packet gets no reply and ends the session; a read request is refused, before
or after its transfer is announced, and then the client has no transfer, or it is served, and this
is told. No client completes more than it starts, and it completes what it started last. -/
theorem events_tell_of_replies (config : Config) (timeout : Nat) (calls : List Call) :
    let sessions := afterCalls config (.empty timeout) calls
    (∀ arrival : Arrival,
      let outcome := arrival.outcome config sessions
      ErrorsTold arrival.client outcome.reply outcome.events ∧
      (arrival.packet.writes →
        outcome.reply =
          some (.error .accessViolation "Writing is not implemented on this server") ∧
        ∀ client, outcome.sessions.transfer? client = sessions.transfer? client) ∧
      (arrival.packet.isError →
        outcome.reply = none ∧ outcome.sessions.get? arrival.client = none) ∧
      ∀ fileName mode options, arrival.packet = .readRequest fileName mode options →
        RefusedRead config arrival fileName options outcome ∨
          ServedRead config arrival fileName outcome) ∧
    ∀ client, Balanced client (eventsOver config (.empty timeout) calls) := by
  intro sessions
  have hdistinct : sessions.table.Distinct :=
    distinct_afterCalls config Table.distinct_empty calls
  refine ⟨fun arrival => ?_, balanced_eventsOver config timeout calls⟩
  intro outcome
  have hreaction := arrival.reaction config sessions
  refine ⟨hreaction.errorsTold, fun hwrites => ?_, fun herror => ?_, fun _ _ _ hpacket => ?_⟩
  · obtain ⟨hleft, hreply⟩ := hreaction.of_writes hwrites
    refine ⟨hreply, fun client => ?_⟩
    by_cases hclient : client = arrival.client
    · rw [hclient]
      exact Sessions.transfer?_of_get? hleft
    · exact ((arrival.edited config sessions).alike hclient).transfer?_eq.symm
  · exact (hreaction.of_isError herror).symm
  · exact Arrival.read_cases config hdistinct hpacket

namespace Small

/-- The client reads the file to its end. -/
def wholeRead : List Call :=
  (request :: [0, 1, 2, 3, 4].map ack).map fun arrival => .occasion (.packet arrival)

def refusal : Arrival := { request with packet := .readRequest "initrd" "octet" [] }

/-- The file is there, and its first block cannot be read. -/
def unread : Arrival := { request with disk := broken, packet := .readRequest "kernel" "octet" [] }

end Small

/-- The client reads a file, is refused another one, and then has no transfer; it asks for the first
one again, which starts and fails, and then it has none either. -/
theorem small_events_tell_of_replies :
    let sessions := afterCalls Small.config (.empty 0) Small.wholeRead
    let events := eventsOver Small.config (.empty 0) Small.wholeRead
    let refused := Small.refusal.outcome Small.config sessions
    let unread := Small.unread.outcome Small.config sessions
    let unknown := some (.error .unknownTransferId "no transfer in progress")
    events = [.started Small.client "kernel" 28 8, .completed Small.client "kernel" 4] ∧
      Balanced Small.client events ∧
      refused.events = [.errorSent Small.client 1 "file not found: initrd"] ∧
      ((Small.ack 4).outcome Small.config refused.sessions).reply = unknown ∧
      unread.reply = some (.error .notDefined "Input/output error (os error 5)") ∧
      unread.events = [.started Small.client "kernel" 28 512,
        .errorSent Small.client 0 "Input/output error (os error 5)"] ∧
      ((Small.ack 1).outcome Small.config unread.sessions).reply = unknown := by
  intro sessions events refused unread unknown
  obtain ⟨hpackets, hbalanced⟩ := events_tell_of_replies Small.config 0 Small.wholeRead
  obtain ⟨-, -, -, hrefused⟩ := hpackets Small.refusal
  obtain ⟨-, -, -, hunread⟩ := hpackets Small.unread
  have hrefusal : refused.reply = some (.error .fileNotFound "file not found: initrd") := by
    decide +kernel
  have hfailure : unread.reply = some (.error .notDefined "Input/output error (os error 5)") := by
    decide +kernel
  have hnothing : AsksNothing Small.client [] := fun _ harrival => absurd harrival List.not_mem_nil
  refine ⟨by decide +kernel, hbalanced Small.client, by decide +kernel, ?_, hfailure,
    by decide +kernel, ?_⟩
  · exact (RefusedRead.of_error (hrefused _ _ _ rfl) hrefusal).unknown [] (Small.ack 4) hnothing
      rfl rfl
  · exact (RefusedRead.of_error (hunread _ _ _ rfl) hfailure).unknown [] (Small.ack 1) hnothing
      rfl rfl

end BootServer.Tftp
