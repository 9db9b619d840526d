import BootServer.Proofs.Tftp.HopLimit
import BootServer.Proofs.Tftp.Isolation

/-!
# What a packet comes to

A packet leaves its client with a session and a transfer in it, gets a reply, and is announced.
`Arrival.Reaction` has a case for each way in which this can go, and says all that comes of it.
Calls are the occasions together with the end of a service, which drops every session.
-/

namespace BootServer.Tftp

namespace Packet

def isError : Packet → Bool
  | error .. => true
  | _ => false

/-- Only a server that takes files has a use for the packet. -/
def writes : Packet → Bool
  | writeRequest .. | data .. => true
  | _ => false

def isReadRequest : Packet → Bool
  | readRequest .. => true
  | _ => false

end Packet

namespace Arrival

def session (arrival : Arrival) (transfer : Option Transfer) : Session :=
  ⟨arrival.port, arrival.now, transfer⟩

/-- How a read request fails, and what is announced of that: no file is opened, or it is opened and
its transfer is announced, and then its first block cannot be read. -/
inductive ReadFails (config : Config) (request : Arrival) (fileName : String) (options : Options) :
    Failure → List TransferEvent → Prop
  | unopened {failure : Failure}
      (hopen : openRequested config request.disk fileName = .error failure) :
      ReadFails config request fileName options failure [failure.event request.client]
  | unstarted {opened : Transfer} {failure : Failure}
      (hopen : openRequested config request.disk fileName = .ok opened)
      (hfirst : firstPacket request.disk (settled opened options) options = .error failure) :
      ReadFails config request fileName options failure
        [.started request.client (settled opened options).path (settled opened options).size
          (settled opened options).blockSize, failure.event request.client]

/-- What a packet comes to when its client had this transfer: the session that the client is left
with, the reply and the events. -/
inductive Reaction (config : Config) (before : Option Transfer) (arrival : Arrival) :
    Option Session → Option Packet → List TransferEvent → Prop
  | ended (hpacket : arrival.packet.isError) : Reaction config before arrival none none []
  | refused (hpacket : arrival.packet.writes) :
      Reaction config before arrival (some (arrival.session before)) (some writeRefused.packet)
        [writeRefused.event arrival.client]
  | unserved {fileName mode : String} {options : Options} {failure : Failure}
      {events : List TransferEvent} (hpacket : arrival.packet = .readRequest fileName mode options)
      (hfails : arrival.ReadFails config fileName options failure events) :
      Reaction config before arrival (some (arrival.session none)) (some failure.packet) events
  | opened {fileName mode : String} {options : Options} {opened after : Transfer} {reply : Packet}
      (hpacket : arrival.packet = .readRequest fileName mode options)
      (hopen : openRequested config arrival.disk fileName = .ok opened)
      (hfirst : firstPacket arrival.disk (settled opened options) options = .ok (after, reply)) :
      Reaction config before arrival (some (arrival.session (some after))) (some reply)
        [.started arrival.client (settled opened options).path (settled opened options).size
          (settled opened options).blockSize]
  | unknown {wire : UInt16} (hwire : arrival.packet.acknowledged? = some wire)
      (hbefore : before = none) :
      Reaction config before arrival (some (arrival.session none))
        (some Failure.unknownTransfer.packet) [Failure.unknownTransfer.event arrival.client]
  | failed {wire : UInt16} {transfer : Transfer} {failure : Failure}
      (hwire : arrival.packet.acknowledged? = some wire) (hbefore : before = some transfer)
      (hack : transfer.acknowledge arrival.disk wire = .error failure) :
      Reaction config before arrival (some (arrival.session (some transfer)))
        (some failure.packet) [failure.event arrival.client]
  | acknowledged {wire : UInt16} {transfer after : Transfer} {result : AckOutcome}
      (hwire : arrival.packet.acknowledged? = some wire) (hbefore : before = some transfer)
      (hack : transfer.acknowledge arrival.disk wire = .ok (after, result)) :
      Reaction config before arrival (some (arrival.session (some after))) result.reply?
        (result.events arrival.client after.path)

end Arrival

variable {config : Config} {client : IPv4} {sessions before after : Sessions} {arrival : Arrival}

/-! ## Packets -/

theorem finish_events (config : Config) (client : IPv4) (work : Work) :
    (finish config client work).events = work.events ++
      match work.result with
      | .ok _ => []
      | .error failure => [failure.event client] := by
  unfold finish
  split <;> simp_all [Failure.event]

theorem Arrival.reaction_of_acknowledged {wire : UInt16} (config : Config) (sessions : Sessions)
    (hwire : arrival.packet.acknowledged? = some wire) :
    arrival.Reaction config (sessions.transfer? arrival.client)
      ((arrival.outcome config sessions).sessions.get? arrival.client)
      (arrival.outcome config sessions).reply (arrival.outcome config sessions).events := by
  have htouch := Sessions.get?_touch sessions arrival.client arrival.port arrival.now
  simp only [outcome, handle, finish_sessions, finish_reply, finish_events,
    perform_of_acknowledged hwire, onAck, Sessions.transfer?_touch]
  cases hbefore : sessions.transfer? arrival.client with
  | none =>
      rw [hbefore] at htouch
      simp only [Work.failed, htouch]
      exact .unknown hwire rfl
  | some transfer =>
      rw [hbefore] at htouch
      dsimp only
      cases hack : transfer.acknowledge arrival.disk wire with
      | error failure =>
          simp only [Work.failed, htouch]
          exact .failed hwire rfl hack
      | ok moved =>
          obtain ⟨after, result⟩ := moved
          have hsession := Sessions.get?_setTransfer htouch (some after)
          cases result <;>
            · simp only [hsession]
              exact .acknowledged hwire rfl hack

theorem Arrival.reaction (config : Config) (sessions : Sessions) (arrival : Arrival) :
    arrival.Reaction config (sessions.transfer? arrival.client)
      ((arrival.outcome config sessions).sessions.get? arrival.client)
      (arrival.outcome config sessions).reply (arrival.outcome config sessions).events := by
  have htouch := Sessions.get?_touch sessions arrival.client arrival.port arrival.now
  have hended := Sessions.get?_setTransfer htouch none
  cases hpacket : arrival.packet with
  | readRequest fileName mode options =>
      simp only [outcome, handle, finish_sessions, finish_reply, finish_events, hpacket, perform,
        onRead]
      cases hopen : openRequested config arrival.disk fileName with
      | error failure =>
          simp only [hended]
          exact .unserved hpacket (.unopened hopen)
      | ok opened =>
          -- the transfer is announced before its first packet is made, which may fail
          cases hfirst : firstPacket arrival.disk (settled opened options) options with
          | error failure =>
              simp only [launch, hfirst, hended]
              exact .unserved hpacket (.unstarted hopen hfirst)
          | ok first =>
              simp only [launch, hfirst, Sessions.get?_setTransfer hended]
              exact .opened hpacket hopen hfirst
  | writeRequest | data =>
      simp only [outcome, handle, finish_sessions, finish_reply, finish_events, hpacket, perform,
        Work.failed, htouch]
      exact .refused (by rw [hpacket]; rfl)
  | ack | optionAck =>
      apply reaction_of_acknowledged
      rw [hpacket]
      rfl
  | error code message =>
      have hremoved : ((sessions.touch arrival.client arrival.port arrival.now).remove
          arrival.client).get? arrival.client = none := Table.get?_erase_self ..
      simp only [outcome, handle, finish_sessions, finish_reply, finish_events, hpacket, perform,
        onError, hremoved]
      exact .ended (by rw [hpacket]; rfl)

theorem Packet.not_writes_of_isError {packet : Packet} (h : packet.isError = true) :
    packet.writes = false := by
  cases packet with
  | error => rfl
  | readRequest | writeRequest | data | ack | optionAck => exact nomatch h

theorem Packet.plain_of_acknowledged {packet : Packet} (h : packet.acknowledged?.isSome) :
    packet.isError = false ∧ packet.writes = false ∧ packet.isReadRequest = false := by
  cases packet with
  | ack | optionAck => exact ⟨rfl, rfl, rfl⟩
  | readRequest | writeRequest | data | error => exact nomatch h

theorem Arrival.Reaction.of_no_transfer {left : Option Session} {reply : Option Packet}
    {events : List TransferEvent} (h : arrival.Reaction config none left reply events)
    (hwire : arrival.packet.acknowledged?.isSome) :
    left = some (arrival.session none) ∧ reply = some Failure.unknownTransfer.packet := by
  obtain ⟨hends, hwrites, hasks⟩ := Packet.plain_of_acknowledged hwire
  cases h with
  | ended hpacket => exact absurd hpacket (Bool.eq_false_iff.mp hends)
  | refused hpacket => exact absurd hpacket (Bool.eq_false_iff.mp hwrites)
  | unserved hpacket | opened hpacket =>
      rw [hpacket] at hasks
      exact nomatch hasks
  | unknown => exact ⟨rfl, rfl⟩
  | failed _ hbefore | acknowledged _ hbefore => exact nomatch hbefore

theorem Arrival.Reaction.of_reads {before : Option Transfer} {left : Option Session}
    {reply : Option Packet} {events : List TransferEvent} {fileName mode : String}
    {options : Options} (h : arrival.Reaction config before left reply events)
    (hpacket : arrival.packet = .readRequest fileName mode options) :
    (∃ failure, arrival.ReadFails config fileName options failure events ∧
      left = some (arrival.session none) ∧ reply = some failure.packet) ∨
    ∃ opened after packet, openRequested config arrival.disk fileName = .ok opened ∧
      firstPacket arrival.disk (settled opened options) options = .ok (after, packet) ∧
      left = some (arrival.session (some after)) ∧ reply = some packet ∧
      events = [.started arrival.client (settled opened options).path
        (settled opened options).size (settled opened options).blockSize] := by
  cases h with
  | unserved hreads hfails =>
      obtain ⟨rfl, rfl, rfl⟩ := Packet.readRequest.inj (hpacket.symm.trans hreads)
      exact .inl ⟨_, hfails, rfl, rfl⟩
  | opened hreads hopen hfirst =>
      obtain ⟨rfl, rfl, rfl⟩ := Packet.readRequest.inj (hpacket.symm.trans hreads)
      exact .inr ⟨_, _, _, hopen, hfirst, rfl, rfl, rfl⟩
  | ended hends =>
      rw [hpacket] at hends
      exact nomatch hends
  | refused hwrites =>
      rw [hpacket] at hwrites
      exact nomatch hwrites
  | unknown hwire | failed hwire | acknowledged hwire =>
      rw [hpacket] at hwire
      exact nomatch hwire

theorem Arrival.Reaction.of_acknowledges {transfer : Transfer} {left : Option Session}
    {reply : Option Packet} {events : List TransferEvent} {wire : UInt16}
    (h : arrival.Reaction config (some transfer) left reply events)
    (hwire : arrival.packet.acknowledged? = some wire) :
    (∃ failure, transfer.acknowledge arrival.disk wire = .error failure ∧
      left = some (arrival.session (some transfer)) ∧ reply = some failure.packet) ∨
    ∃ after result, transfer.acknowledge arrival.disk wire = .ok (after, result) ∧
      left = some (arrival.session (some after)) ∧ reply = result.reply? := by
  obtain ⟨hends, hwrites, hasks⟩ := Packet.plain_of_acknowledged (Option.isSome_of_eq_some hwire)
  cases h with
  | ended hpacket => exact absurd hpacket (Bool.eq_false_iff.mp hends)
  | refused hpacket => exact absurd hpacket (Bool.eq_false_iff.mp hwrites)
  | unserved hpacket | opened hpacket =>
      rw [hpacket] at hasks
      exact nomatch hasks
  | unknown _ hbefore => exact nomatch hbefore
  | failed hother hbefore hack =>
      obtain rfl := Option.some.inj hbefore
      obtain rfl := Option.some.inj (hwire.symm.trans hother)
      exact .inl ⟨_, hack, rfl, rfl⟩
  | acknowledged hother hbefore hack =>
      obtain rfl := Option.some.inj hbefore
      obtain rfl := Option.some.inj (hwire.symm.trans hother)
      exact .inr ⟨_, _, hack, rfl, rfl⟩

/-! ## Calls -/

/-- What the file service is called for. -/
inductive Call where
  | occasion (occasion : Occasion)
  | clear

def Call.outcome (config : Config) (sessions : Sessions) : Call → Outcome
  | .occasion act => act.outcome config sessions
  | .clear => ⟨sessions.clear, none, [], []⟩

def afterCalls (config : Config) : Sessions → List Call → Sessions
  | sessions, [] => sessions
  | sessions, call :: rest => afterCalls config (call.outcome config sessions).sessions rest

/-- The packets of a client are none of these calls. -/
def Absent (client : IPv4) (calls : List Call) : Prop :=
  ∀ arrival, .occasion (.packet arrival) ∈ calls → arrival.client ≠ client

/-- A client asks for no file in these calls. -/
def AsksNothing (client : IPv4) (calls : List Call) : Prop :=
  ∀ arrival, .occasion (.packet arrival) ∈ calls → arrival.client = client →
    arrival.packet.isReadRequest = false

variable {call : Call} {calls : List Call}

theorem AsksNothing.tail (h : AsksNothing client (call :: calls)) : AsksNothing client calls :=
  fun arrival harrival => h arrival (List.mem_cons_of_mem call harrival)

theorem Call.distinct (config : Config) (h : sessions.table.Distinct) (call : Call) :
    (call.outcome config sessions).sessions.table.Distinct := by
  cases call with
  | occasion act => exact act.distinct config h
  | clear => exact Table.distinct_empty

theorem distinct_afterCalls (config : Config) (h : sessions.table.Distinct) (calls : List Call) :
    (afterCalls config sessions calls).table.Distinct := by
  induction calls generalizing sessions with
  | nil => exact h
  | cons call calls ih => exact ih (call.distinct config h)

theorem Sessions.get?_prune (h : sessions.table.Distinct) (client : IPv4) (now : Nat) :
    (sessions.prune now).get? client =
      (sessions.get? client).filter fun session => session.idle now ≤ sessions.timeout :=
  Table.get?_keepIf h _ client

/-- A call is a packet of a client, or it leaves the session of the client alone or drops it. -/
theorem Call.cases_of (config : Config) (h : sessions.table.Distinct) (client : IPv4)
    (call : Call) :
    (∃ arrival : Arrival, call = .occasion (.packet arrival) ∧ arrival.client = client) ∨
      (call.outcome config sessions).sessions.get? client = sessions.get? client ∨
      (call.outcome config sessions).sessions.get? client = none := by
  match call with
  | .occasion (.packet arrival) =>
      by_cases hclient : arrival.client = client
      · exact .inl ⟨arrival, rfl, hclient⟩
      · have halike := (arrival.edited config sessions).alike (Ne.symm hclient)
        exact .inr (.inl halike.get?_eq.symm)
  | .occasion (.prune now) =>
      simp only [outcome, Occasion.outcome, pruneIdle_sessions, Sessions.get?_prune h]
      cases sessions.get? client with
      | none => exact .inr (.inl rfl)
      | some session =>
          rw [Option.filter_some]
          split
          · exact .inr (.inl rfl)
          · exact .inr (.inr rfl)
  | .clear => exact .inr (.inr rfl)

theorem Call.transfer?_cases (config : Config) (h : sessions.table.Distinct) (client : IPv4)
    (call : Call) :
    (∃ arrival : Arrival, call = .occasion (.packet arrival) ∧ arrival.client = client) ∨
      (call.outcome config sessions).sessions.transfer? client = sessions.transfer? client ∨
      (call.outcome config sessions).sessions.transfer? client = none := by
  rcases call.cases_of config h client with hown | hsame | hnone
  · exact .inl hown
  · exact .inr (.inl (Sessions.transfer?_congr hsame))
  · refine .inr (.inr ?_)
    rw [Sessions.transfer?, hnone, Option.bind_none]

end BootServer.Tftp
