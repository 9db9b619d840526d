import BootServer.Proofs.Tftp.Confinement
import BootServer.Proofs.Tftp.Delivery

/-!
# Only files below the root are served

Whatever packets come in, the transfers of all sessions are of files that a request of their client
led to below the root, and the octets that are sent are octets of those files.
-/

namespace BootServer.Tftp

/-- A packet is a read request that leads to the file with these names below the root. -/
structure Arrival.LeadsTo (request : Arrival) (config : Config) (names : List String)
    (file : FileId) : Prop where
  asked : ∃ fileName mode options, request.packet = .readRequest fileName mode options ∧
    resolve request.disk config.tftp.root config.tftp.followMarkers fileName = .ok names
  ne_nil : names ≠ []
  plain : Plain names
  found : ∃ top, request.disk.placeOf config.tftp.root = .ok top ∧
    request.disk.entryAt (top ++ names) = some (.file file)

/-- Among past packets is one by which this client came to a transfer of this file. -/
def Served (config : Config) (past : List Arrival) (client : IPv4) (transfer : Transfer) : Prop :=
  ∃ request ∈ past, request.client = client ∧
    ∃ names, request.LeadsTo config names transfer.file ∧ transfer.path = joined names

/-- The sessions that packets lead to, where idle sessions may be dropped at any time. -/
inductive Reachable (config : Config) : List Arrival → Sessions → Prop
  | start (timeout : Nat) : Reachable config [] (.empty timeout)
  | packet {past : List Arrival} {sessions : Sessions} (arrival : Arrival)
      (h : Reachable config past sessions) :
      Reachable config (past ++ [arrival]) (arrival.outcome config sessions).sessions
  | prune {past : List Arrival} {sessions : Sessions} (now : Nat)
      (h : Reachable config past sessions) :
      Reachable config past (pruneIdle sessions now).sessions

section

variable {config : Config} {past : List Arrival} {sessions : Sessions} {client other : IPv4}
  {transfer : Transfer}

/-! ## Transfers in sessions -/

namespace Sessions

/-- A session of a client has this transfer. All stored sessions count, also one that another one of
the same client hides, so that none can come up when sessions are dropped. -/
def HasTransfer (sessions : Sessions) (client : IPv4) (transfer : Transfer) : Prop :=
  ∃ session, (client, session) ∈ sessions.table.entries ∧ session.transfer = some transfer

theorem hasTransfer_of_transfer? (h : sessions.transfer? client = some transfer) :
    sessions.HasTransfer client transfer := by
  obtain ⟨session, hsession, htransfer⟩ := Option.bind_eq_some_iff.mp h
  exact ⟨session, Table.mem_entries_of_get? hsession, htransfer⟩

theorem hasTransfer_of_touch {port : UInt16} {now : Nat}
    (h : (sessions.touch other port now).HasTransfer client transfer) :
    sessions.HasTransfer client transfer := by
  obtain ⟨session, hentry, htransfer⟩ := h
  rcases Table.mem_entries_of_insert hentry with hnew | hold
  · obtain ⟨rfl, rfl⟩ := Prod.mk.inj hnew
    exact hasTransfer_of_transfer? htransfer
  · exact ⟨session, hold, htransfer⟩

theorem hasTransfer_of_setTransfer {new : Option Transfer}
    (h : (sessions.setTransfer other new).HasTransfer client transfer) :
    sessions.HasTransfer client transfer ∨ (client = other ∧ new = some transfer) := by
  unfold setTransfer at h
  split at h
  next => exact .inl h
  next =>
    obtain ⟨session, hentry, htransfer⟩ := h
    rcases Table.mem_entries_of_insert hentry with hnew | hold
    · obtain ⟨rfl, rfl⟩ := Prod.mk.inj hnew
      exact .inr ⟨rfl, htransfer⟩
    · exact .inl ⟨session, hold, htransfer⟩

theorem hasTransfer_of_remove (h : (sessions.remove other).HasTransfer client transfer) :
    sessions.HasTransfer client transfer := by
  obtain ⟨session, hentry, htransfer⟩ := h
  exact ⟨session, Table.mem_entries_of_erase hentry, htransfer⟩

theorem hasTransfer_of_prune {now : Nat} (h : (sessions.prune now).HasTransfer client transfer) :
    sessions.HasTransfer client transfer := by
  obtain ⟨session, hentry, htransfer⟩ := h
  exact ⟨session, (List.mem_filter.mp hentry).1, htransfer⟩

end Sessions

/-! ## What a transfer sends -/

/-- Data that a packet carries are octets of a file. -/
def Packet.DataOf (packet : Packet) (disk : Disk) (file : FileId) : Prop :=
  ∀ block payload, packet = .data block payload → payload <:+: disk.content file

theorem Transfer.sendBlock_ok {disk : Disk} {block : UInt64} {after : Transfer} {packet : Packet}
    (h : transfer.sendBlock disk block = .ok (after, packet)) :
    after.SameFile transfer ∧ packet.DataOf disk transfer.file := by
  obtain ⟨-, rfl, rfl⟩ := sendBlock_inv h
  refine ⟨⟨rfl, rfl, rfl⟩, ?_⟩
  intro number payload hpacket
  obtain ⟨-, rfl⟩ := Packet.data.inj hpacket
  exact Bytes.slice_infix _ _ _

theorem Transfer.acknowledge_ok {disk : Disk} {wire : UInt16} {after : Transfer} {result : AckOutcome}
    (h : transfer.acknowledge disk wire = .ok (after, result)) :
    after.SameFile transfer ∧
      ∀ packet, result.reply? = some packet → packet.DataOf disk transfer.file := by
  rcases acknowledge_inv h with ⟨-, packet, rfl, hsend⟩ | ⟨-, -, rfl, rfl⟩ | ⟨-, rfl, rfl⟩
  · obtain ⟨hsame, hdata⟩ := sendBlock_ok hsend
    exact ⟨hsame, fun packet hreply => Option.some.inj hreply ▸ hdata⟩
  · exact ⟨⟨rfl, rfl, rfl⟩, fun _ hreply => nomatch hreply⟩
  · exact ⟨⟨rfl, rfl, rfl⟩, fun _ hreply => nomatch hreply⟩

theorem firstPacket_ok {disk : Disk} {options : Options} {after : Transfer} {packet : Packet}
    (h : firstPacket disk transfer options = .ok (after, packet)) :
    after.SameFile transfer ∧ packet.DataOf disk transfer.file := by
  unfold firstPacket at h
  split at h
  next => exact Transfer.sendBlock_ok h
  next =>
    obtain ⟨rfl, rfl⟩ := Prod.mk.inj (Except.ok.inj h)
    exact ⟨⟨rfl, rfl, rfl⟩, fun _ _ hpacket => nomatch hpacket⟩

/-! ## What a packet can do -/

/-- No transfer starts and no data is sent. -/
structure Rests (sessions after : Sessions) (reply : Option Packet) : Prop where
  kept : ∀ client transfer, after.HasTransfer client transfer →
    sessions.HasTransfer client transfer
  silent : ∀ block payload, reply ≠ some (.data block payload)

/-- A client is left with a transfer of the same file as `transfer`, and data that is sent is of
that file. -/
structure Serves (disk : Disk) (client : IPv4) (transfer : Transfer) (sessions after : Sessions)
    (reply : Option Packet) : Prop where
  kept : ∀ other now, after.HasTransfer other now →
    sessions.HasTransfer other now ∨ (other = client ∧ now.SameFile transfer)
  data : ∀ packet, reply = some packet → packet.DataOf disk transfer.file

section

variable {before after : Sessions} {reply : Option Packet} {disk : Disk}

theorem Rests.of_fewer (h : Rests before after reply)
    (hfewer : ∀ client transfer, before.HasTransfer client transfer →
      sessions.HasTransfer client transfer) : Rests sessions after reply :=
  ⟨fun _ _ hnow => hfewer _ _ (h.kept _ _ hnow), h.silent⟩

theorem Serves.of_fewer (h : Serves disk client transfer before after reply)
    (hfewer : ∀ client transfer, before.HasTransfer client transfer →
      sessions.HasTransfer client transfer) : Serves disk client transfer sessions after reply :=
  ⟨fun _ _ hnow => (h.kept _ _ hnow).imp_left (hfewer _ _), h.data⟩

theorem Serves.setTransfer {now : Transfer} (hsame : now.SameFile transfer)
    (hdata : ∀ packet, reply = some packet → packet.DataOf disk transfer.file) :
    Serves disk client transfer sessions (sessions.setTransfer client (some now)) reply where
  kept := by
    intro other kept hkept
    rcases Sessions.hasTransfer_of_setTransfer hkept with hold | ⟨hclient, hnew⟩
    · exact .inl hold
    · obtain rfl := Option.some.inj hnew
      exact .inr ⟨hclient, hsame⟩
  data := hdata

end

/-- The packet that work is answered with. -/
def Work.reply (work : Work) : Option Packet :=
  match work.result with
  | .ok reply => reply
  | .error failure => some failure.packet

theorem Work.rests_of_error {work : Work} {failure : Failure}
    (hsessions : work.sessions = sessions) (hresult : work.result = .error failure) :
    Rests sessions work.sessions work.reply where
  kept := by
    rw [hsessions]
    exact fun _ _ hnow => hnow
  silent := by
    intro block payload hreply
    rw [reply, hresult] at hreply
    exact nomatch hreply

theorem finish_sessions (config : Config) (client : IPv4) (work : Work) :
    (finish config client work).sessions = work.sessions := by
  unfold finish
  split <;> rfl

theorem finish_reply (config : Config) (client : IPv4) (work : Work) :
    (finish config client work).reply = work.reply := by
  unfold finish Work.reply
  split <;> simp_all

theorem launch_cases (disk : Disk) (sessions : Sessions) (client : IPv4) (transfer : Transfer)
    (mode : String) (options : Options) :
    let work := launch disk sessions client transfer mode options
    Rests sessions work.sessions work.reply ∨
      (∃ first, firstPacket disk transfer options = .ok first) ∧
        Serves disk client transfer sessions work.sessions work.reply := by
  intro work
  unfold work launch
  cases hfirst : firstPacket disk transfer options with
  | error failure => exact .inl (Work.rests_of_error rfl rfl)
  | ok first =>
      obtain ⟨hsame, hdata⟩ := firstPacket_ok hfirst
      refine .inr ⟨⟨first, rfl⟩, .setTransfer hsame ?_⟩
      intro packet hpacket
      obtain rfl := Option.some.inj hpacket
      exact hdata

theorem onRead_cases (config : Config) (disk : Disk) (sessions : Sessions) (client : IPv4)
    (fileName mode : String) (options : Options) :
    let work := onRead config disk sessions client fileName mode options
    Rests sessions work.sessions work.reply ∨
      ∃ opened, openRequested config disk fileName = .ok opened ∧
        (∃ first, firstPacket disk (settled opened options) options = .ok first) ∧
        Serves disk client (settled opened options) sessions work.sessions work.reply := by
  have hended : ∀ other now, (sessions.setTransfer client none).HasTransfer other now →
      sessions.HasTransfer other now := by
    intro other now hnow
    exact (Sessions.hasTransfer_of_setTransfer hnow).resolve_right fun hnew => nomatch hnew.2
  intro work
  unfold work onRead
  dsimp only
  cases hopen : openRequested config disk fileName with
  | error failure => exact .inl ((Work.rests_of_error rfl rfl).of_fewer hended)
  | ok opened =>
      rcases launch_cases disk (sessions.setTransfer client none) client (settled opened options)
        mode options with hrests | ⟨hfirst, hserves⟩
      · exact .inl (hrests.of_fewer hended)
      · exact .inr ⟨opened, rfl, hfirst, hserves.of_fewer hended⟩

theorem onAck_cases (disk : Disk) (sessions : Sessions) (client : IPv4) (wire : UInt16) :
    let work := onAck disk sessions client wire
    Rests sessions work.sessions work.reply ∨
      ∃ transfer, sessions.HasTransfer client transfer ∧
        Serves disk client transfer sessions work.sessions work.reply := by
  intro work
  unfold work onAck
  cases hfound : sessions.transfer? client with
  | none => exact .inl (Work.rests_of_error rfl rfl)
  | some transfer =>
      dsimp only
      cases hack : transfer.acknowledge disk wire with
      | error failure => exact .inl (Work.rests_of_error rfl rfl)
      | ok moved =>
          obtain ⟨now, result⟩ := moved
          obtain ⟨hsame, hdata⟩ := Transfer.acknowledge_ok hack
          refine .inr ⟨transfer, Sessions.hasTransfer_of_transfer? hfound, ?_⟩
          cases result with
          | data packet => exact .setTransfer hsame hdata
          | completed blocks => exact .setTransfer hsame hdata
          | idle => exact .setTransfer hsame hdata

theorem perform_cases (config : Config) (disk : Disk) (sessions : Sessions) (client : IPv4)
    (packet : Packet) :
    let work := perform config disk sessions client packet
    Rests sessions work.sessions work.reply ∨
      ∃ transfer, ((∃ fileName mode options opened, packet = .readRequest fileName mode options ∧
          openRequested config disk fileName = .ok opened ∧ settled opened options = transfer ∧
            ∃ first, firstPacket disk transfer options = .ok first) ∨
          sessions.HasTransfer client transfer) ∧
        Serves disk client transfer sessions work.sessions work.reply := by
  intro work
  cases packet with
  | readRequest fileName mode options =>
      refine (onRead_cases config disk sessions client fileName mode options).imp_right ?_
      rintro ⟨opened, hopen, hfirst, hserves⟩
      exact ⟨_, .inl ⟨fileName, mode, options, opened, rfl, hopen, rfl, hfirst⟩, hserves⟩
  | writeRequest | data => exact .inl (Work.rests_of_error rfl rfl)
  | optionAck granted =>
      -- granted options are acknowledged as block 0
      refine (onAck_cases disk sessions client 0).imp_right ?_
      rintro ⟨transfer, hfound, hserves⟩
      exact ⟨transfer, .inr hfound, hserves⟩
  | ack block =>
      refine (onAck_cases disk sessions client block).imp_right ?_
      rintro ⟨transfer, hfound, hserves⟩
      exact ⟨transfer, .inr hfound, hserves⟩
  | error code message =>
      exact .inl ⟨fun _ _ => Sessions.hasTransfer_of_remove, fun _ _ hreply => nomatch hreply⟩

/-- A packet starts a transfer of the file that it opens, or moves on the transfer of its client, or
does neither. -/
theorem Arrival.outcome_files (config : Config) (sessions : Sessions) (arrival : Arrival) :
    let outcome := arrival.outcome config sessions
    Rests sessions outcome.sessions outcome.reply ∨
      ∃ transfer, (arrival.Opens config transfer ∨ sessions.HasTransfer arrival.client transfer) ∧
        Serves arrival.disk arrival.client transfer sessions outcome.sessions outcome.reply := by
  intro outcome
  unfold outcome Arrival.outcome handle
  dsimp only
  rw [finish_sessions, finish_reply]
  rcases perform_cases config arrival.disk
    (sessions.touch arrival.client arrival.port arrival.now) arrival.client arrival.packet with
    hrests | ⟨transfer, hsource, hserves⟩
  · exact .inl (hrests.of_fewer fun _ _ => Sessions.hasTransfer_of_touch)
  · refine .inr ⟨transfer, hsource.imp_right Sessions.hasTransfer_of_touch, ?_⟩
    exact hserves.of_fewer fun _ _ => Sessions.hasTransfer_of_touch

/-! ## Opened files -/

theorem path_settled (transfer : Transfer) (options : Options) :
    (settled transfer options).path = transfer.path := by
  unfold settled
  split <;> rfl

theorem file_settled (transfer : Transfer) (options : Options) :
    (settled transfer options).file = transfer.file := by
  unfold settled
  split <;> rfl

theorem size_settled (transfer : Transfer) (options : Options) :
    (settled transfer options).size = transfer.size := by
  unfold settled
  split <;> rfl

theorem Arrival.Opens.leadsTo {request : Arrival} (h : request.Opens config transfer) :
    ∃ names, request.LeadsTo config names transfer.file ∧ transfer.path = joined names := by
  obtain ⟨fileName, mode, options, opened, hpacket, hopen, rfl, -⟩ := h
  obtain ⟨names, place, file, hresolve, hlocate, rfl⟩ := openRequested_eq_ok hopen
  obtain ⟨hne, hplain⟩ := plain_of_resolve hresolve
  obtain ⟨top, htop, rfl, hentry⟩ := (hplain.confined request.disk _).leads _ _ hlocate
  have hasked : ∃ fileName mode options, request.packet = .readRequest fileName mode options ∧
      resolve request.disk config.tftp.root config.tftp.followMarkers fileName = .ok names :=
    ⟨fileName, mode, options, hpacket, hresolve⟩
  rw [path_settled, file_settled]
  exact ⟨names, ⟨hasked, hne, hplain, top, htop, hentry⟩, rfl⟩

/-! ## Reachable sessions -/

namespace Served

theorem of_opens {arrival : Arrival} (h : arrival.Opens config transfer) (past : List Arrival) :
    Served config (past ++ [arrival]) arrival.client transfer :=
  ⟨arrival, List.mem_append_right _ (List.mem_singleton_self arrival), rfl, h.leadsTo⟩

theorem append (h : Served config past client transfer) (arrival : Arrival) :
    Served config (past ++ [arrival]) client transfer := by
  obtain ⟨request, hrequest, hfile⟩ := h
  exact ⟨request, List.mem_append_left _ hrequest, hfile⟩

theorem of_sameFile (h : Served config past client transfer) {now : Transfer}
    (hsame : now.SameFile transfer) : Served config past client now := by
  unfold Served
  rw [hsame.file_eq, hsame.path_eq]
  exact h

end Served

/-- What one more packet leaves and sends, if all transfers so far are of served files. -/
theorem Arrival.served (hserved : ∀ client transfer, sessions.HasTransfer client transfer →
      Served config past client transfer) (arrival : Arrival) :
    (∀ client transfer, (arrival.outcome config sessions).sessions.HasTransfer client transfer →
      Served config (past ++ [arrival]) client transfer) ∧
    ∀ block payload, (arrival.outcome config sessions).reply = some (.data block payload) →
      ∃ transfer, Served config (past ++ [arrival]) arrival.client transfer ∧
        payload <:+: arrival.disk.content transfer.file := by
  rcases arrival.outcome_files config sessions with hrests | ⟨transfer, hsource, hserves⟩
  · refine ⟨fun client transfer hkept => ?_, fun block payload hreply => ?_⟩
    · exact (hserved client transfer (hrests.kept client transfer hkept)).append arrival
    · exact absurd hreply (hrests.silent block payload)
  · have htransfer : Served config (past ++ [arrival]) arrival.client transfer := by
      rcases hsource with hopens | hfound
      · exact .of_opens hopens past
      · exact (hserved _ _ hfound).append arrival
    refine ⟨fun client now hkept => ?_, fun block payload hreply => ?_⟩
    · rcases hserves.kept client now hkept with hold | ⟨rfl, hsame⟩
      · exact (hserved client now hold).append arrival
      · exact htransfer.of_sameFile hsame
    · exact ⟨transfer, htransfer, hserves.data _ hreply block payload rfl⟩

theorem pruneIdle_sessions (sessions : Sessions) (now : Nat) :
    (pruneIdle sessions now).sessions = sessions.prune now := by
  unfold pruneIdle
  dsimp only
  split <;> rfl

/-- All transfers are of files that requests led to below the root. The induction is on the packets
so far. -/
theorem Reachable.served (h : Reachable config past sessions) :
    ∀ client transfer, sessions.HasTransfer client transfer →
      Served config past client transfer := by
  induction h with
  | start timeout =>
      rintro client transfer ⟨session, hentry, -⟩
      exact absurd hentry List.not_mem_nil
  | packet arrival _ ih => exact (Arrival.served ih arrival).1
  | prune now _ ih =>
      intro client transfer hkept
      rw [pruneIdle_sessions] at hkept
      exact ih client transfer (Sessions.hasTransfer_of_prune hkept)

end

/-- Every path that is looked up for a request, whether or not markers are followed, is the root
with names behind it and leads nowhere but below the root. What comes out depends on nothing else,
and is such a path again with at least one name; it is told as these names with slashes between
them. So, whatever packets came in, every transfer is of a file below the root that its client asked
for, and the octets that are sent are that file's. -/
theorem requests_stay_below_root (config : Config) :
    (∀ disk request,
      let root := config.tftp.root
      let consulted := lookups disk root config.tftp.followMarkers request
      let answer := resolve disk root config.tftp.followMarkers request
      (∀ path ∈ consulted, ∃ names, Confined disk root names path) ∧
      (∀ other : Disk, disk.AgreeOn other consulted →
        resolve other root config.tftp.followMarkers request = answer) ∧
      (∀ names, answer = .ok names → names ≠ [] ∧
        Confined disk root names (located root names)) ∧
      ∀ transfer, openRequested config disk request = .ok transfer →
        ∃ names, answer = .ok names ∧ transfer.path = joined names ∧
          Path.components transfer.path = names ∧
          disk.file? (located root names) = some transfer.file) ∧
    ∀ past sessions, Reachable config past sessions →
      (∀ client transfer, sessions.transfer? client = some transfer →
        Served config past client transfer) ∧
      ∀ (arrival : Arrival) block payload,
        (arrival.outcome config sessions).reply = some (.data block payload) →
          ∃ transfer, Served config (past ++ [arrival]) arrival.client transfer ∧
            payload <:+: arrival.disk.content transfer.file := by
  refine ⟨?_, ?_⟩
  · intro disk request root consulted answer
    refine ⟨?_, ?_, ?_, ?_⟩
    · intro path hpath
      obtain ⟨names, hplain, rfl⟩ := exists_of_mem_lookups hpath
      exact ⟨names, hplain.confined disk root⟩
    · intro other hagree
      exact (resolve_congr hagree).symm
    · intro names hanswer
      obtain ⟨hne, hplain⟩ := plain_of_resolve hanswer
      exact ⟨hne, hplain.confined disk root⟩
    · intro transfer hopen
      obtain ⟨names, place, file, hanswer, hlocate, rfl⟩ := openRequested_eq_ok hopen
      have hcomponents : Path.components (joined names) = names :=
        Path.components_intercalate (plain_of_resolve hanswer).2.isName
      have hfile : disk.file? (located root names) = some file := by
        rw [Disk.file?, hlocate]
      exact ⟨names, hanswer, rfl, hcomponents, hfile⟩
  · intro past sessions hreachable
    refine ⟨?_, ?_⟩
    · intro client transfer htransfer
      exact hreachable.served client transfer (Sessions.hasTransfer_of_transfer? htransfer)
    · intro arrival
      exact (Arrival.served hreachable.served arrival).2

namespace Small

/-- A marker in the root leads far up, and beside the root lies a file named as one in it. -/
def markedDisk : Disk where
  entries := ⟨[(["srv"], .directory), (["srv", "kernel"], .file 0), (["srv", "latest"], .file 1),
    (["kernel"], .file 2)]⟩
  contents := ⟨[(0, data), (1, "../../kernel".toUTF8.toList)]⟩
  nextFile := 3
  workingDirectory := []

def markedConfig : Config :=
  { address := .ofOctets 10 0 0 1, tftp := { root := "/srv", followMarkers := true } }

def markedRequest : Arrival :=
  ⟨markedDisk, 0, client, 2000, .readRequest "..\\..\\latest" "octet" []⟩

end Small

/-- Neither the request nor the marker leads to the file beside the root. -/
theorem small_requests_stay_below_root :
    let consulted := lookups Small.markedDisk "/srv" true "..\\..\\latest"
    consulted = ["/srv/latest", "/srv/kernel", "/srv/kernel"] ∧
      (∀ path ∈ consulted, ∃ names, Confined Small.markedDisk "/srv" names path) ∧
      (Small.markedRequest.outcome Small.markedConfig (.empty 0)).reply =
        some (.data 1 Small.data) ∧
      ∃ transfer, Served Small.markedConfig [Small.markedRequest] Small.client transfer ∧
        Small.data <:+: Small.markedDisk.content transfer.file := by
  intro consulted
  have hreply : (Small.markedRequest.outcome Small.markedConfig (.empty 0)).reply =
      some (.data 1 Small.data) := by
    decide +kernel
  obtain ⟨hconsulted, hserved⟩ := requests_stay_below_root Small.markedConfig
  obtain ⟨hconfined, -⟩ := hconsulted Small.markedDisk "..\\..\\latest"
  obtain ⟨-, hdata⟩ := hserved [] (.empty 0) (.start 0)
  exact ⟨by decide +kernel, hconfined, hreply, hdata _ _ _ hreply⟩

end BootServer.Tftp
