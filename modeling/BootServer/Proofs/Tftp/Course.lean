import BootServer.Proofs.Tftp.Sending
import BootServer.Tftp.Outcome

/-!
# Courses of packets

Packets come in one after the other, each at its own time and with the disk as it is then. A read
request that opens a file puts a fresh transfer into the session of its client, and a packet that
acknowledges something does to the session what it does to the transfer in it. A block that cannot
be read is answered with an error, and a transfer whose first block cannot be read does not start.
-/

namespace BootServer.Tftp

/-- A packet that comes in. -/
structure Arrival where
  /-- The disk at that time. -/
  disk : Disk
  now : Nat
  client : IPv4
  port : UInt16
  packet : Packet

def Arrival.outcome (config : Config) (sessions : Sessions) (arrival : Arrival) : Outcome :=
  handle config arrival.disk sessions arrival.now arrival.client arrival.port arrival.packet

/-- What becomes of packets that come in one after the other. -/
def outcomes (config : Config) : Sessions → List Arrival → List Outcome
  | _, [] => []
  | sessions, arrival :: rest =>
    let outcome := arrival.outcome config sessions
    outcome :: outcomes config outcome.sessions rest

def sessionsAfter (config : Config) : Sessions → List Arrival → Sessions
  | sessions, [] => sessions
  | sessions, arrival :: rest =>
    sessionsAfter config (arrival.outcome config sessions).sessions rest

/-- The block number that a packet acknowledges; an acknowledgement of options is one of block 0. -/
def Packet.acknowledged? : Packet → Option UInt16
  | .ack block => some block
  | .optionAck _ => some 0
  | _ => none

/-- A client acknowledges some block while a file holds `data`. -/
structure Arrival.Acknowledges (arrival : Arrival) (client : IPv4) (file : FileId)
    (data : Bytes) : Prop where
  client_eq : arrival.client = client
  acknowledged : arrival.packet.acknowledged?.isSome
  content_eq : arrival.disk.content file = data

/-- A client acknowledges a block of a file that still holds `data` and can be read. -/
structure Arrival.AcksBlock (ack : Arrival) (client : IPv4) (file : FileId) (data : Bytes)
    (block : Nat) : Prop where
  client_eq : ack.client = client
  packet_eq : ack.packet = .ack (UInt16.ofNat block)
  holds : ack.disk.Holds file data

namespace Arrival.AcksBlock

variable {ack : Arrival} {client : IPv4} {file : FileId} {data : Bytes} {block : Nat}

theorem acknowledged_eq (h : ack.AcksBlock client file data block) :
    ack.packet.acknowledged? = some (UInt16.ofNat block) := by
  rw [h.packet_eq]
  rfl

theorem acknowledges (h : ack.AcksBlock client file data block) :
    ack.Acknowledges client file data where
  client_eq := h.client_eq
  acknowledged := Option.isSome_iff_exists.mpr ⟨_, h.acknowledged_eq⟩
  content_eq := h.holds.content_eq

end Arrival.AcksBlock

/-- A packet is a read request that opens a file and gets a first packet of it, and `transfer` is
the transfer of the file in the block size that the request settles on. -/
def Arrival.Opens (request : Arrival) (config : Config) (transfer : Transfer) : Prop :=
  ∃ fileName mode options opened, request.packet = .readRequest fileName mode options ∧
    openRequested config request.disk fileName = .ok opened ∧ settled opened options = transfer ∧
    ∃ first, firstPacket request.disk transfer options = .ok first

/-! ## Sessions of one client -/

namespace Sessions

variable (sessions : Sessions) (client : IPv4)

theorem get?_touch (port : UInt16) (now : Nat) :
    (sessions.touch client port now).get? client =
      some ⟨port, now, sessions.transfer? client⟩ :=
  Table.get?_insert_self ..

@[simp] theorem transfer?_touch (port : UInt16) (now : Nat) :
    (sessions.touch client port now).transfer? client = sessions.transfer? client := by
  simp [transfer?, get?_touch]

variable {sessions client}

theorem transfer?_of_get? {session : Session} (h : sessions.get? client = some session) :
    sessions.transfer? client = session.transfer := by
  rw [transfer?, h, Option.bind_some]

theorem transfer?_congr {after : Sessions} (h : after.get? client = sessions.get? client) :
    after.transfer? client = sessions.transfer? client := by
  rw [transfer?, transfer?, h]

theorem get?_setTransfer {session : Session} (h : sessions.get? client = some session)
    (transfer : Option Transfer) :
    (sessions.setTransfer client transfer).get? client =
      some { session with transfer := transfer } := by
  simp only [setTransfer, h]
  exact Table.get?_insert_self ..

theorem transfer?_setTransfer {session : Session} (h : sessions.get? client = some session)
    (transfer : Option Transfer) :
    (sessions.setTransfer client transfer).transfer? client = transfer := by
  exact transfer?_of_get? (get?_setTransfer h transfer)

end Sessions

/-! ## Opening a transfer -/

theorem toNat_clampBlockSize (size : Nat) :
    (clampBlockSize size).toNat = max 8 (min size 65464) := by
  rw [clampBlockSize, UInt16.toNat_ofNat', show blockSizeMin.toNat = 8 from rfl,
    show blockSizeMax.toNat = 65464 from rfl]
  omega

theorem clampBlockSize_bounds (size : Nat) :
    8 ≤ (clampBlockSize size).toNat ∧ (clampBlockSize size).toNat ≤ 65464 := by
  rw [toNat_clampBlockSize]
  omega

/-- A request opens the file at the path that it stands for, under the name of that path. -/
theorem openRequested_eq_ok {config : Config} {disk : Disk} {fileName : String} {opened : Transfer}
    (h : openRequested config disk fileName = .ok opened) :
    ∃ names place file,
      resolve disk config.tftp.root config.tftp.followMarkers fileName = .ok names ∧
      disk.locate (located config.tftp.root names) = .ok (place, .file file) ∧
      opened = Transfer.ofFile disk (joined names) file := by
  unfold openRequested at h
  split at h
  next => exact nomatch h
  next names hresolve =>
    unfold openResolved Transfer.open at h
    cases hopen : disk.openPath (located config.tftp.root names) with
    | error fault => simp [hopen] at h
    | ok entry =>
        obtain ⟨place, hlocate⟩ := Disk.locate_of_openPath hopen
        cases entry with
        | directory => simp [hopen] at h
        | file id =>
            simp only [hopen, Except.ok.injEq] at h
            exact ⟨names, place, id, hresolve, hlocate, h.symm⟩

/-- A transfer that a request opens has sent nothing, in a block size within the limits. -/
structure Transfer.Fresh (transfer : Transfer) : Prop where
  lastSent_eq : transfer.lastSent = 0
  atEnd_eq : transfer.atEnd = false
  completed_eq : transfer.completed = false
  blockSize_pos : 0 < transfer.blockSize.toNat

theorem fresh_settled {config : Config} {disk : Disk} {fileName : String} {opened : Transfer}
    (h : openRequested config disk fileName = .ok opened) (options : Options) :
    (settled opened options).Fresh := by
  obtain ⟨names, place, file, -, -, rfl⟩ := openRequested_eq_ok h
  unfold settled
  split
  · exact ⟨rfl, rfl, rfl, show 0 < defaultBlockSize.toNat by decide⟩
  · exact ⟨rfl, rfl, rfl, Nat.lt_of_lt_of_le (by decide) (clampBlockSize_bounds _).1⟩

theorem Arrival.Opens.fresh {request : Arrival} {config : Config} {transfer : Transfer}
    (h : request.Opens config transfer) : transfer.Fresh := by
  obtain ⟨fileName, mode, options, opened, -, hopen, rfl, -⟩ := h
  exact fresh_settled hopen options

theorem Transfer.Fresh.consistent {transfer : Transfer} (h : transfer.Fresh) (data : Bytes) :
    transfer.Consistent data where
  blockSize_pos := h.blockSize_pos
  lastSent_le := by
    rw [h.lastSent_eq]
    exact Nat.zero_le _
  atEnd_iff := by
    rw [h.atEnd_eq, h.lastSent_eq]
    exact iff_of_false Bool.false_ne_true (Nat.ne_of_lt (lastBlock_pos _ _))
  atEnd_of_completed := by
    rw [h.completed_eq]
    exact fun hcompleted => absurd hcompleted Bool.false_ne_true

theorem firstPacket_cases {disk : Disk} {transfer : Transfer} {data : Bytes}
    (hfresh : transfer.Fresh) (hfile : disk.content transfer.file = data)
    (hsize : data.length < Transfer.fileLimit) {options : Options} {first : Transfer × Packet}
    (h : firstPacket disk transfer options = .ok first) :
    (∃ granted, first = (transfer, .optionAck granted)) ∨
    first = (transfer.sent data 1, transfer.packetOf data 1) := by
  unfold firstPacket at h
  split at h
  · rcases Transfer.sendBlock_cases 1 hfresh.blockSize_pos hfile hsize Nat.one_pos
      (lastBlock_pos _ _) with hsend | ⟨cause, hfails, -⟩
    · exact Or.inr (Except.ok.inj (h.symm.trans hsend))
    · exact nomatch h.symm.trans hfails
  · exact Or.inl ⟨_, (Except.ok.inj h).symm⟩

/-- A read request that opens a file is answered by its options or by its first block, and the
client's session has the transfer. -/
theorem Arrival.Opens.outcome_cases {request : Arrival} {config : Config} {transfer : Transfer}
    {data : Bytes} (h : request.Opens config transfer)
    (hfile : request.disk.content transfer.file = data)
    (hsize : data.length < Transfer.fileLimit) (sessions : Sessions) :
    ∃ started reply,
      (request.outcome config sessions).sessions.transfer? request.client = some started ∧
      (request.outcome config sessions).reply = some reply ∧
      (request.outcome config sessions).events =
        [.started request.client transfer.path transfer.size transfer.blockSize] ∧
      ((started = transfer ∧ ∃ granted, reply = .optionAck granted) ∨
        (started = transfer.sent data 1 ∧ reply = transfer.packetOf data 1)) := by
  have hfresh := h.fresh
  obtain ⟨fileName, mode, options, opened, hpacket, hopen, hsettled, ⟨started, reply⟩, hfirst⟩ := h
  have hsession := Sessions.get?_setTransfer (Sessions.get?_touch sessions request.client
    request.port request.now) none
  have hcases : (started = transfer ∧ ∃ granted, reply = .optionAck granted) ∨
      (started = transfer.sent data 1 ∧ reply = transfer.packetOf data 1) := by
    rcases firstPacket_cases hfresh hfile hsize hfirst with ⟨granted, hoptions⟩ | hblock
    · obtain ⟨rfl, rfl⟩ := Prod.mk.inj hoptions
      exact Or.inl ⟨rfl, granted, rfl⟩
    · exact Or.inr (Prod.mk.inj hblock)
  refine ⟨started, reply, ?_, ?_, ?_, hcases⟩
  all_goals
    simp only [Arrival.outcome, handle, perform, hpacket, onRead, hopen, launch, hsettled, hfirst,
      finish]
  exact Sessions.transfer?_setTransfer hsession _

/-! ## Acknowledgements -/

def AckOutcome.reply? : AckOutcome → Option Packet
  | .data packet => some packet
  | .completed _ | .idle => none

def AckOutcome.events (client : IPv4) (path : String) : AckOutcome → List TransferEvent
  | .completed blocks => [.completed client path blocks]
  | .data _ | .idle => []

def Failure.event (failure : Failure) (client : IPv4) : TransferEvent :=
  .errorSent client failure.code.code failure.message

theorem Arrival.perform_of_acknowledged {config : Config} {arrival : Arrival} {wire : UInt16}
    (hwire : arrival.packet.acknowledged? = some wire) (sessions : Sessions) :
    perform config arrival.disk sessions arrival.client arrival.packet =
      onAck arrival.disk sessions arrival.client wire := by
  cases hpacket : arrival.packet <;> simp_all [Packet.acknowledged?, perform]

/-- A packet that acknowledges something does to the session what it does to the transfer. -/
theorem Arrival.outcome_acknowledges {config : Config} {sessions : Sessions} {arrival : Arrival}
    {wire : UInt16} {transfer after : Transfer} {result : AckOutcome}
    (hwire : arrival.packet.acknowledged? = some wire)
    (htransfer : sessions.transfer? arrival.client = some transfer)
    (hack : transfer.acknowledge arrival.disk wire = .ok (after, result)) :
    (arrival.outcome config sessions).sessions.transfer? arrival.client = some after ∧
    (arrival.outcome config sessions).reply = result.reply? ∧
    (arrival.outcome config sessions).events = result.events arrival.client after.path := by
  have hsession := Sessions.transfer?_setTransfer (Sessions.get?_touch sessions arrival.client
    arrival.port arrival.now) (some after)
  rw [Arrival.outcome, handle, perform_of_acknowledged hwire, onAck, Sessions.transfer?_touch,
    htransfer]
  simp only [hack]
  cases result with
  | data packet => exact ⟨hsession, rfl, rfl⟩
  | completed blocks => exact ⟨hsession, rfl, rfl⟩
  | idle => exact ⟨hsession, rfl, rfl⟩

/-- An acknowledgement that fails leaves the transfer as it is. -/
theorem Arrival.outcome_of_fault {config : Config} {sessions : Sessions} {arrival : Arrival}
    {wire : UInt16} {transfer : Transfer} {failure : Failure}
    (hwire : arrival.packet.acknowledged? = some wire)
    (htransfer : sessions.transfer? arrival.client = some transfer)
    (hack : transfer.acknowledge arrival.disk wire = .error failure) :
    (arrival.outcome config sessions).sessions.transfer? arrival.client = some transfer ∧
    (arrival.outcome config sessions).reply = some failure.packet ∧
    (arrival.outcome config sessions).events = [failure.event arrival.client] := by
  rw [Arrival.outcome, handle, perform_of_acknowledged hwire, onAck, Sessions.transfer?_touch,
    htransfer]
  simp only [hack]
  exact ⟨(Sessions.transfer?_touch ..).trans htransfer, rfl, rfl⟩

/-- Everything that can become of an acknowledgement of the client whose transfer this is. -/
theorem Arrival.Acknowledges.outcome_cases {ack : Arrival} {client : IPv4} {transfer : Transfer}
    {data : Bytes} (h : ack.Acknowledges client transfer.file data) (config : Config)
    {sessions : Sessions} {wire : UInt16}
    (hwire : ack.packet.acknowledged? = some wire)
    (hfound : sessions.transfer? client = some transfer)
    (hconsistent : transfer.Consistent data) (hsize : data.length < Transfer.fileLimit) :
    (transfer.atEnd = false ∧
      (ack.outcome config sessions).sessions.transfer? client =
        some (transfer.sent data (ackedBlock transfer.lastSent wire + 1)) ∧
      (ack.outcome config sessions).reply =
        some (transfer.packetOf data ((ackedBlock transfer.lastSent wire).toNat + 1)) ∧
      (ack.outcome config sessions).events = []) ∨
    (transfer.atEnd = true ∧ transfer.completed = false ∧
      (ack.outcome config sessions).sessions.transfer? client =
        some { transfer with completed := true } ∧
      (ack.outcome config sessions).reply = none ∧
      (ack.outcome config sessions).events =
        [.completed client transfer.path transfer.lastSent]) ∨
    (transfer.atEnd = true ∧
      (ack.outcome config sessions).sessions.transfer? client = some transfer ∧
      (ack.outcome config sessions).reply = none ∧
      (ack.outcome config sessions).events = []) ∨
    (transfer.atEnd = false ∧ ∃ cause, ack.disk.RefusesReading transfer.file cause ∧
      (ack.outcome config sessions).sessions.transfer? client = some transfer ∧
      (ack.outcome config sessions).reply = some (Failure.system cause).packet ∧
      (ack.outcome config sessions).events = [(Failure.system cause).event client]) := by
  obtain ⟨rfl, -, hfile⟩ := h
  rcases hconsistent.acknowledge_cases hfile hsize wire with
    ⟨hend, hack⟩ | ⟨hend, hopen, hack⟩ | ⟨hend, hack⟩ | ⟨hend, cause, hack, hrefuses⟩
  · exact Or.inl ⟨hend, Arrival.outcome_acknowledges hwire hfound hack⟩
  · exact Or.inr (Or.inl ⟨hend, hopen, Arrival.outcome_acknowledges hwire hfound hack⟩)
  · exact Or.inr (Or.inr (Or.inl ⟨hend, Arrival.outcome_acknowledges hwire hfound hack⟩))
  · exact Or.inr (Or.inr (Or.inr
      ⟨hend, cause, hrefuses, Arrival.outcome_of_fault hwire hfound hack⟩))

/-! ## A small transfer

A file of 28 octets, which a client reads in blocks of 8: four blocks, the last one of 4 octets. -/

namespace Small

def data : Bytes := (List.range 28).map UInt8.ofNat

def disk : Disk where
  entries := ⟨[(["kernel"], .file 0)]⟩
  contents := ⟨[(0, data)]⟩
  nextFile := 1
  workingDirectory := []

/-- The disk when nothing that is open can be read from it. -/
def broken : Disk :=
  { disk with
    refusals.reading := fun _ _ _ => some (.described .other "Input/output error (os error 5)") }

def config : Config := { address := .ofOctets 10 0 0 1, tftp := { root := "/" } }

def client : IPv4 := .ofOctets 10 0 0 20

def request : Arrival := ⟨disk, 0, client, 2000, .readRequest "kernel" "octet" [("blksize", "8")]⟩

def ack (block : UInt16) : Arrival := ⟨disk, 0, client, 2000, .ack block⟩

def transfer : Transfer := (Transfer.ofFile disk "kernel" 0).withBlockSize 8

/-- The sessions after the request and acknowledgements of these blocks. -/
def after (blocks : List UInt16) : Sessions :=
  sessionsAfter config (.empty 0) (request :: blocks.map ack)

theorem request_opens : request.Opens config transfer :=
  ⟨"kernel", "octet", [("blksize", "8")], Transfer.ofFile disk "kernel" 0, rfl, rfl, rfl, _, rfl⟩

theorem disk_holds : disk.Holds transfer.file data := ⟨rfl, nofun⟩

theorem ack_acknowledges (block : UInt16) : (ack block).Acknowledges client transfer.file data :=
  ⟨rfl, rfl, rfl⟩

end Small

end BootServer.Tftp
