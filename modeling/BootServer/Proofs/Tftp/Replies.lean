import BootServer.Proofs.Text.Numerals
import BootServer.Proofs.Tftp.MarkerChains
import BootServer.Proofs.Tftp.Reencoding
import BootServer.Proofs.Tftp.ServedFiles
import BootServer.Tftp.Exchange

/-!
# Replies are read as they were made

A reply is a block of a file, an acknowledgement of options, or an error. The texts in it are fixed,
or numerals, or the name of a file: the one that was asked for, or one with markers followed; or the
operating system gives one when it refuses a file. No zero octet gets into a name on the way from a
datagram through markers, so every reply is read back from its datagram, provided that the operating
system puts none into its texts.
-/

namespace BootServer

namespace Disk

/-- Why a path leads nowhere. -/
def lookupFaults : List Fault := [.zeroInName, .notFound, .nameTooLong, .notDirectory]

variable {disk : Disk} {here : Place} {path part : String} {parts : List String} {fault : Fault}

theorem fault_of_step (h : disk.step here part = .error fault) : fault ∈ lookupFaults := by
  unfold step at h
  repeat' split at h
  all_goals cases h
  all_goals decide

theorem fault_of_walk (h : disk.walk here parts = .error fault) : fault ∈ lookupFaults := by
  induction parts generalizing here with
  | nil => exact nomatch h
  | cons part parts ih =>
      rw [walk] at h
      cases hstep : disk.step here part with
      | error other =>
          simp only [hstep] at h
          exact fault_of_step (hstep.trans h)
      | ok next =>
          simp only [hstep] at h
          exact ih h

theorem fault_of_checkText (h : checkText path = .error fault) : fault ∈ lookupFaults := by
  unfold checkText at h
  repeat' split at h
  all_goals cases h
  all_goals decide

theorem fault_of_locate (h : disk.locate path = .error fault) : fault ∈ lookupFaults := by
  simp only [locate, bind, Except.bind] at h
  split at h
  next hcheck =>
    obtain rfl := Except.error.inj h
    exact fault_of_checkText hcheck
  next =>
    split at h
    next hwalk =>
      obtain rfl := Except.error.inj h
      exact fault_of_walk hwalk
    next =>
      repeat' split at h
      all_goals cases h
      all_goals decide

/-- A path that is too long is not looked up, and not said to lead nowhere. -/
theorem size_lt_of_locate (h : ∀ fault, disk.locate path = .error fault → fault.isNotFound = true) :
    path.utf8ByteSize < pathMax := by
  by_contra hlong
  have hfault : ∃ fault, checkText path = .error fault ∧ fault.isNotFound = false := by
    have hne : path.isEmpty = false := by
      rw [Bool.eq_false_iff]
      intro hempty
      obtain rfl := String.isEmpty_iff.mp hempty
      exact hlong (by decide)
    unfold checkText
    split
    next => exact ⟨_, rfl, rfl⟩
    next => exact ⟨_, by rw [hne, if_neg Bool.false_ne_true, if_pos (Nat.not_lt.mp hlong)], rfl⟩
  obtain ⟨fault, hcheck, hother⟩ := hfault
  have hlocate : disk.locate path = .error fault := by simp [locate, hcheck, bind, Except.bind]
  exact absurd (h fault hlocate) (Bool.eq_false_iff.mp hother)

end Disk

namespace Tftp

variable {config : Config} {disk : Disk} {sessions : Sessions} {now : Nat} {client : IPv4}
  {port : UInt16} {root request fileName : String} {names path next : List String}
  {followMarkers : Bool} {packet reply : Packet} {transfer after : Transfer} {failure : Failure}

/-! ## Names without zeros -/

/-- What holds of the names in a request, and after a substitution if before it, holds of the names
that the request stands for. -/
theorem resolve_induction {holds : List String → Prop} (hrequest : holds (canonical request))
    (hsubstitution : ∀ path next, Substitution disk root path next → holds path → holds next)
    (h : resolve disk root followMarkers request = .ok names) : holds names := by
  have htrail : ∀ hops path, holds path → ∀ target ∈ trail disk root hops path, holds target := by
    intro hops
    induction hops with
    | zero => exact fun _ _ _ htarget => absurd htarget List.not_mem_nil
    | succ hops ih =>
        intro path hpath target htarget
        rw [trail] at htarget
        split at htarget
        next first hfirst =>
          have hcandidate := (follow_eq_some_iff.mp hfirst).1
          have hnext := hsubstitution path first (substitution_of_candidate hcandidate) hpath
          rcases List.mem_cons.mp htarget with rfl | htarget
          · exact hnext
          · exact ih first hnext target htarget
        next => exact absurd htarget List.not_mem_nil
  obtain ⟨-, hnames⟩ := mem_cons_hopsOf_of_resolve h
  rcases List.mem_cons.mp hnames with rfl | hnames
  · exact hrequest
  · unfold hopsOf at hnames
    split at hnames
    · exact htrail _ _ hrequest names hnames
    · exact absurd hnames List.not_mem_nil

instance (text : String) : Decidable (Terminable text) :=
  inferInstanceAs (Decidable ('\x00' ∉ text.toList))

theorem Terminable.append {first second : String} (hfirst : Terminable first)
    (hsecond : Terminable second) : Terminable (first ++ second) := by
  unfold Terminable at *
  rw [String.toList_append, List.mem_append, not_or]
  exact ⟨hfirst, hsecond⟩

theorem terminable_joined (h : ∀ name ∈ names, Terminable name) : Terminable (joined names) := by
  unfold joined
  induction names with
  | nil => exact List.not_mem_nil
  | cons name names ih =>
      obtain ⟨hname, hnames⟩ := List.forall_mem_cons.mp h
      cases names with
      | nil => exact hname
      | cons next names =>
          rw [String.intercalate_cons_cons]
          exact (hname.append (by decide)).append (ih hnames)

theorem mem_foldl_enter {pieces : List (List Char)} {name : String}
    (h : name ∈ pieces.foldl enter names) :
    name ∈ names ∨ ∃ piece ∈ pieces, name = String.ofList piece := by
  induction pieces generalizing names with
  | nil => exact .inl h
  | cons piece pieces ih =>
      rcases ih h with hentered | ⟨other, hother, hname⟩
      · unfold enter at hentered
        split at hentered
        · exact .inl hentered
        split at hentered
        · exact .inl (List.dropLast_subset names hentered)
        · refine (List.mem_append.mp hentered).imp_right ?_
          intro hlast
          exact ⟨piece, List.mem_cons_self, List.mem_singleton.mp hlast⟩
      · exact .inr ⟨other, List.mem_cons_of_mem piece hother, hname⟩

theorem terminable_canonical (h : Terminable request) :
    ∀ name ∈ canonical request, Terminable name := by
  intro name hname
  rcases mem_foldl_enter hname with hnone | ⟨piece, hpiece, rfl⟩
  · exact nomatch hnone
  · unfold Terminable
    rw [String.toList_ofList]
    exact fun hzero => h (Text.mem_of_mem_split hpiece hzero)

theorem terminable_of_substitution (h : Substitution disk root path next)
    (hpath : ∀ name ∈ path, Terminable name) : ∀ name ∈ next, Terminable name := by
  cases h with
  | @marker directory rest marker content hdirectory hfile hlength htext =>
      obtain ⟨hfront, hbehind⟩ := List.forall_mem_append.mp hpath
      have hcontent : Terminable (Text.Utf8.decodeLossy content) := by
        apply Text.Utf8.zero_not_mem_decodeLossy
        intro hzero
        exact absurd (htext 0 hzero).1 (by decide)
      have htarget : Terminable (joined directory ++ "/" ++ Text.Utf8.decodeLossy content) :=
        ((terminable_joined hfront).append (by decide)).append hcontent
      exact List.forall_mem_append.mpr ⟨terminable_canonical htarget,
        (List.forall_mem_cons.mp hbehind).2⟩

theorem terminable_of_resolve (hrequest : Terminable request)
    (h : resolve disk root followMarkers request = .ok names) : Terminable (joined names) := by
  apply terminable_joined
  exact resolve_induction (terminable_canonical hrequest)
    (fun _ _ => terminable_of_substitution) h

/-! ## Failures -/

/-- Why a request for a file fails. -/
inductive OpenFails (config : Config) (disk : Disk) (request : String) : Failure → Prop
  | noName (hempty : canonical request = []) : OpenFails config disk request (.fileNotFound request)
  | tooManyHops : OpenFails config disk request (.tooManyHops request)
  | missing {names : List String}
      (hresolve : resolve disk config.tftp.root config.tftp.followMarkers request = .ok names)
      (hsize : (located config.tftp.root names).utf8ByteSize < Disk.pathMax) :
      OpenFails config disk request (.fileNotFound (joined names))
  | fault {cause : Fault} (hcause : cause ∈ Disk.lookupFaults) :
      OpenFails config disk request (.system cause)
  | refused {cause : Fault} (hrefuses : disk.Refuses cause) :
      OpenFails config disk request (.system cause)

theorem openFails_of_arrive (h : arrive disk root request path = .error failure) :
    OpenFails config disk request failure := by
  unfold arrive at h
  split at h
  next hfault =>
    obtain rfl := Except.error.inj h
    exact .refused (refuses_of_follow hfault)
  next =>
    obtain rfl := Except.error.inj h
    exact .tooManyHops
  next => exact nomatch h

theorem openFails_of_resolve (h : resolve disk config.tftp.root config.tftp.followMarkers request =
    .error failure) : OpenFails config disk request failure := by
  unfold resolve at h
  dsimp only at h
  split at h
  next hempty =>
    obtain rfl := Except.error.inj h
    exact .noName (List.isEmpty_iff.mp hempty)
  next =>
    split at h
    next => exact openFails_of_arrive h
    next => exact nomatch h

theorem openFails_of_openResolved
    (hresolve : resolve disk config.tftp.root config.tftp.followMarkers request = .ok names)
    (h : openResolved disk config.tftp.root names = .error failure) :
    OpenFails config disk request failure := by
  -- what is found has a path that is not too long
  have hfound : ∀ {place entry}, disk.locate (located config.tftp.root names) = .ok (place, entry) →
      OpenFails config disk request (.fileNotFound (joined names)) := by
    intro place entry hlocate
    apply OpenFails.missing hresolve
    apply Disk.size_lt_of_locate
    exact fun fault hfault => nomatch hlocate.symm.trans hfault
  unfold openResolved Transfer.open at h
  cases hopen : disk.openPath (located config.tftp.root names) with
  | error cause =>
      simp only [hopen, Except.error.injEq] at h
      subst h
      rcases Disk.openPath_eq_error hopen with hlocate | ⟨⟨place, entry, hlocate⟩, hrefuses⟩
      · split
        next hmissing =>
          apply OpenFails.missing hresolve
          apply Disk.size_lt_of_locate
          intro fault hfault
          obtain rfl := Except.error.inj (hlocate.symm.trans hfault)
          exact hmissing
        next => exact .fault (Disk.fault_of_locate hlocate)
      · split
        next => exact hfound hlocate
        next => exact .refused hrefuses
  | ok entry =>
      obtain ⟨place, hlocate⟩ := Disk.locate_of_openPath hopen
      cases entry with
      | directory =>
          simp only [hopen, Except.error.injEq] at h
          subst h
          exact hfound hlocate
      | file id => simp [hopen] at h

theorem openFails_of_openRequested (h : openRequested config disk request = .error failure) :
    OpenFails config disk request failure := by
  unfold openRequested at h
  split at h
  next hresolve =>
    obtain rfl := Except.error.inj h
    exact openFails_of_resolve hresolve
  next names hresolve => exact openFails_of_openResolved hresolve h

/-- Why a packet is answered with an error. -/
inductive Fails (config : Config) (disk : Disk) : Packet → Failure → Prop
  | writes {packet : Packet} : Fails config disk packet writeRefused
  | unknown {packet : Packet} : Fails config disk packet .unknownTransfer
  | offset {packet : Packet} : Fails config disk packet (.system .invalidArgument)
  | unread {packet : Packet} {cause : Fault} (hrefuses : disk.Refuses cause) :
      Fails config disk packet (.system cause)
  | opens {fileName mode : String} {options : Options} {failure : Failure}
      (h : OpenFails config disk fileName failure) :
      Fails config disk (.readRequest fileName mode options) failure

theorem Fails.of_sendBlock {block : UInt64} (h : transfer.sendBlock disk block = .error failure) :
    Fails config disk packet failure := by
  obtain ⟨cause, rfl, rfl | hrefuses⟩ := Transfer.sendBlock_eq_error h
  · exact .offset
  · exact .unread (.reading hrefuses)

theorem OpenFails.terminable (h : OpenFails config disk fileName failure)
    (htexts : ∀ fault, disk.Refuses fault → Terminable fault.text) (hname : Terminable fileName) :
    Terminable failure.message := by
  have hmissing : ∀ {name : String}, Terminable name → Terminable ("file not found: " ++ name) :=
    fun hname => Terminable.append (by decide) hname
  cases h with
  | noName => exact hmissing hname
  | tooManyHops => exact (by decide : Terminable "too many symbolic link hops")
  | missing hresolve => exact hmissing (terminable_of_resolve hname hresolve)
  | fault hcause =>
      exact (by decide : ∀ cause ∈ Disk.lookupFaults, Terminable cause.text) _ hcause
  | refused hrefuses => exact htexts _ hrefuses

theorem Fails.terminable (h : Fails config disk packet failure)
    (htexts : ∀ fault, disk.Refuses fault → Terminable fault.text) (hpacket : packet.WellFormed) :
    Terminable failure.message := by
  cases h with
  | writes | unknown | offset => decide
  | unread hrefuses => exact htexts _ hrefuses
  | opens h => exact h.terminable htexts hpacket.terminable

/-! ## Replies -/

/-- A transfer that a packet opens, or that its client has. -/
def Transfer.Concerns (transfer : Transfer) (config : Config) (disk : Disk) (sessions : Sessions)
    (client : IPv4) (packet : Packet) : Prop :=
  (∃ fileName mode options opened, packet = .readRequest fileName mode options ∧
    openRequested config disk fileName = .ok opened ∧ settled opened options = transfer) ∨
  sessions.HasTransfer client transfer

/-- What a client is sent for a packet. -/
inductive Sends (config : Config) (disk : Disk) (sessions : Sessions) (client : IPv4)
    (packet : Packet) : Packet → Prop
  | data {transfer : Transfer} (hconcerns : transfer.Concerns config disk sessions client packet)
      (block : UInt16) {payload : Bytes} (hlength : payload.length ≤ transfer.blockSize.toNat) :
      Sends config disk sessions client packet (.data block payload)
  | granted (options : Options) (size : UInt64) :
      Sends config disk sessions client packet (.optionAck (granted options size))
  | error {failure : Failure} (h : Fails config disk packet failure) :
      Sends config disk sessions client packet failure.packet

theorem Transfer.exists_of_sendBlock {block : UInt64}
    (h : transfer.sendBlock disk block = .ok (after, packet)) :
    ∃ payload, packet = .data block.toUInt16 payload ∧
      payload.length ≤ transfer.blockSize.toNat := by
  obtain ⟨-, rfl, -⟩ := sendBlock_inv h
  exact ⟨_, rfl, List.length_take_le _ _⟩

theorem sends_launch {mode : String} {options : Options}
    (hconcerns : transfer.Concerns config disk sessions client packet) (kept : Sessions)
    (h : (launch disk kept client transfer mode options).reply = some reply) :
    Sends config disk sessions client packet reply := by
  by_cases hgranted : (granted options transfer.size).isEmpty = true
  · cases hsend : transfer.sendBlock disk 1 with
    | error failure =>
        simp only [launch, firstPacket, if_pos hgranted, hsend, Work.reply, Option.some.injEq] at h
        subst h
        exact .error (.of_sendBlock hsend)
    | ok sent =>
        obtain ⟨payload, hblock, hlength⟩ := Transfer.exists_of_sendBlock hsend
        simp only [launch, firstPacket, if_pos hgranted, hsend, Work.reply, Option.some.injEq] at h
        rw [← h, hblock]
        exact .data hconcerns _ hlength
  · simp only [launch, firstPacket, if_neg hgranted, Work.reply, Option.some.injEq] at h
    subst h
    exact .granted options transfer.size

theorem sends_onAck (wire : UInt16)
    (h : (onAck disk sessions client wire).reply = some reply) :
    Sends config disk sessions client packet reply := by
  cases hfound : sessions.transfer? client with
  | none =>
      simp only [onAck, hfound, Work.failed, Work.reply, Option.some.injEq] at h
      subst h
      exact .error .unknown
  | some transfer =>
      cases hack : transfer.acknowledge disk wire with
      | error failure =>
          simp only [onAck, hfound, hack, Work.failed, Work.reply, Option.some.injEq] at h
          subst h
          exact .error (.of_sendBlock (Transfer.acknowledge_eq_error hack))
      | ok moved =>
          obtain ⟨after, result⟩ := moved
          rcases Transfer.acknowledge_inv hack with
            ⟨-, block, rfl, hsend⟩ | ⟨-, -, rfl, -⟩ | ⟨-, rfl, -⟩
          · obtain ⟨payload, rfl, hlength⟩ := Transfer.exists_of_sendBlock hsend
            simp only [onAck, hfound, hack, Work.reply, Option.some.injEq] at h
            subst h
            exact .data (.inr (Sessions.hasTransfer_of_transfer? hfound)) _ hlength
          -- nothing is left to be sent
          all_goals
            simp only [onAck, hfound, hack] at h
            cases h

theorem sends_perform (h : (perform config disk sessions client packet).reply = some reply) :
    Sends config disk sessions client packet reply := by
  cases packet with
  | writeRequest | data =>
      obtain rfl := Option.some.inj h
      exact .error .writes
  | readRequest fileName mode options =>
      cases hopen : openRequested config disk fileName with
      | error failure =>
          simp only [perform, onRead, hopen, Work.reply, Option.some.injEq] at h
          subst h
          exact .error (.opens (openFails_of_openRequested hopen))
      | ok opened =>
          have hconcerns : (settled opened options).Concerns config disk sessions client
              (.readRequest fileName mode options) :=
            .inl ⟨fileName, mode, options, opened, rfl, hopen, rfl⟩
          simp only [perform, onRead, hopen] at h
          exact sends_launch hconcerns _ h
  | optionAck options => exact sends_onAck 0 h
  | ack block => exact sends_onAck block h
  | error code message => cases h

theorem Transfer.Concerns.of_touch
    (h : transfer.Concerns config disk (sessions.touch client port now) client packet) :
    transfer.Concerns config disk sessions client packet :=
  h.imp_right Sessions.hasTransfer_of_touch

/-- Whatever is sent is a block of a file, an acknowledgement of options, or an error. -/
theorem sends_handle (h : (handle config disk sessions now client port packet).reply = some reply) :
    Sends config disk sessions client packet reply := by
  rw [handle, finish_reply] at h
  cases sends_perform h with
  | data hconcerns block hlength => exact .data hconcerns.of_touch block hlength
  | granted options size => exact .granted options size
  | error hfails => exact .error hfails

theorem terminable_toString (n : Nat) : Terminable (toString n) := by
  intro hzero
  have hdigit : '\x00' ∈ Text.digits n := by simpa [Text.digits] using hzero
  exact absurd (Text.isDigit_of_mem_digits hdigit) (by decide)

theorem keyword_option {name : String} (h : name ∈ [blockSizeOption, sizeOption]) :
    Keyword name := by
  have hall : ∀ name ∈ [blockSizeOption, sizeOption],
      Terminable name ∧ name ≠ "" ∧ Text.lowercase name = name := by
    decide +kernel
  obtain ⟨hterminable, hne, hlower⟩ := hall name h
  exact ⟨hterminable, hne, hlower⟩

theorem wellFormed_granted (options : Options) (size : UInt64) :
    Options.WellFormed (granted options size) := by
  have hmem : ∀ option ∈ granted options size,
      option.1 ∈ [blockSizeOption, sizeOption] ∧ ∃ n : Nat, option.2 = toString n := by
    intro option hoption
    rcases List.mem_append.mp hoption with hblock | hsize
    · obtain ⟨blockSize, -, rfl⟩ := Option.map_eq_some_iff.mp (Option.mem_toList.mp hblock)
      exact ⟨List.mem_cons_self, _, rfl⟩
    · obtain ⟨asked, -, rfl⟩ := Option.map_eq_some_iff.mp (Option.mem_toList.mp hsize)
      exact ⟨List.mem_cons_of_mem _ List.mem_cons_self, _, rfl⟩
  constructor
  · exact fun option hoption => keyword_option (hmem option hoption).1
  · intro option hoption
    obtain ⟨n, hvalue⟩ := (hmem option hoption).2
    rw [hvalue]
    exact terminable_toString n

theorem Sends.wellFormed (h : Sends config disk sessions client packet reply)
    (htexts : ∀ fault, disk.Refuses fault → Terminable fault.text) (hpacket : packet.WellFormed) :
    reply.WellFormed := by
  cases h with
  | data => trivial
  | granted options size => exact wellFormed_granted options size
  | error hfails => exact hfails.terminable htexts hpacket

theorem Sends.opcode_mem (h : Sends config disk sessions client packet reply) :
    reply.opcode ∈ [.data, .optionAck, .error] := by
  cases h with
  | data => simp [Packet.opcode]
  | granted => simp [Packet.opcode]
  | error => simp [Packet.opcode, Failure.packet]

/-- A datagram that is no packet gets no reply and changes nothing. Otherwise what is made for it is
sent back to where it came from, and is read there as it was made, as long as the operating system
gives no text with a zero in it for what it refuses. -/
theorem replies_are_read_as_made (config : Config) (disk : Disk) (sessions : Sessions) (now : Nat)
    (client : IPv4) (port : UInt16) (data : Bytes) :
    let source : Endpoint := .v4 client port
    let exchange := serve config disk sessions now source data
    (∀ cause, Packet.parse data = .error cause →
      exchange.reply = none ∧ exchange.events = [] ∧ exchange.sessions = sessions) ∧
      ((∀ fault, disk.Refuses fault → Terminable fault.text) →
        ∀ request, Packet.parse data = .ok request →
          let reply := (handle config disk sessions now client port request).reply
          exchange.reply.map (fun datagram => (datagram.destination, Packet.parse datagram.data)) =
              reply.map (fun packet => (source, .ok packet)) ∧
            ∀ packet, reply = some packet → packet.opcode ∈ [.data, .optionAck, .error]) := by
  intro source exchange
  unfold exchange source serve
  cases hparse : Packet.parse data with
  | error cause => exact ⟨fun _ _ => ⟨rfl, rfl, rfl⟩, fun _ _ hrequest => nomatch hrequest⟩
  | ok request =>
      refine ⟨fun _ hcause => (nomatch hcause), ?_⟩
      rintro htexts _ ⟨⟩
      cases hreply : (handle config disk sessions now client port request).reply with
      | none => exact ⟨by simp [hreply], fun _ hpacket => nomatch hpacket⟩
      | some reply =>
          have hsends := sends_handle hreply
          have hread : Packet.parse reply.encode = .ok reply :=
            Packet.parse_encode (hsends.wellFormed htexts (Packet.wellFormed_of_parse hparse))
          refine ⟨by simp [hreply, hread], ?_⟩
          rintro _ ⟨⟩
          exact hsends.opcode_mem

namespace Small

/-- The disk when none of its files may be opened. -/
def locked : Disk :=
  { Small.disk with
    refusals.opening := fun _ =>
      some (.described .permissionDenied "Permission denied (os error 13)") }

/-- A read request for the file. -/
def plainData : Bytes := [0, 1, 107, 101, 114, 110, 101, 108, 0, 111, 0]

/-- A read request for a file that is not there, below a name that is not UTF-8. -/
def strangeData : Bytes := [0, 1, 0xFF, 47, 120, 0, 111, 0]

end Small

/-- The client is told why the file cannot be opened, and that the strange one is not there. -/
theorem small_replies_are_read_as_made :
    let source : Endpoint := .v4 Small.client 2000
    let answer := fun data =>
      (serve Small.config Small.locked (.empty 0) 0 source data).reply.map
        fun datagram => (datagram.destination, Packet.parse datagram.data)
    (∀ fault, Small.locked.Refuses fault → Terminable fault.text) ∧
      answer Small.plainData =
        some (source, .ok (.error .notDefined "Permission denied (os error 13)")) ∧
      answer Small.strangeData =
        some (source, .ok (.error .fileNotFound "file not found: \ufffd/x")) := by
  intro source answer
  have htexts : ∀ fault, Small.locked.Refuses fault → Terminable fault.text := by
    intro fault hrefuses
    cases hrefuses with
    | opening h =>
        obtain rfl := Option.some.inj h
        decide
    | contents h => exact nomatch h
    | reading h => exact nomatch h.choose_spec.choose_spec
  have hreads := fun data => (replies_are_read_as_made Small.config Small.locked (.empty 0) 0
    Small.client 2000 data).2 htexts
  refine ⟨htexts, ?_, ?_⟩
  · have hparse : Packet.parse Small.plainData = .ok (.readRequest "kernel" "o" []) := rfl
    have hreply : (handle Small.config Small.locked (.empty 0) 0 Small.client 2000
        (.readRequest "kernel" "o" [])).reply =
          some (.error .notDefined "Permission denied (os error 13)") := by
      decide +kernel
    exact (hreads _ _ hparse).1.trans (by rw [hreply]; rfl)
  · have hparse : Packet.parse Small.strangeData = .ok (.readRequest "\ufffd/x" "o" []) := rfl
    have hreply : (handle Small.config Small.locked (.empty 0) 0 Small.client 2000
        (.readRequest "\ufffd/x" "o" [])).reply =
          some (.error .fileNotFound "file not found: \ufffd/x") := by
      decide +kernel
    exact (hreads _ _ hparse).1.trans (by rw [hreply]; rfl)

end Tftp

end BootServer
