import BootServer.Tftp.Packet
import BootServer.Proofs.Text.Lowercase
import BootServer.Proofs.Text.Utf8

/-!
# Packets written and read again

The packets that octets are read as are those whose texts a zero octet can end, whose requests name
a file and a mode, and whose modes and option names stand in lower case. Each of them is read back
from its own octets, so reading and writing agree on every packet that reading can give.
-/

namespace BootServer.Tftp

/-- A text that a zero octet can end. -/
def Terminable (text : String) : Prop := '\x00' ∉ text.toList

/-- A name that must be there and is read in lower case. -/
structure Keyword (text : String) : Prop where
  terminable : Terminable text
  ne_empty : text ≠ ""
  lower : Text.lowercase text = text

structure Options.WellFormed (options : Options) : Prop where
  name : ∀ option ∈ options, Keyword option.1
  value : ∀ option ∈ options, Terminable option.2

/-- A file name, a mode and options as a request carries them. -/
structure RequestFields (fileName mode : String) (options : Options) : Prop where
  terminable : Terminable fileName
  ne_empty : fileName ≠ ""
  mode : Keyword mode
  options : Options.WellFormed options

namespace Packet

def WellFormed : Packet → Prop
  | readRequest fileName mode options | writeRequest fileName mode options =>
    RequestFields fileName mode options
  | data _ _ | ack _ => True
  | error _ message => Terminable message
  | optionAck options => Options.WellFormed options

variable {packet : Packet} {text fileName mode : String} {options : Options} {body piece : Bytes}
  {list : List Bytes}

/-! ## Reading what is written -/

theorem pieces_encodeText_append (h : Terminable text) (rest : Bytes) :
    pieces (encodeText text ++ rest) = Text.Utf8.encode text :: pieces rest := by
  have hzero : ∀ b ∈ Text.Utf8.encode text, ¬ (b == 0) = true := by
    intro b hb hb0
    rw [beq_iff_eq.mp hb0] at hb
    exact Text.Utf8.zero_not_mem_encode h hb
  rw [encodeText, List.append_assoc, List.singleton_append, pieces,
    Text.split_append_cons (by rfl), Text.split_of_forall_not hzero]
  rfl

theorem isEmpty_encode_eq_false (h : text ≠ "") : (Text.Utf8.encode text).isEmpty = false := by
  rw [List.isEmpty_eq_false_iff]
  intro hempty
  apply h
  rw [← Text.Utf8.decodeLossy_encode text, hempty]
  rfl

theorem optionsOfPieces_encodeOptions (h : Options.WellFormed options) :
    optionsOfPieces (pieces (encodeOptions options)) = options := by
  induction options with
  | nil => rfl
  | cons option options ih =>
      obtain ⟨name, value⟩ := option
      have hname := h.name (name, value) List.mem_cons_self
      have hrest : Options.WellFormed options :=
        ⟨fun o ho => h.name o (List.mem_cons_of_mem _ ho),
          fun o ho => h.value o (List.mem_cons_of_mem _ ho)⟩
      rw [encodeOptions, List.flatMap_cons, List.append_assoc,
        pieces_encodeText_append hname.terminable,
        pieces_encodeText_append (h.value (name, value) List.mem_cons_self), optionsOfPieces,
        isEmpty_encode_eq_false hname.ne_empty, Text.Utf8.decodeLossy_encode,
        Text.Utf8.decodeLossy_encode, hname.lower]
      exact congrArg ((name, value) :: ·) (ih hrest)

theorem requestOfPieces_encode (make : String → String → Options → Packet)
    (h : RequestFields fileName mode options) :
    requestOfPieces make
        (pieces (encodeText fileName ++ encodeText mode ++ encodeOptions options)) =
      .ok (make fileName mode options) := by
  have hmore : (pieces (encodeOptions options)).isEmpty = false := by
    rw [List.isEmpty_eq_false_iff]
    exact Text.split_ne_nil _ _
  rw [List.append_assoc, pieces_encodeText_append h.terminable,
    pieces_encodeText_append h.mode.terminable, requestOfPieces,
    isEmpty_encode_eq_false h.ne_empty, isEmpty_encode_eq_false h.mode.ne_empty, hmore,
    Text.Utf8.decodeLossy_encode, Text.Utf8.decodeLossy_encode, h.mode.lower,
    optionsOfPieces_encodeOptions h.options]
  rfl

theorem takeWhile_encodeText (h : Terminable text) :
    (encodeText text).takeWhile (· != 0) = Text.Utf8.encode text :=
  Text.Utf8.takeWhile_encode h 1

theorem parseBody_encodeBody (h : packet.WellFormed) :
    parseBody packet.opcode packet.encodeBody = .ok packet := by
  cases packet with
  | readRequest fileName mode options => exact requestOfPieces_encode readRequest h
  | writeRequest fileName mode options => exact requestOfPieces_encode writeRequest h
  | data block payload =>
      simp only [opcode, encodeBody, Bytes.ofUInt16, List.cons_append, List.nil_append, parseBody,
        Bytes.word16_ofUInt16]
  | ack block =>
      simp only [opcode, encodeBody, Bytes.ofUInt16, parseBody, Bytes.word16_ofUInt16]
  | error code message =>
      simp only [opcode, encodeBody, Bytes.ofUInt16, List.cons_append, List.nil_append, parseBody,
        Bytes.word16_ofUInt16, ErrorCode.ofCode_code]
      rw [takeWhile_encodeText h, Text.Utf8.decodeLossy_encode]
  | optionAck options =>
      simp only [opcode, encodeBody, parseBody]
      rw [optionsOfPieces_encodeOptions h]

theorem parse_encode (h : packet.WellFormed) : parse packet.encode = .ok packet := by
  rw [encode, Bytes.ofUInt16, List.cons_append, List.cons_append, List.nil_append, parse]
  simp only [Bytes.word16_ofUInt16, Opcode.ofCode?_code]
  exact parseBody_encodeBody h

/-! ## What reading can give -/

theorem zero_not_mem_piece (h : piece ∈ pieces body) : 0 ∉ piece := by
  intro hzero
  exact Text.not_isSeparator_of_mem_split h 0 hzero rfl

theorem keyword_lowercase_decode (hzero : 0 ∉ piece) (hpiece : piece.isEmpty = false) :
    Keyword (Text.lowercase (Text.Utf8.decodeLossy piece)) := by
  constructor
  · exact Text.zero_not_mem_lowercase (Text.Utf8.zero_not_mem_decodeLossy hzero)
  · apply Text.lowercase_ne_empty
    exact Text.Utf8.decodeLossy_ne_empty (List.isEmpty_eq_false_iff.mp hpiece)
  · exact Text.lowercase_lowercase _

theorem wellFormed_optionsOfPieces (h : ∀ piece ∈ list, 0 ∉ piece) :
    Options.WellFormed (optionsOfPieces list) := by
  fun_induction optionsOfPieces list with
  | case1 => exact ⟨nofun, nofun⟩
  | case2 => exact ⟨nofun, nofun⟩
  | case3 => exact ⟨nofun, nofun⟩
  | case4 name value rest hname ih =>
      simp only [List.forall_mem_cons] at h
      obtain ⟨hzero, hvalue, hrest⟩ := h
      constructor
      · rw [List.forall_mem_cons]
        exact ⟨keyword_lowercase_decode hzero (eq_false_of_ne_true hname), (ih hrest).name⟩
      · rw [List.forall_mem_cons]
        exact ⟨Text.Utf8.zero_not_mem_decodeLossy hvalue, (ih hrest).value⟩

theorem wellFormed_of_requestOfPieces {make : String → String → Options → Packet}
    (hlist : ∀ piece ∈ list, 0 ∉ piece) (h : requestOfPieces make list = .ok packet) :
    ∃ fileName mode options, packet = make fileName mode options ∧
      RequestFields fileName mode options := by
  unfold requestOfPieces at h
  split at h
  next name mode rest =>
    simp only [List.forall_mem_cons] at hlist
    obtain ⟨hname, hmode, hrest⟩ := hlist
    split at h
    next => exact nomatch h
    next hfile =>
      split at h
      next => exact nomatch h
      next hthere =>
        rw [Bool.or_eq_true, not_or] at hthere
        refine ⟨_, _, _, (Except.ok.inj h).symm, ?_⟩
        constructor
        · exact Text.Utf8.zero_not_mem_decodeLossy hname
        · exact Text.Utf8.decodeLossy_ne_empty
            (List.isEmpty_eq_false_iff.mp (eq_false_of_ne_true hfile))
        · exact keyword_lowercase_decode hmode (eq_false_of_ne_true hthere.2)
        · exact wellFormed_optionsOfPieces hrest
  next => exact nomatch h

theorem wellFormed_of_parseBody {opcode : Opcode} (h : parseBody opcode body = .ok packet) :
    packet.WellFormed := by
  unfold parseBody at h
  split at h
  next =>
    obtain ⟨_, _, _, rfl, hfields⟩ := wellFormed_of_requestOfPieces (fun _ => zero_not_mem_piece) h
    exact hfields
  next =>
    obtain ⟨_, _, _, rfl, hfields⟩ := wellFormed_of_requestOfPieces (fun _ => zero_not_mem_piece) h
    exact hfields
  next =>
    obtain rfl := Except.ok.inj h
    trivial
  next => exact nomatch h
  next =>
    obtain rfl := Except.ok.inj h
    trivial
  next => exact nomatch h
  next high low rest =>
    obtain rfl := Except.ok.inj h
    apply Text.Utf8.zero_not_mem_decodeLossy
    intro hzero
    exact absurd (List.all_eq_true.mp List.all_takeWhile 0 hzero) (by decide)
  next => exact nomatch h
  next =>
    obtain rfl := Except.ok.inj h
    exact wellFormed_optionsOfPieces fun _ => zero_not_mem_piece

theorem wellFormed_of_parse {data : Bytes} (h : parse data = .ok packet) : packet.WellFormed := by
  unfold parse at h
  split at h
  next =>
    split at h
    next => exact wellFormed_of_parseBody h
    next => exact nomatch h
  next => exact nomatch h

/-- Exactly the well-formed packets are read from some octets, and exactly these are read back from
their own. -/
theorem read_iff_reads_back (packet : Packet) :
    ((∃ data, parse data = .ok packet) ↔ parse packet.encode = .ok packet) ∧
      (packet.WellFormed ↔ parse packet.encode = .ok packet) := by
  constructor
  · constructor
    · rintro ⟨data, hdata⟩
      exact parse_encode (wellFormed_of_parse hdata)
    · intro hback
      exact ⟨packet.encode, hback⟩
  · constructor
    · exact parse_encode
    · exact wellFormed_of_parse

end Packet

end BootServer.Tftp
