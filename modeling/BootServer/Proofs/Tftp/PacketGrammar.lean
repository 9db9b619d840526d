import BootServer.Tftp.Packet

/-!
# Which octets are a packet

Texts end with a zero octet. A request has a file name and a mode that are not empty; options come
in pairs of a name and a value. They end before a name that is empty or that no zero octet ends,
while the last value may end with the data. What the reader accepts is exactly this. Of options with
one name the first one counts.
-/

namespace BootServer.Tftp

/-- Octets that stand before a zero octet, at least one of them. -/
structure Word (octets : Bytes) : Prop where
  ne_nil : octets ≠ []
  zero_not_mem : 0 ∉ octets

/-- The option that a name and a value stand for. -/
def optionOf (name value : Bytes) : String × String :=
  (Text.lowercase (Text.Utf8.decodeLossy name), Text.Utf8.decodeLossy value)

/-- Octets and the options in them. -/
inductive OptionList : Bytes → Options → Prop
  | unended {rest : Bytes} (hrest : 0 ∉ rest) : OptionList rest []
  | unnamed {rest : Bytes} : OptionList (0 :: rest) []
  | last {name value : Bytes} (hname : Word name) (hvalue : 0 ∉ value) :
      OptionList (name ++ 0 :: value) [optionOf name value]
  | pair {name value rest : Bytes} {options : Options} (hname : Word name) (hvalue : 0 ∉ value)
      (h : OptionList rest options) :
      OptionList (name ++ 0 :: (value ++ 0 :: rest)) (optionOf name value :: options)

/-- The first option of a name has this value. -/
def FirstValue (options : Options) (name value : String) : Prop :=
  ∃ front rest, options = front ++ (name, value) :: rest ∧ ∀ option ∈ front, option.1 ≠ name

namespace Packet

/-- The octets behind the opcode of a packet. -/
inductive Body : Bytes → Packet → Prop
  | readRequest {name mode rest : Bytes} {options : Options} (hname : Word name)
      (hmode : Word mode) (h : OptionList rest options) :
      Body (name ++ 0 :: (mode ++ 0 :: rest))
        (readRequest (Text.Utf8.decodeLossy name) (Text.lowercase (Text.Utf8.decodeLossy mode))
          options)
  | writeRequest {name mode rest : Bytes} {options : Options} (hname : Word name)
      (hmode : Word mode) (h : OptionList rest options) :
      Body (name ++ 0 :: (mode ++ 0 :: rest))
        (writeRequest (Text.Utf8.decodeLossy name) (Text.lowercase (Text.Utf8.decodeLossy mode))
          options)
  | data (high low : UInt8) (payload : Bytes) :
      Body (high :: low :: payload) (data (Bytes.word16 high low) payload)
  | ack (high low : UInt8) (rest : Bytes) :
      Body (high :: low :: rest) (ack (Bytes.word16 high low))
  | error (high low : UInt8) {message rest : Bytes} (hmessage : 0 ∉ message)
      (hrest : rest = [] ∨ ∃ more, rest = 0 :: more) :
      Body (high :: low :: (message ++ rest))
        (error (.ofCode (Bytes.word16 high low)) (Text.Utf8.decodeLossy message))
  | optionAck {rest : Bytes} {options : Options} (h : OptionList rest options) :
      Body rest (optionAck options)

variable {body name mode value rest : Bytes} {options : Options} {packet : Packet}
  {opcode : Opcode} {make : String → String → Options → Packet}

/-! ## Pieces -/

theorem zero_mem_cases (data : Bytes) :
    0 ∉ data ∨ ∃ name rest, data = name ++ 0 :: rest ∧ 0 ∉ name := by
  by_cases h : 0 ∈ data
  · exact .inr (List.eq_append_cons_of_mem h)
  · exact .inl h

theorem pieces_of_not_mem (h : 0 ∉ rest) : pieces rest = [rest] := by
  apply Text.split_of_forall_not
  intro b hb hzero
  exact h (beq_iff_eq.mp hzero ▸ hb)

theorem pieces_append_zero (h : 0 ∉ name) (rest : Bytes) :
    pieces (name ++ 0 :: rest) = name :: pieces rest := by
  have hname : Text.split (· == 0) name = [name] := pieces_of_not_mem h
  rw [pieces, Text.split_append_cons (by rfl), hname]
  rfl

theorem pieces_zero_cons (rest : Bytes) : pieces (0 :: rest) = [] :: pieces rest :=
  pieces_append_zero List.not_mem_nil rest

/-! ## Options -/

theorem optionsOfPieces_word (hname : Word name) (value : Bytes) (list : List Bytes) :
    optionsOfPieces (name :: value :: list) = optionOf name value :: optionsOfPieces list := by
  have hne : ¬ name.isEmpty = true := fun hempty => hname.ne_nil (List.isEmpty_iff.mp hempty)
  rw [optionsOfPieces, if_neg hne, optionOf]

theorem optionsOfPieces_empty (list : List Bytes) : optionsOfPieces ([] :: list) = [] := by
  cases list with
  | nil => rfl
  | cons value list => rfl

theorem optionsOfPieces_eq (h : OptionList rest options) :
    optionsOfPieces (pieces rest) = options := by
  induction h with
  | unended hrest =>
      rw [pieces_of_not_mem hrest]
      rfl
  | unnamed => rw [pieces_zero_cons, optionsOfPieces_empty]
  | last hname hvalue =>
      rw [pieces_append_zero hname.zero_not_mem, pieces_of_not_mem hvalue,
        optionsOfPieces_word hname]
      rfl
  | pair hname hvalue _ ih =>
      rw [pieces_append_zero hname.zero_not_mem, pieces_append_zero hvalue,
        optionsOfPieces_word hname, ih]

theorem exists_optionList (rest : Bytes) : ∃ options, OptionList rest options := by
  -- on how many octets are left, since one pair takes several
  induction hlength : rest.length using Nat.strongRecOn generalizing rest with
  | ind n ih =>
      obtain hrest | ⟨name, behind, rfl, hname⟩ := zero_mem_cases rest
      · exact ⟨[], .unended hrest⟩
      · by_cases hempty : name = []
        · subst hempty
          exact ⟨[], .unnamed⟩
        · have hword : Word name := ⟨hempty, hname⟩
          obtain hvalue | ⟨value, later, rfl, hvalue⟩ := zero_mem_cases behind
          · exact ⟨_, .last hword hvalue⟩
          · have hshorter : later.length < n := by
              rw [← hlength]
              simp only [List.length_append, List.length_cons]
              omega
            obtain ⟨options, hoptions⟩ := ih later.length hshorter later rfl
            exact ⟨_, .pair hword hvalue hoptions⟩

theorem optionList_iff : OptionList rest options ↔ optionsOfPieces (pieces rest) = options := by
  constructor
  · exact optionsOfPieces_eq
  · rintro rfl
    obtain ⟨options, hoptions⟩ := exists_optionList rest
    rw [optionsOfPieces_eq hoptions]
    exact hoptions

/-! ## Requests -/

theorem requestOfPieces_words (hname : Word name) (hmode : Word mode) (rest : Bytes) :
    requestOfPieces make (pieces (name ++ 0 :: (mode ++ 0 :: rest))) =
      .ok (make (Text.Utf8.decodeLossy name) (Text.lowercase (Text.Utf8.decodeLossy mode))
        (optionsOfPieces (pieces rest))) := by
  have hmore : (pieces rest).isEmpty = false :=
    List.isEmpty_eq_false_iff.mpr (Text.split_ne_nil _ _)
  rw [pieces_append_zero hname.zero_not_mem, pieces_append_zero hmode.zero_not_mem,
    requestOfPieces, hmore, List.isEmpty_eq_false_iff.mpr hname.ne_nil,
    List.isEmpty_eq_false_iff.mpr hmode.ne_nil]
  rfl

theorem words_of_requestOfPieces (h : requestOfPieces make (pieces body) = .ok packet) :
    ∃ name mode rest, body = name ++ 0 :: (mode ++ 0 :: rest) ∧ Word name ∧ Word mode := by
  obtain hbody | ⟨name, behind, rfl, hname⟩ := zero_mem_cases body
  · rw [pieces_of_not_mem hbody] at h
    exact nomatch h
  · by_cases hempty : name = []
    · subst hempty
      cases hlist : pieces behind <;> simp [pieces_zero_cons, hlist, requestOfPieces] at h
    · obtain hmode | ⟨mode, rest, rfl, hmode⟩ := zero_mem_cases behind
      · simp [pieces_append_zero hname, pieces_of_not_mem hmode, requestOfPieces, hempty] at h
      · by_cases hnone : mode = []
        · subst hnone
          simp [pieces_append_zero hname, pieces_zero_cons, requestOfPieces, hempty] at h
        · exact ⟨name, mode, rest, rfl, ⟨hempty, hname⟩, ⟨hnone, hmode⟩⟩

/-! ## Packets -/

theorem takeWhile_ended {message : Bytes} (hmessage : 0 ∉ message)
    (hrest : rest = [] ∨ ∃ more, rest = 0 :: more) :
    (message ++ rest).takeWhile (· != 0) = message := by
  have hall : ∀ b ∈ message, (b != 0) = true := by
    intro b hb
    rw [bne_iff_ne]
    rintro rfl
    exact hmessage hb
  rw [List.takeWhile_append_of_pos hall]
  rcases hrest with rfl | ⟨more, rfl⟩
  · rw [List.takeWhile_nil, List.append_nil]
  · rw [List.takeWhile_cons_of_neg (by decide), List.append_nil]

theorem exists_ended (data : Bytes) :
    ∃ message rest, data = message ++ rest ∧ 0 ∉ message ∧
      (rest = [] ∨ ∃ more, rest = 0 :: more) := by
  obtain hdata | ⟨message, more, rfl, hmessage⟩ := zero_mem_cases data
  · exact ⟨data, [], (List.append_nil data).symm, hdata, .inl rfl⟩
  · exact ⟨message, 0 :: more, rfl, hmessage, .inr ⟨more, rfl⟩⟩

theorem Body.parseBody_eq (h : Body body packet) : parseBody packet.opcode body = .ok packet := by
  cases h with
  | readRequest hname hmode hoptions | writeRequest hname hmode hoptions =>
      rw [← optionsOfPieces_eq hoptions]
      exact requestOfPieces_words hname hmode _
  | data | ack => rfl
  | error high low hmessage hrest =>
      simp only [opcode, parseBody, takeWhile_ended hmessage hrest]
  | optionAck hoptions =>
      rw [← optionsOfPieces_eq hoptions]
      rfl

theorem body_of_parseBody (h : parseBody opcode body = .ok packet) :
    packet.opcode = opcode ∧ Body body packet := by
  unfold parseBody at h
  split at h
  next =>
    obtain ⟨name, mode, rest, rfl, hname, hmode⟩ := words_of_requestOfPieces h
    rw [requestOfPieces_words hname hmode] at h
    obtain rfl := Except.ok.inj h
    exact ⟨rfl, .readRequest hname hmode (optionList_iff.mpr rfl)⟩
  next =>
    obtain ⟨name, mode, rest, rfl, hname, hmode⟩ := words_of_requestOfPieces h
    rw [requestOfPieces_words hname hmode] at h
    obtain rfl := Except.ok.inj h
    exact ⟨rfl, .writeRequest hname hmode (optionList_iff.mpr rfl)⟩
  next high low payload =>
    obtain rfl := Except.ok.inj h
    exact ⟨rfl, .data high low payload⟩
  next => exact nomatch h
  next high low rest =>
    obtain rfl := Except.ok.inj h
    exact ⟨rfl, .ack high low rest⟩
  next => exact nomatch h
  next high low rest =>
    obtain ⟨message, behind, rfl, hmessage, hbehind⟩ := exists_ended rest
    rw [takeWhile_ended hmessage hbehind] at h
    obtain rfl := Except.ok.inj h
    exact ⟨rfl, .error high low hmessage hbehind⟩
  next => exact nomatch h
  next =>
    obtain rfl := Except.ok.inj h
    exact ⟨rfl, .optionAck (optionList_iff.mpr rfl)⟩

theorem code_eq_of_ofCode? {code : UInt16} (h : Opcode.ofCode? code = some opcode) :
    opcode.code = code := by
  have hfound := List.find?_some h
  exact of_decide_eq_true hfound

/-- The octets of a packet: its opcode, the high octet first, and what belongs to it. -/
def Octets (data : Bytes) (packet : Packet) : Prop :=
  ∃ body, data = Bytes.ofUInt16 packet.opcode.code ++ body ∧ Body body packet

theorem parse_eq_ok_iff {data : Bytes} : parse data = .ok packet ↔ Octets data packet := by
  constructor
  · intro h
    unfold parse at h
    split at h
    next high low body =>
      split at h
      next opcode hopcode =>
        obtain ⟨rfl, hbody⟩ := body_of_parseBody h
        refine ⟨body, ?_, hbody⟩
        rw [code_eq_of_ofCode? hopcode, Bytes.ofUInt16_word16]
        rfl
      next => exact nomatch h
    next => exact nomatch h
  · rintro ⟨body, rfl, hbody⟩
    rw [Bytes.ofUInt16, List.cons_append, List.cons_append, List.nil_append, parse]
    simp only [Bytes.word16_ofUInt16, Opcode.ofCode?_code]
    exact hbody.parseBody_eq

/-- A request starts with two texts that are not empty. -/
def StartsWithWords (body : Bytes) : Prop :=
  ∃ name mode rest, body = name ++ 0 :: (mode ++ 0 :: rest) ∧ Word name ∧ Word mode

theorem StartsWithWords.exists_body (h : StartsWithWords body) :
    (∃ packet, packet.opcode = .readRequest ∧ Body body packet) ∧
      ∃ packet, packet.opcode = .writeRequest ∧ Body body packet := by
  obtain ⟨name, mode, rest, rfl, hname, hmode⟩ := h
  obtain ⟨options, hoptions⟩ := exists_optionList rest
  exact ⟨⟨_, rfl, .readRequest hname hmode hoptions⟩, ⟨_, rfl, .writeRequest hname hmode hoptions⟩⟩

theorem exists_body_of_length (h : 2 ≤ body.length) :
    ∀ opcode ∈ [Opcode.data, .ack, .error], ∃ packet, packet.opcode = opcode ∧ Body body packet := by
  obtain ⟨high, low, rest, rfl⟩ : ∃ high low rest, body = high :: low :: rest := by
    match body, h with
    | high :: low :: rest, _ => exact ⟨high, low, rest, rfl⟩
  obtain ⟨message, behind, rfl, hmessage, hbehind⟩ := exists_ended rest
  simp only [List.forall_mem_cons]
  exact ⟨⟨_, rfl, .data high low _⟩, ⟨_, rfl, .ack high low _⟩,
    ⟨_, rfl, .error high low hmessage hbehind⟩, nofun⟩

theorem exists_parse {high low : UInt8} (opcode : Opcode)
    (hcode : high.toNat * 256 + low.toNat = opcode.code.toNat)
    (hbody : ∃ packet, packet.opcode = opcode ∧ Body body packet) :
    ∃ packet, parse (high :: low :: body) = .ok packet := by
  obtain ⟨packet, rfl, hbody⟩ := hbody
  have hword : Bytes.word16 high low = packet.opcode.code := by
    rw [Bytes.word16, hcode, UInt16.ofNat_toNat]
  refine ⟨packet, parse_eq_ok_iff.mpr ⟨body, ?_, hbody⟩⟩
  rw [← hword, Bytes.ofUInt16_word16]
  rfl

theorem lookup_eq_some_iff {name value : String} :
    options.lookup name = some value ↔ FirstValue options name value := by
  rw [List.lookup_eq_some_iff, FirstValue]
  simp only [bne_iff_ne, ne_comm]

/-- Octets are read if they start with an opcode from 1 to 6, the high octet first, and behind it a
request has two texts that are not empty, and data, acknowledgements and errors have two octets.
They are read as the packet that they are. An option of a request or of an acknowledgement of
options is the first one of its name, and no other packet has one. -/
theorem parse_reads_packets (data : Bytes) :
    ((∃ packet, parse data = .ok packet) ↔
      ∃ high low body, data = high :: low :: body ∧
        let opcode := high.toNat * 256 + low.toNat
        ((opcode = 1 ∨ opcode = 2) ∧ StartsWithWords body) ∨
          ((opcode = 3 ∨ opcode = 4 ∨ opcode = 5) ∧ 2 ≤ body.length) ∨ opcode = 6) ∧
    (∀ packet, parse data = .ok packet ↔ Octets data packet) ∧
    (∀ fileName mode options name value,
      ((readRequest fileName mode options).option? name = some value ↔
        FirstValue options name value) ∧
      ((writeRequest fileName mode options).option? name = some value ↔
        FirstValue options name value) ∧
      ((optionAck options).option? name = some value ↔ FirstValue options name value)) ∧
    ∀ block payload code message name, (Packet.data block payload).option? name = none ∧
      (ack block).option? name = none ∧ (error code message).option? name = none := by
  refine ⟨⟨?_, ?_⟩, fun packet => parse_eq_ok_iff, ?_, ?_⟩
  · rintro ⟨packet, h⟩
    obtain ⟨body, rfl, hbody⟩ := parse_eq_ok_iff.mp h
    have hopcode : ∀ opcode : Opcode, (UInt8.ofNat (opcode.code.toNat / 256)).toNat * 256 +
        (UInt8.ofNat opcode.code.toNat).toNat = opcode.code.toNat := by
      rintro (_ | _) <;> rfl
    refine ⟨_, _, body, rfl, ?_⟩
    rw [hopcode]
    cases hbody with
    | readRequest hname hmode => exact .inl ⟨.inl rfl, _, _, _, rfl, hname, hmode⟩
    | writeRequest hname hmode => exact .inl ⟨.inr rfl, _, _, _, rfl, hname, hmode⟩
    | data => exact .inr (.inl ⟨.inl rfl, Nat.le_add_left 2 _⟩)
    | ack => exact .inr (.inl ⟨.inr (.inl rfl), Nat.le_add_left 2 _⟩)
    | error => exact .inr (.inl ⟨.inr (.inr rfl), Nat.le_add_left 2 _⟩)
    | optionAck => exact .inr (.inr rfl)
  · rintro ⟨high, low, body, rfl, hform⟩
    rcases hform with ⟨hcode | hcode, hwords⟩ | ⟨hcode | hcode | hcode, hlength⟩ | hcode
    · exact exists_parse .readRequest hcode hwords.exists_body.1
    · exact exists_parse .writeRequest hcode hwords.exists_body.2
    · exact exists_parse .data hcode (exists_body_of_length hlength _ (by simp))
    · exact exists_parse .ack hcode (exists_body_of_length hlength _ (by simp))
    · exact exists_parse .error hcode (exists_body_of_length hlength _ (by simp))
    · obtain ⟨options, hoptions⟩ := exists_optionList body
      exact exists_parse .optionAck hcode ⟨_, rfl, .optionAck hoptions⟩
  · intro fileName mode options name value
    exact ⟨lookup_eq_some_iff, lookup_eq_some_iff, lookup_eq_some_iff⟩
  · intro block payload code message name
    exact ⟨rfl, rfl, rfl⟩

-- the last name stands alone, its value is what is left of the data
example : parse [0, 6, 84, 83, 0, 48, 0, 98, 0] = .ok (optionAck [("ts", "0"), ("b", "")]) := by
  cbv

end Packet

end BootServer.Tftp
