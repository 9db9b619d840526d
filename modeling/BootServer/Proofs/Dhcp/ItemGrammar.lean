import BootServer.Proofs.Dhcp.Reencoding

/-!
# Which octets are a sequence of items

The reader accepts exactly the sequences of fillers and items that reach to the end of the data or to
an end mark. Of anything else it tells where the longest of them ends, which is where an item starts
that is cut short. On its way it never looks at an octet that is not there.
-/

namespace BootServer.Dhcp

namespace Item

/-- Fillers, and items of a code, a length and so many octets, one behind the other. -/
inductive Sequence : Bytes → List Item → Prop
  | nil : Sequence [] []
  | fill {data : Bytes} {items : List Item} (h : Sequence data items) :
      Sequence (0 :: data) items
  | item {code length : UInt8} {payload data : Bytes} {items : List Item} (hfill : code ≠ 0)
      (hfinish : code ≠ 255) (hlength : payload.length = length.toNat) (h : Sequence data items) :
      Sequence (code :: length :: (payload ++ data)) (⟨code, payload⟩ :: items)

/-- Nothing follows, or an end mark and whatever is behind it. -/
def Ended (tail : Bytes) : Prop := tail = [] ∨ ∃ rest, tail = 255 :: rest

/-- Behind the code of an item its length is missing, or there are fewer octets than that. -/
def Short (tail : Bytes) : Prop :=
  tail = [] ∨ ∃ length rest, tail = length :: rest ∧ rest.length < length.toNat

/-- A sequence of items up to the end of the data or to an end mark. -/
def WellFormed (data : Bytes) (items : List Item) : Prop :=
  ∃ front tail, data = front ++ tail ∧ Sequence front items ∧ Ended tail

/-- The longest well-formed part at the start of the data ends at an offset, and the item that starts
there is cut short. -/
structure CutShort (data : Bytes) (code : UInt8) (offset : Nat) : Prop where
  reached : ∃ front items, front <+: data ∧ WellFormed front items ∧ front.length = offset
  longest : ∀ front items, front <+: data → WellFormed front items → front.length ≤ offset
  code_eq : data[offset]? = some code
  short : Short (data.drop (offset + 1))

variable {data front rest tail : Bytes} {items found : List Item} {code : UInt8} {offset : Nat}

/-! ### The reader and the sequences -/

theorem Sequence.parseFrom_append (h : Sequence front items) (offset : Nat) (rest : Bytes) :
    parseFrom offset (front ++ rest) =
      (parseFrom (offset + front.length) rest).map (items ++ ·) := by
  induction h generalizing offset with
  | nil =>
      rw [List.nil_append, List.length_nil, Nat.add_zero]
      cases parseFrom offset rest <;> rfl
  | @fill data items _ ih =>
      have hoffset : offset + (0 :: data : Bytes).length = offset + 1 + data.length := by
        rw [List.length_cons]
        omega
      rw [List.cons_append, hoffset, ← ih]
      exact parseFrom_fill offset (data ++ rest)
  | @item code length payload data items hfill hfinish hlength _ ih =>
      have hoffset : offset + (code :: length :: (payload ++ data)).length =
          offset + 2 + length.toNat + data.length := by
        rw [List.length_cons, List.length_cons, List.length_append, hlength]
        omega
      rw [List.cons_append, List.cons_append, List.append_assoc, hoffset,
        parseFrom_tagged hfill hfinish hlength, ih]
      cases parseFrom (offset + 2 + length.toNat + data.length) rest <;> rfl

theorem parseFrom_ended (h : Ended tail) (offset : Nat) : parseFrom offset tail = .ok [] := by
  rcases h with rfl | ⟨rest, rfl⟩
  · rw [parseFrom]
  · exact parseFrom_finish offset rest

theorem parseFrom_short (hfill : code ≠ Code.fill) (hfinish : code ≠ Code.finish)
    (h : Short rest) (offset : Nat) :
    parseFrom offset (code :: rest) = .error (.truncated code offset) := by
  rcases h with rfl | ⟨length, rest, rfl, hshort⟩
  · rw [parseFrom, if_neg hfinish, if_neg hfill]
  · have htake : (rest.take length.toNat).length < length.toNat :=
      Nat.lt_of_le_of_lt (List.length_take_le' _ _) hshort
    rw [parseFrom, if_neg hfinish, if_neg hfill]
    exact if_pos htake

/-- Any data are a sequence and what is behind it: an end, or an item that is cut short. -/
theorem exists_sequence (data : Bytes) :
    ∃ front items tail, data = front ++ tail ∧ Sequence front items ∧
      (Ended tail ∨ ∃ code rest, tail = code :: rest ∧ code ≠ 0 ∧ code ≠ 255 ∧ Short rest) := by
  -- by the calls of the reader, which tell the cases of the data apart
  induction 0, data using parseFrom.induct with
  | case1 => exact ⟨[], [], [], rfl, .nil, .inl (.inl rfl)⟩
  | case2 _ rest => exact ⟨[], [], _, rfl, .nil, .inl (.inr ⟨rest, rfl⟩)⟩
  | case3 _ rest _ ih =>
      obtain ⟨front, items, tail, rfl, hfront, htail⟩ := ih
      exact ⟨0 :: front, items, tail, rfl, .fill hfront, htail⟩
  | case4 _ code hfinish hfill =>
      exact ⟨[], [], [code], rfl, .nil, .inr ⟨code, [], rfl, hfill, hfinish, .inl rfl⟩⟩
  | case5 _ code hfinish hfill length rest payload hshort =>
      have hrest : rest.length < length.toNat := by
        rw [List.length_take] at hshort
        omega
      exact ⟨[], [], _, rfl, .nil,
        .inr ⟨code, length :: rest, rfl, hfill, hfinish, .inr ⟨length, rest, rfl, hrest⟩⟩⟩
  | case6 _ code hfinish hfill length rest payload hlong _ _ ih
  | case7 _ code hfinish hfill length rest payload hlong _ _ ih =>
      obtain ⟨front, items, tail, hdrop, hfront, htail⟩ := ih
      have hpayload : payload.length = length.toNat :=
        Nat.le_antisymm (List.length_take_le _ _) (Nat.not_lt.mp hlong)
      refine ⟨code :: length :: (payload ++ front), ⟨code, payload⟩ :: items, tail, ?_,
        .item hfill hfinish hpayload hfront, htail⟩
      rw [List.cons_append, List.cons_append, List.append_assoc, ← hdrop, List.take_append_drop]

/-! ### Exactly the sequences are read -/

theorem WellFormed.parseAll_eq (h : WellFormed data items) : parseAll data = .ok items := by
  obtain ⟨front, tail, rfl, hfront, htail⟩ := h
  rw [parseAll, hfront.parseFrom_append, parseFrom_ended htail, Except.map, List.append_nil]

theorem parseFrom_sequence_short (hfront : Sequence front items) (hfill : code ≠ 0)
    (hfinish : code ≠ 255) (h : Short rest) (offset : Nat) :
    parseFrom offset (front ++ code :: rest) =
      .error (.truncated code (offset + front.length)) := by
  rw [hfront.parseFrom_append, parseFrom_short hfill hfinish h, Except.map]

theorem wellFormed_of_parseAll (h : parseAll data = .ok items) : WellFormed data items := by
  obtain ⟨front, read, tail, rfl, hfront, hend | ⟨code, rest, rfl, hfill, hfinish, hshort⟩⟩ :=
    exists_sequence data
  · have hwell : WellFormed (front ++ tail) read := ⟨front, tail, rfl, hfront, hend⟩
    obtain rfl := Except.ok.inj (hwell.parseAll_eq.symm.trans h)
    exact hwell
  · rw [parseAll, parseFrom_sequence_short hfront hfill hfinish hshort] at h
    exact nomatch h

theorem parseFrom_error_le {error : ParseError} (h : parseFrom offset data = .error error) :
    ∃ code reached, error = .truncated code reached ∧ offset ≤ reached := by
  obtain ⟨front, items, tail, rfl, hfront, hend | ⟨code, rest, rfl, hfill, hfinish, hshort⟩⟩ :=
    exists_sequence data
  · rw [hfront.parseFrom_append, parseFrom_ended hend] at h
    exact nomatch h
  · rw [parseFrom_sequence_short hfront hfill hfinish hshort] at h
    exact ⟨code, _, (Except.error.inj h).symm, Nat.le_add_right _ _⟩

/-- Where the reader stops, nothing well-formed from the start goes further. -/
theorem length_le_of_truncated (h : parseAll data = .error (.truncated code offset))
    (hstart : front <+: data) (hfront : WellFormed front items) : front.length ≤ offset := by
  obtain ⟨rest, rfl⟩ := hstart
  obtain ⟨sequence, tail, rfl, hsequence, rfl | ⟨more, rfl⟩⟩ := hfront
  · -- the reader goes on behind this part, so that is where it fails
    rw [List.append_nil] at h ⊢
    rw [parseAll, hsequence.parseFrom_append, Nat.zero_add] at h
    cases hrest : parseFrom sequence.length rest with
    | ok later =>
        rw [hrest] at h
        exact nomatch h
    | error error =>
        obtain ⟨code', reached, rfl, hle⟩ := parseFrom_error_le hrest
        rw [hrest] at h
        obtain ⟨-, rfl⟩ := ParseError.truncated.inj (Except.error.inj h)
        exact hle
  · -- an end mark ends the data as well
    have hwell : WellFormed (sequence ++ 255 :: more ++ rest) items :=
      ⟨sequence, 255 :: more ++ rest, by rw [List.append_assoc], hsequence, .inr ⟨_, rfl⟩⟩
    exact nomatch h.symm.trans hwell.parseAll_eq

theorem cutShort_of_truncated (h : parseAll data = .error (.truncated code offset)) :
    CutShort data code offset := by
  obtain ⟨front, items, tail, rfl, hfront, hend | ⟨code', rest, rfl, hfill, hfinish, hshort⟩⟩ :=
    exists_sequence data
  · have hwell : WellFormed (front ++ tail) items := ⟨front, tail, rfl, hfront, hend⟩
    exact nomatch h.symm.trans hwell.parseAll_eq
  · have hlongest : ∀ other items, other <+: front ++ code' :: rest → WellFormed other items →
        other.length ≤ offset := fun other items => length_le_of_truncated h
    rw [parseAll, parseFrom_sequence_short hfront hfill hfinish hshort, Nat.zero_add] at h
    obtain ⟨rfl, rfl⟩ := ParseError.truncated.inj (Except.error.inj h)
    have hwell : WellFormed front items :=
      ⟨front, [], (List.append_nil front).symm, hfront, .inl rfl⟩
    refine ⟨⟨front, items, List.prefix_append _ _, hwell, rfl⟩, hlongest, ?_, ?_⟩
    · simp
    · simpa using hshort

namespace CutShort

theorem not_wellFormed (h : CutShort data code offset) (items : List Item) :
    ¬ WellFormed data items := by
  intro hwell
  have hlength : data.length ≤ offset := h.longest data items (List.prefix_refl data) hwell
  have hcode := h.code_eq
  rw [List.getElem?_eq_none hlength] at hcode
  exact nomatch hcode

theorem unique (h : CutShort data code offset) {code' : UInt8} {offset' : Nat}
    (h' : CutShort data code' offset') : code' = code ∧ offset' = offset := by
  obtain ⟨front, items, hfront, hwell, rfl⟩ := h.reached
  obtain ⟨front', items', hfront', hwell', rfl⟩ := h'.reached
  have hle : front.length ≤ front'.length := h'.longest front items hfront hwell
  have hge : front'.length ≤ front.length := h.longest front' items' hfront' hwell'
  have hlength : front'.length = front.length := Nat.le_antisymm hge hle
  have hcode' := h'.code_eq
  rw [hlength, h.code_eq] at hcode'
  exact ⟨(Option.some.inj hcode').symm, hlength⟩

end CutShort

/-! ### Octets in range -/

/-- The octets from one index up to another, if the data have them. -/
def range? (data : Bytes) (start stop : Nat) : Option Bytes :=
  if start ≤ stop ∧ stop ≤ data.length then some (Bytes.slice data start (stop - start))
  else none

/-- The reader as a loop over the indices of the data, with the items that it has found. It comes to
nothing where it looks at an octet or at a range that the data do not have. -/
def scan (data : Bytes) (index : Nat) (found : List Item) :
    Option (Except ParseError (List Item)) :=
  if index < data.length then
    match data[index]? with
    | none => none
    | some code =>
      if code = 255 then some (.ok found)
      else if code = 0 then scan data (index + 1) found
      else match data[index + 1]? with
        | none => some (.error (.truncated code index))
        | some length =>
          let start := index + 2
          let stop := start + length.toNat
          if data.length < stop then some (.error (.truncated code index))
          else match range? data start stop with
            | none => none
            | some payload => scan data stop (found ++ [⟨code, payload⟩])
  else some (.ok found)
  termination_by data.length - index
  decreasing_by all_goals omega

variable {index : Nat}

theorem getElem?_of_drop (h : data.drop index = code :: rest) : data[index]? = some code := by
  have hhead : (data.drop index)[0]? = some code := by rw [h, List.getElem?_cons_zero]
  rwa [List.getElem?_drop, Nat.add_zero] at hhead

theorem drop_succ_of_drop (h : data.drop index = code :: rest) : data.drop (index + 1) = rest := by
  rw [← List.drop_drop, h, List.drop_one, List.tail_cons]

theorem scan_ended (h : Ended (data.drop index)) (found : List Item) :
    scan data index found = some (.ok found) := by
  rw [scan]
  split
  next hindex =>
    rcases h with hnil | ⟨rest, hrest⟩
    · have hlength : data.length ≤ index := List.drop_eq_nil_iff.mp hnil
      omega
    · simp only [getElem?_of_drop hrest, if_true]
  next => rfl

theorem scan_fill (h : data.drop index = 0 :: rest) (found : List Item) :
    scan data index found = scan data (index + 1) found := by
  have hcode := getElem?_of_drop h
  have hindex : index < data.length := (List.getElem?_eq_some_iff.mp hcode).1
  rw [scan, if_pos hindex]
  simp only [hcode]
  rfl

theorem scan_item {length : UInt8} {payload : Bytes} (hfill : code ≠ 0) (hfinish : code ≠ 255)
    (hlength : payload.length = length.toNat)
    (h : data.drop index = code :: length :: (payload ++ rest)) (found : List Item) :
    scan data index found =
      scan data (index + 2 + length.toNat) (found ++ [⟨code, payload⟩]) := by
  have hcode := getElem?_of_drop h
  have hindex : index < data.length := (List.getElem?_eq_some_iff.mp hcode).1
  have hlater := drop_succ_of_drop h
  have hpayload : data.drop (index + 2) = payload ++ rest := drop_succ_of_drop hlater
  have hsize : data.length - index = 2 + length.toNat + rest.length := by
    rw [← List.length_drop, h, List.length_cons, List.length_cons, List.length_append, hlength]
    omega
  have hstop : index + 2 + length.toNat ≤ data.length := by omega
  have hrange : range? data (index + 2) (index + 2 + length.toNat) = some payload := by
    rw [range?, if_pos ⟨Nat.le_add_right _ _, hstop⟩, Nat.add_sub_cancel_left, Bytes.slice,
      hpayload, ← hlength, List.take_left]
  rw [scan, if_pos hindex]
  simp only [hcode, hfinish, hfill, getElem?_of_drop hlater, Nat.not_lt.mpr hstop, hrange, if_false]

theorem scan_short (hfill : code ≠ 0) (hfinish : code ≠ 255) (hshort : Short rest)
    (h : data.drop index = code :: rest) (found : List Item) :
    scan data index found = some (.error (.truncated code index)) := by
  have hcode := getElem?_of_drop h
  have hindex : index < data.length := (List.getElem?_eq_some_iff.mp hcode).1
  have hlater := drop_succ_of_drop h
  rw [scan, if_pos hindex]
  simp only [hcode, hfinish, hfill, if_false]
  rcases hshort with rfl | ⟨length, rest, rfl, hshort⟩
  · have hmissing : data[index + 1]? = none :=
      List.getElem?_eq_none (List.drop_eq_nil_iff.mp hlater)
    simp only [hmissing]
  · have hstop : data.length < index + 2 + length.toNat := by
      have hsize : data.length - (index + 1) = rest.length + 1 := by
        rw [← List.length_drop, hlater, List.length_cons]
      omega
    simp only [getElem?_of_drop hlater, hstop, if_true]

/-- The loop comes to the end of a sequence with its items. -/
theorem Sequence.scan_eq (h : Sequence front items) {rest : Bytes}
    (hdrop : data.drop index = front ++ rest) (found : List Item) :
    scan data index found = scan data (index + front.length) (found ++ items) := by
  induction h generalizing index found with
  | nil => rw [List.length_nil, Nat.add_zero, List.append_nil]
  | @fill front items _ ih =>
      have hlater : data.drop (index + 1) = front ++ rest := drop_succ_of_drop hdrop
      rw [scan_fill hdrop, ih hlater, List.length_cons, Nat.add_right_comm, Nat.add_assoc]
  | @item code length payload front items hfill hfinish hlength _ ih =>
      rw [List.cons_append, List.cons_append, List.append_assoc] at hdrop
      have hlater : data.drop (index + 2 + length.toNat) = front ++ rest := by
        rw [← List.drop_drop, drop_succ_of_drop (drop_succ_of_drop hdrop), ← hlength,
          List.drop_left]
      have hindex : index + (code :: length :: (payload ++ front)).length =
          index + 2 + length.toNat + front.length := by
        rw [List.length_cons, List.length_cons, List.length_append, hlength]
        omega
      rw [scan_item hfill hfinish hlength hdrop, ih hlater, hindex, List.append_assoc,
        List.singleton_append]

/-- The loop never looks at what is not there, and reads what the reader reads. -/
theorem scan_eq_parseAll (data : Bytes) : scan data 0 [] = some (parseAll data) := by
  obtain ⟨front, items, tail, rfl, hfront, htail⟩ := exists_sequence data
  have hbehind : (front ++ tail).drop (0 + front.length) = tail := by
    rw [Nat.zero_add, List.drop_left]
  rw [hfront.scan_eq rfl, List.nil_append]
  rcases htail with hend | ⟨code, rest, rfl, hfill, hfinish, hshort⟩
  · have hwell : WellFormed (front ++ tail) items := ⟨front, tail, rfl, hfront, hend⟩
    rw [← hbehind] at hend
    rw [scan_ended hend, hwell.parseAll_eq]
  · rw [scan_short hfill hfinish hshort hbehind, parseAll,
      parseFrom_sequence_short hfront hfill hfinish hshort]

/-- The reader accepts exactly the well-formed data, with the items in their order; it refuses all
others by the item that is cut short behind the longest well-formed part. It never looks at an octet
or at a range that the data do not have. -/
theorem parseAll_reads_sequences (data : Bytes) :
    (∀ items, parseAll data = .ok items ↔ WellFormed data items) ∧
    (∀ error, parseAll data = .error error ↔
      ∃ code offset, error = .truncated code offset ∧ CutShort data code offset) ∧
    scan data 0 [] = some (parseAll data) := by
  refine ⟨fun items => ⟨wellFormed_of_parseAll, WellFormed.parseAll_eq⟩, ?_,
    scan_eq_parseAll data⟩
  intro error
  constructor
  · intro h
    obtain ⟨code, offset, rfl, -⟩ := parseFrom_error_le h
    exact ⟨code, offset, rfl, cutShort_of_truncated h⟩
  · rintro ⟨code, offset, rfl, hcut⟩
    cases hread : parseAll data with
    | ok items => exact absurd (wellFormed_of_parseAll hread) (hcut.not_wellFormed items)
    | error error =>
        obtain ⟨code', offset', rfl, -⟩ := parseFrom_error_le hread
        obtain ⟨rfl, rfl⟩ := hcut.unique (cutShort_of_truncated hread)
        rfl

-- marks are octets like others in a payload
example : parseAll [0, 12, 2, 255, 0] = .ok [⟨12, [255, 0]⟩] := by cbv

example : parseAll [0, 12, 2, 255, 0, 1] = .error (.truncated 1 5) := by cbv

end Item

end BootServer.Dhcp
