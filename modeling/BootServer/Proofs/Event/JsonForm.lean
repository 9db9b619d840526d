import BootServer.Proofs.Json.Members
import BootServer.Proofs.Json.Plain
import Mathlib.Logic.Basic

/-!
# Events written as JSON and read back

Every event is read back from its JSON text, and no other event has that text. The members of its
objects may stand in any order, and members that the event does not have may stand among them: their
names must have texts, and where the data stand before the kind, so that they are set aside, the
values of such members must be plain and not nested too deep. A document that fails in this is
refused, and never read as another event.
-/

namespace BootServer

namespace Json

variable {json data : Json} {fields named : List (String × Json)} {kind name text : String}
  {doc members : List (Option String × Json)} {n bound : Nat}

/-! ## Fields -/

/-- What the fields of events hold: texts, numbers of 64 bits, or null. -/
inductive Atom : Json → Prop
  | null : Atom .null
  | text (text : String) : Atom (.ofText text)
  | number {n : Nat} (h : n < UInt64.size) : Atom (.ofNat n)

theorem Atom.readBack (h : Atom json) : Parser.ReadBack json := by
  cases h with
  | null => exact Parser.readBack_null
  | text text => exact Parser.readBack_of_scalar (.text text)
  | number h => exact Parser.readBack_of_scalar (.natural _)

theorem Atom.isPlain (h : Atom json) : json.isPlain = true := by
  cases h with
  | null => rfl
  | text text => rfl
  | number h => exact Numeral.isFinite_ofNat h

theorem Atom.depth_eq (h : Atom json) : json.depth = 0 := by
  cases h with
  | null => rfl
  | text text => rfl
  | number h => rfl

theorem Rearranged.textField? (h : Rearranged fields (lifted named))
    (hnodup : (fields.map Prod.fst).Nodup) (hmem : (name, ofText text) ∈ fields) :
    textField? named name = some text := by
  rw [Json.textField?, h.field? hnodup hmem]
  rfl

theorem Rearranged.addressField? {ip : IPv4} (h : Rearranged fields (lifted named))
    (hnodup : (fields.map Prod.fst).Nodup) (hmem : (name, ofText ip.toText) ∈ fields) :
    addressField? named name = some ip := by
  rw [Json.addressField?, h.textField? hnodup hmem, Option.bind_some, IPv4.ofText?_toText]

theorem Rearranged.naturalField? (h : Rearranged fields (lifted named))
    (hnodup : (fields.map Prod.fst).Nodup) (hmem : (name, ofNat n) ∈ fields) (hle : n ≤ bound) :
    naturalField? named name bound = some n := by
  rw [Json.naturalField?, h.field? hnodup hmem, Option.bind_some, natural?_ofNat hle]

/-! ## Kind and data in either order -/

/-- The data of an event stand before its kind. -/
def DataFirst (doc : List (Option String × Json)) : Prop :=
  ∃ front data back, doc = front ++ (some "data", data) :: back ∧
    ∀ member ∈ front, member.1 ≠ some "type"

theorem dataFirst_cons_iff (member : Option String × Json) :
    DataFirst (member :: doc) ↔
      member.1 = some "data" ∨ member.1 ≠ some "type" ∧ DataFirst doc := by
  constructor
  · rintro ⟨front, data, back, heq, hfront⟩
    cases front with
    | nil =>
        rw [List.nil_append] at heq
        exact .inl (congrArg Prod.fst (List.cons.inj heq).1)
    | cons first front =>
        obtain ⟨rfl, rfl⟩ := List.cons.inj heq
        obtain ⟨hfirst, hfront⟩ := List.forall_mem_cons.mp hfront
        exact .inr ⟨hfirst, front, data, back, rfl, hfront⟩
  · rintro (hdata | ⟨hmember, front, data, back, rfl, hfront⟩)
    · exact ⟨[], member.2, doc, by rw [← hdata]; rfl, fun _ h => nomatch h⟩
    · exact ⟨member :: front, data, back, rfl, List.forall_mem_cons.mpr ⟨hmember, hfront⟩⟩

theorem dataFirst_iff (named : List (String × Json)) :
    dataFirst named = true ↔ DataFirst (lifted named) := by
  induction named with
  | nil => simp [dataFirst, DataFirst, lifted]
  | cons member named ih =>
      have hlifted : lifted (member :: named) = (some member.1, member.2) :: lifted named := rfl
      rw [hlifted, dataFirst_cons_iff, ← ih, dataFirst, dataFirst, List.find?_cons]
      by_cases hdata : member.1 = "data"
      · simp [hdata]
      · by_cases htype : member.1 = "type"
        · simp [htype]
        · simp [hdata, htype]

theorem tagged?_object (hnamed : namedMembers? doc = some named)
    (hkind : field? named "type" = some (.ofText kind)) (hdata : field? named "data" = some data) :
    tagged? (.object doc) =
      if dataFirst named && !canWait data then none
      else (members? data).map fun fields => (kind, fields) := by
  unfold tagged?
  simp only [hnamed, hkind, hdata, Option.bind_eq_bind, Option.bind_some]
  split
  · rfl
  · cases members? data <;> rfl

theorem namedMembers?_of_tagged? {read : String × List (String × Json)}
    (h : tagged? (.object doc) = some read) : ∃ named, namedMembers? doc = some named := by
  obtain ⟨named, hnamed, -⟩ := Option.bind_eq_some_iff.mp h
  exact ⟨named, hnamed⟩

/-- The members of an event's object. -/
def tags (kind : String) (data : Json) : List (String × Json) :=
  [("type", .ofText kind), ("data", data)]

theorem nodup_tags (kind : String) (data : Json) : ((tags kind data).map Prod.fst).Nodup := by
  change ["type", "data"].Nodup
  decide

theorem Rearranged.data_unique {other : Json} (h : Rearranged (tags kind data) doc)
    (hmem : (some "data", other) ∈ doc) : other = data := by
  have hname : some "data" ∈ (tags kind data).map fun known => some known.1 :=
    List.mem_cons_of_mem _ List.mem_cons_self
  obtain ⟨known, hknown, heq⟩ := h.of_mem hmem hname
  obtain ⟨hfirst, hsecond⟩ := Prod.mk.inj heq
  rcases List.mem_cons.mp hknown with rfl | hknown
  · exact absurd (show "data" = "type" from Option.some.inj hfirst) (by decide)
  · obtain rfl := List.mem_singleton.mp hknown
    exact hsecond

/-- The JSON of an event with the members of its objects in any order, and others that the event
does not have among them. -/
inductive Retold (kind : String) (fields : List (String × Json)) : Json → Prop
  | intro {doc members : List (Option String × Json)}
      (hdoc : Rearranged (tags kind (.object members)) doc)
      (hdata : Rearranged fields members) : Retold kind fields (.object doc)

/-- The members that are no fields are plain and not nested too deep. -/
def OthersCanWait (fields : List (String × Json)) (members : List (Option String × Json)) : Prop :=
  ∀ member ∈ members, (member.1 ∉ fields.map fun field => some field.1) →
    member.2.isPlain = true ∧ member.2.depth < depthMax

/-- What it takes to read a document of an event: all names have texts, and data that stand before
the kind can be set aside with what they have beside the fields of the event. -/
inductive Legible (fields : List (String × Json)) : Json → Prop
  | intro {doc members : List (Option String × Json)} (hdata : (some "data", .object members) ∈ doc)
      (hdocNames : ∀ member ∈ doc, member.1 ≠ none)
      (hdataNames : ∀ member ∈ members, member.1 ≠ none)
      (hwait : DataFirst doc → OthersCanWait fields members) : Legible fields (.object doc)

theorem Rearranged.legible_iff (h : Rearranged (tags kind (.object members)) doc) :
    Legible fields (.object doc) ↔
      (∀ member ∈ doc, member.1 ≠ none) ∧ (∀ member ∈ members, member.1 ≠ none) ∧
        (DataFirst doc → OthersCanWait fields members) := by
  constructor
  · rintro ⟨hdata, hdocNames, hdataNames, hwait⟩
    obtain rfl := Json.object.inj (h.data_unique hdata)
    exact ⟨hdocNames, hdataNames, hwait⟩
  · rintro ⟨hdocNames, hdataNames, hwait⟩
    exact .intro (h.mem (List.mem_cons_of_mem _ List.mem_cons_self)) hdocNames hdataNames hwait

theorem retold_ofTagged (kind : String) (fields : List (String × Json)) :
    Retold kind fields (ofTagged kind fields) :=
  .intro (rearranged_lifted (tags kind _)) (rearranged_lifted fields)

theorem legible_ofTagged (kind : String) (fields : List (String × Json)) :
    Legible fields (ofTagged kind fields) := by
  refine .intro (List.mem_cons_of_mem _ List.mem_cons_self) ne_none_of_mem_lifted
    ne_none_of_mem_lifted ?_
  rintro - member hmember hunknown
  obtain ⟨known, hknown, rfl⟩ := List.mem_map.mp hmember
  exact absurd (List.mem_map.mpr ⟨known, hknown, rfl⟩) hunknown

/-- The fields themselves can always be set aside. -/
theorem Rearranged.canWait_object (h : Rearranged fields members)
    (hatoms : ∀ field ∈ fields, Atom field.2) (hnames : ∀ member ∈ members, member.1 ≠ none)
    (hothers : OthersCanWait fields members) : canWait (.object members) = true := by
  refine canWait_object_iff.mpr fun member hmember => ⟨hnames member hmember, ?_⟩
  by_cases hknown : member.1 ∈ fields.map fun field => some field.1
  · obtain ⟨field, hfield, rfl⟩ := h.of_mem hmember hknown
    have hatom := hatoms field hfield
    refine ⟨hatom.isPlain, ?_⟩
    rw [hatom.depth_eq]
    decide
  · exact hothers member hmember hknown

theorem Rearranged.tagged? (h : Rearranged (tags kind data) (lifted named)) :
    tagged? (.object (lifted named)) =
      if dataFirst named && !canWait data then none
      else (members? data).map fun fields => (kind, fields) :=
  tagged?_object (namedMembers?_some named)
    (h.field? (nodup_tags kind data) List.mem_cons_self)
    (h.field? (nodup_tags kind data) (List.mem_cons_of_mem _ List.mem_cons_self))

namespace Retold

theorem tagged?_of_legible (h : Retold kind fields json)
    (hatoms : ∀ field ∈ fields, Atom field.2) (hlegible : Legible fields json) :
    ∃ named, json.tagged? = some (kind, named) ∧ Rearranged fields (lifted named) := by
  obtain ⟨hdoc, hdata⟩ := h
  obtain ⟨hdocNames, hdataNames, hwait⟩ := hdoc.legible_iff.mp hlegible
  obtain ⟨top, rfl⟩ := exists_lifted hdocNames
  obtain ⟨named, rfl⟩ := exists_lifted hdataNames
  -- only data that stand before the kind are set aside
  have hready : (dataFirst top && !canWait (.object (lifted named))) = false := by
    cases hfirst : dataFirst top with
    | false => rfl
    | true =>
        rw [hdata.canWait_object hatoms hdataNames (hwait ((dataFirst_iff top).mp hfirst))]
        rfl
  refine ⟨named, ?_, hdata⟩
  rw [hdoc.tagged?, hready, members?, lifted, namedMembers?_some]
  rfl

theorem legible_of_tagged? {read : String × List (String × Json)} (h : Retold kind fields json)
    (hread : json.tagged? = some read) : Legible fields json := by
  obtain ⟨hdoc, hdata⟩ := h
  have hdocNames := ne_none_of_namedMembers? (namedMembers?_of_tagged? hread)
  obtain ⟨top, rfl⟩ := exists_lifted hdocNames
  rw [hdoc.tagged?, Option.ite_none_left_eq_some, Bool.and_eq_true, not_and, Bool.not_eq_true',
    Bool.not_eq_false] at hread
  obtain ⟨hready, hmembers⟩ := hread
  obtain ⟨named, hnamed, -⟩ := Option.map_eq_some_iff.mp hmembers
  refine hdoc.legible_iff.mpr ⟨hdocNames, ne_none_of_namedMembers? ⟨named, hnamed⟩, ?_⟩
  intro hfirst member hmember _
  exact (canWait_object_iff.mp (hready ((dataFirst_iff top).mpr hfirst)) member hmember).2

end Retold

/-! ## Reading back -/

/-- Values are read back from their JSON. `Retold` are the documents that tell of a value, and
`Legible` those of them that can be read. -/
structure ReadsBack {α : Type} (toJson : α → Json) (ofJson? : Json → Option α)
    (Retold Legible : α → Json → Prop) : Prop where
  own : ∀ event, Retold event (toJson event) ∧ Legible event (toJson event)
  back : ∀ event, (parse? (toJson event).compact).bind ofJson? = some event
  distinct : ∀ event other, (toJson event).compact = (toJson other).compact → event = other
  legible : ∀ event text json, parse? text = some json → Retold event json → Legible event json →
    (parse? text).bind ofJson? = some event
  refused : ∀ event text json, parse? text = some json → Retold event json →
    ¬ Legible event json → (parse? text).bind ofJson? = none

theorem ReadsBack.of_ofJson? {α : Type} {toJson : α → Json} {ofJson? : Json → Option α}
    {Retold Legible : α → Json → Prop}
    (hown : ∀ event, Retold event (toJson event) ∧ Legible event (toJson event))
    (hprinted : ∀ event, Parser.ReadBack (toJson event))
    (hlegible : ∀ event json, Retold event json → Legible event json → ofJson? json = some event)
    (hread : ∀ event json, Retold event json → ofJson? json ≠ none → Legible event json) :
    ReadsBack toJson ofJson? Retold Legible where
  own := hown
  back event := by
    rw [parse?_compact (hprinted event), Option.bind_some]
    exact hlegible event _ (hown event).1 (hown event).2
  distinct event other hcompact := by
    have hsame := eq_of_compact_eq (hprinted event) (hprinted other) hcompact
    have hevent := hlegible event _ (hown event).1 (hown event).2
    rw [hsame, hlegible other _ (hown other).1 (hown other).2] at hevent
    exact (Option.some.inj hevent).symm
  legible event text json htext hretold hjson := by
    rw [htext, Option.bind_some, hlegible event json hretold hjson]
  refused event text json htext hretold hjson := by
    rw [htext, Option.bind_some]
    by_contra hne
    exact hjson (hread event json hretold hne)

theorem readBack_ofTagged (hatoms : ∀ field ∈ fields, Atom field.2) :
    Parser.ReadBack (ofTagged kind fields) := by
  have hdata : Parser.ReadBack (ofMembers fields) :=
    Parser.readBack_ofMembers fun field hfield => (hatoms field hfield).readBack
  refine Parser.readBack_ofMembers ?_
  simp only [List.forall_mem_cons]
  exact ⟨(Atom.text kind).readBack, hdata, fun _ h => nomatch h⟩

theorem readsBack_ofTagged {α : Type} {kind : α → String} {fields : α → List (String × Json)}
    {ofTagged? : String → List (String × Json) → Option α}
    (hatoms : ∀ event, ∀ field ∈ fields event, Atom field.2)
    (hfields : ∀ event named, Rearranged (fields event) (lifted named) →
      ofTagged? (kind event) named = some event) :
    ReadsBack (fun event => ofTagged (kind event) (fields event))
      (fun json => json.tagged?.bind fun read => ofTagged? read.1 read.2)
      (fun event => Retold (kind event) (fields event)) (fun event => Legible (fields event)) := by
  refine .of_ofJson? (fun event => ⟨retold_ofTagged _ _, legible_ofTagged _ _⟩)
    (fun event => readBack_ofTagged (hatoms event)) ?_ ?_
  · intro event json hretold hlegible
    obtain ⟨named, htagged, hnamed⟩ := hretold.tagged?_of_legible (hatoms event) hlegible
    rw [htagged, Option.bind_some, hfields event named hnamed]
  · intro event json hretold hne
    obtain ⟨read, hread⟩ := Option.ne_none_iff_exists'.mp fun hnone : json.tagged? = none =>
      hne (by rw [hnone, Option.bind_none])
    exact hretold.legible_of_tagged? hread

/-- An object with these members in any order, and others beside them. -/
inductive Mixed (fields : List (String × Json)) : Json → Prop
  | intro {doc : List (Option String × Json)} (hdoc : Rearranged fields doc) :
      Mixed fields (.object doc)

/-- An object whose names have texts. -/
inductive Named : Json → Prop
  | intro {doc : List (Option String × Json)} (hnames : ∀ member ∈ doc, member.1 ≠ none) :
      Named (.object doc)

end Json

/-! ## The three kinds of events -/

open Json (Rearranged Atom Retold Legible Mixed Named lifted)

namespace LeaseEvent

variable {event : LeaseEvent} {named : List (String × Json)}

theorem nodup_fields (event : LeaseEvent) : (event.fields.map Prod.fst).Nodup := by
  cases event <;> simp [fields]

theorem atom_addressJson (ip : Option IPv4) : Atom (addressJson ip) := by
  cases ip with
  | none => exact .null
  | some ip => exact .text _

theorem atom_fields (event : LeaseEvent) : ∀ field ∈ event.fields, Atom field.2 := by
  cases event <;> simp [fields, Atom.text, atom_addressJson]

theorem previous?_of_rearranged {client : String} {ip : IPv4} {previous : Option IPv4}
    (h : Rearranged (assigned client ip previous).fields (lifted named)) :
    previous? named = some previous := by
  have hunique := h.unique? (nodup_fields _)
    (List.mem_cons_of_mem _ (List.mem_cons_of_mem _ List.mem_cons_self))
  rw [previous?, hunique, Option.bind_some]
  cases previous with
  | none => rfl
  | some ip =>
      change (IPv4.ofText? ip.toText).map some = some (some ip)
      rw [IPv4.ofText?_toText, Option.map_some]

theorem ofTagged?_of_rearranged (h : Rearranged event.fields (lifted named)) :
    ofTagged? event.kind named = some event := by
  have hnodup := event.nodup_fields
  cases event with
  | offered client ip | acknowledged client ip =>
      have hclient : Json.textField? named "client" = some client :=
        h.textField? hnodup (by simp [fields])
      have hip : Json.addressField? named "ip" = some ip := h.addressField? hnodup (by simp [fields])
      simp [ofTagged?, kind, hclient, hip]
  | refused client reason | ignored client reason =>
      have hclient : Json.textField? named "client" = some client :=
        h.textField? hnodup (by simp [fields])
      have hreason : Json.textField? named "reason" = some reason :=
        h.textField? hnodup (by simp [fields])
      simp [ofTagged?, kind, hclient, hreason]
  | assigned client ip previous =>
      have hclient : Json.textField? named "client" = some client :=
        h.textField? hnodup (by simp [fields])
      have hip : Json.addressField? named "ip" = some ip := h.addressField? hnodup (by simp [fields])
      simp [ofTagged?, kind, hclient, hip, previous?_of_rearranged h]
  | exhausted client =>
      have hclient : Json.textField? named "client" = some client :=
        h.textField? hnodup (by simp [fields])
      simp [ofTagged?, kind, hclient]

theorem readsBack :
    Json.ReadsBack toJson ofJson? (fun event => Retold event.kind event.fields)
      fun event => Legible event.fields :=
  Json.readsBack_ofTagged atom_fields fun _ _ => ofTagged?_of_rearranged

end LeaseEvent

namespace TransferEvent

variable {event : TransferEvent} {named : List (String × Json)} {name : String}

theorem nodup_fields (event : TransferEvent) : (event.fields.map Prod.fst).Nodup := by
  cases event <;> simp [fields]

theorem atom_fields (event : TransferEvent) : ∀ field ∈ event.fields, Atom field.2 := by
  have hword16 : ∀ word : UInt16, Atom (.ofNat word.toNat) :=
    fun word => .number (Nat.lt_trans word.toNat_lt_size (by decide))
  have hword64 : ∀ word : UInt64, Atom (.ofNat word.toNat) := fun word => .number word.toNat_lt_size
  cases event <;> simp [fields, Atom.text, hword16, hword64]

theorem word16?_of_rearranged {word : UInt16} (h : Rearranged event.fields (lifted named))
    (hmem : (name, Json.ofNat word.toNat) ∈ event.fields) : word16? named name = some word := by
  rw [word16?, h.naturalField? event.nodup_fields hmem (Nat.le_sub_one_of_lt word.toNat_lt_size),
    Option.map_some, UInt16.ofNat_toNat]

theorem word64?_of_rearranged {word : UInt64} (h : Rearranged event.fields (lifted named))
    (hmem : (name, Json.ofNat word.toNat) ∈ event.fields) : word64? named name = some word := by
  rw [word64?, h.naturalField? event.nodup_fields hmem (Nat.le_sub_one_of_lt word.toNat_lt_size),
    Option.map_some, UInt64.ofNat_toNat]

theorem ofTagged?_of_rearranged (h : Rearranged event.fields (lifted named)) :
    ofTagged? event.kind named = some event := by
  have hnodup := event.nodup_fields
  cases event with
  | started client path size blockSize =>
      have hclient : Json.addressField? named "client" = some client :=
        h.addressField? hnodup (by simp [fields])
      have hpath : Json.textField? named "path" = some path := h.textField? hnodup (by simp [fields])
      have hsize : word64? named "size" = some size := word64?_of_rearranged h (by simp [fields])
      have hblock : word16? named "block_size" = some blockSize :=
        word16?_of_rearranged h (by simp [fields])
      simp [ofTagged?, kind, hclient, hpath, hsize, hblock]
  | completed client path blocks =>
      have hclient : Json.addressField? named "client" = some client :=
        h.addressField? hnodup (by simp [fields])
      have hpath : Json.textField? named "path" = some path := h.textField? hnodup (by simp [fields])
      have hblocks : word64? named "blocks" = some blocks :=
        word64?_of_rearranged h (by simp [fields])
      simp [ofTagged?, kind, hclient, hpath, hblocks]
  | errorSent client code message =>
      have hclient : Json.addressField? named "client" = some client :=
        h.addressField? hnodup (by simp [fields])
      have hcode : word16? named "code" = some code := word16?_of_rearranged h (by simp [fields])
      have hmessage : Json.textField? named "message" = some message :=
        h.textField? hnodup (by simp [fields])
      simp [ofTagged?, kind, hclient, hcode, hmessage]
  | pruned count =>
      have hcount : word64? named "count" = some count := word64?_of_rearranged h (by simp [fields])
      simp [ofTagged?, kind, hcount]

theorem readsBack :
    Json.ReadsBack toJson ofJson? (fun event => Retold event.kind event.fields)
      fun event => Legible event.fields :=
  Json.readsBack_ofTagged atom_fields fun _ _ => ofTagged?_of_rearranged

end TransferEvent

namespace ServiceEvent

/-- The members of a service event's object. -/
def fields (event : ServiceEvent) : List (String × Json) :=
  [("service", .ofText event.service), ("state", .ofText event.state.name)]

variable {event : ServiceEvent} {json : Json}

theorem nodup_fields (event : ServiceEvent) : (event.fields.map Prod.fst).Nodup := by
  simp [fields]

theorem atom_fields (event : ServiceEvent) : ∀ field ∈ event.fields, Atom field.2 := by
  simp [fields, Atom.text]

theorem ofParts?_ofText (event : ServiceEvent) :
    ofParts? (.ofText event.service) (.ofText event.state.name) = some event := by
  simp [ofParts?, Json.ofText, Json.text?, Json.variant?]

theorem ofJson?_of_mixed (h : Mixed event.fields json) (hnames : Named json) :
    ofJson? json = some event := by
  obtain ⟨hdoc⟩ := h
  obtain ⟨hnames⟩ := hnames
  obtain ⟨named, rfl⟩ := Json.exists_lifted hnames
  have hservice : Json.field? named "service" = some (.ofText event.service) :=
    hdoc.field? event.nodup_fields (by simp [fields])
  have hstate : Json.field? named "state" = some (.ofText event.state.name) :=
    hdoc.field? event.nodup_fields (by simp [fields])
  have hnamed : Json.namedMembers? (lifted named) = some named := Json.namedMembers?_some named
  simp only [ofJson?, hnamed, hservice, hstate, Option.bind_eq_bind, Option.bind_some,
    ofParts?_ofText]

theorem named_of_ofJson? (h : Mixed event.fields json) (hread : ofJson? json ≠ none) :
    Named json := by
  obtain ⟨hdoc⟩ := h
  obtain ⟨read, hread⟩ := Option.ne_none_iff_exists'.mp hread
  obtain ⟨named, hnamed, -⟩ := Option.bind_eq_some_iff.mp hread
  exact ⟨Json.ne_none_of_namedMembers? ⟨named, hnamed⟩⟩

theorem readsBack :
    Json.ReadsBack toJson ofJson? (fun event => Mixed event.fields) fun _ => Named :=
  .of_ofJson?
    (fun event => ⟨⟨Json.rearranged_lifted event.fields⟩, ⟨Json.ne_none_of_mem_lifted⟩⟩)
    (fun event => Json.Parser.readBack_ofMembers fun field hfield =>
      (event.atom_fields field hfield).readBack)
    (fun _ _ => ofJson?_of_mixed) (fun _ _ => named_of_ofJson?)

end ServiceEvent

/-- Every event is read back from its JSON text, and different events have different texts. A
document with the members of an event in any order, and others beside them, is read as this event
when it is legible and refused when it is not. -/
theorem events_read_back :
    Json.ReadsBack LeaseEvent.toJson LeaseEvent.ofJson?
        (fun event => Retold event.kind event.fields) (fun event => Legible event.fields) ∧
      Json.ReadsBack TransferEvent.toJson TransferEvent.ofJson?
        (fun event => Retold event.kind event.fields) (fun event => Legible event.fields) ∧
      Json.ReadsBack ServiceEvent.toJson ServiceEvent.ofJson?
        (fun event => Mixed event.fields) (fun _ => Named) :=
  ⟨LeaseEvent.readsBack, TransferEvent.readsBack, ServiceEvent.readsBack⟩

/-! ## Members that cannot be read -/

namespace Small

/-- A text is JSON that tells, whatever else it has, that the pool is exhausted for a client. -/
def Tells (text : String) : Prop :=
  ∃ json, Json.parse? text = some json ∧
    Retold (LeaseEvent.exhausted "c").kind (LeaseEvent.exhausted "c").fields json

/-- A number that no double is close to, among data that stand behind the kind. -/
def kindThenNumber : String :=
  "\x7b\"type\":\"PoolExhausted\",\"data\":\x7b\"client\":\"c\",\"note\":1e400\x7d\x7d"

/-- The same number among data that stand before the kind. -/
def numberThenKind : String :=
  "\x7b\"data\":\x7b\"client\":\"c\",\"note\":1e400\x7d,\"type\":\"PoolExhausted\"\x7d"

/-- A member whose name is an unpaired surrogate. -/
def namelessMember : String :=
  "\x7b\"type\":\"PoolExhausted\",\"data\":\x7b\"client\":\"c\",\"\\ud800\":null\x7d\x7d"

def clientAnd (member : Option String × Json) : List (Option String × Json) :=
  [(some "client", .ofText "c"), member]

/-- The number 1e400. -/
def large : Json := .number ⟨false, ['1'], none, some (false, ['4', '0', '0'])⟩

theorem rearranged_large :
    Rearranged (LeaseEvent.exhausted "c").fields (clientAnd (some "note", large)) :=
  List.Perm.refl _

theorem tells_kindThenNumber : Tells kindThenNumber := by
  refine ⟨.object [(some "type", .ofText "PoolExhausted"),
    (some "data", .object (clientAnd (some "note", large)))], ?_, ?_⟩
  · cbv
  · exact .intro (List.Perm.refl _) rearranged_large

theorem tells_numberThenKind : Tells numberThenKind := by
  refine ⟨.object [(some "data", .object (clientAnd (some "note", large))),
    (some "type", .ofText "PoolExhausted")], ?_, ?_⟩
  · cbv
  · exact .intro (List.Perm.swap _ _ _) rearranged_large

theorem tells_namelessMember : Tells namelessMember := by
  refine ⟨.object [(some "type", .ofText "PoolExhausted"),
    (some "data", .object (clientAnd (none, .null)))], ?_, ?_⟩
  · cbv
  · exact .intro (List.Perm.refl _) (List.Perm.refl _)

end Small

/-- Texts that tell of one event, each with an unknown member. It is read where its number stands
behind the kind, and refused where the number stands before the kind, or where the name of the
member has no text. -/
theorem order_and_unknown_members_matter :
    (Small.Tells Small.kindThenNumber ∧
        (Json.parse? Small.kindThenNumber).bind LeaseEvent.ofJson? = some (.exhausted "c")) ∧
      (Small.Tells Small.numberThenKind ∧
        (Json.parse? Small.numberThenKind).bind LeaseEvent.ofJson? = none) ∧
      Small.Tells Small.namelessMember ∧
        (Json.parse? Small.namelessMember).bind LeaseEvent.ofJson? = none := by
  refine ⟨⟨Small.tells_kindThenNumber, ?_⟩, ⟨Small.tells_numberThenKind, ?_⟩,
    Small.tells_namelessMember, ?_⟩
  all_goals decide +kernel

end BootServer
