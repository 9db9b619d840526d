import BootServer.Config.Reading
import BootServer.Proofs.Text.Lines
import BootServer.Proofs.Text.Numerals

/-!
# Configurations written as text and read back

The text of a configuration is read back where each of its values stands on one line without blanks
at its ends. Numbers, flags and addresses always do, and so does every value that comes from a text.
-/

namespace BootServer

namespace Kind

theorem parse?_render (kind : Kind) (value : kind.Value) :
    kind.parse? (kind.render value) = some value := by
  cases kind with
  | flag =>
      cases value with
      | false => decide +kernel
      | true => decide +kernel
  | word16 =>
      rw [parse?, render, String.toList_ofList,
        Text.unsigned?_digits (Nat.le_sub_one_of_lt (UInt16.toNat_lt_size value)), Option.map_some,
        UInt16.ofNat_toNat]
  | word32 =>
      rw [parse?, render, String.toList_ofList,
        Text.unsigned?_digits (Nat.le_sub_one_of_lt (UInt32.toNat_lt_size value)), Option.map_some,
        UInt32.ofNat_toNat]
  | word64 =>
      rw [parse?, render, String.toList_ofList,
        Text.unsigned?_digits (Nat.le_sub_one_of_lt (UInt64.toNat_lt_size value)), Option.map_some,
        UInt64.ofNat_toNat]
  | text => rfl
  | address => exact IPv4.ofText?_toText value

theorem oneLine_digits (n : Nat) : Text.OneLine (String.ofList (Text.digits n)) := by
  apply Text.oneLine_of_forall
  rw [String.toList_ofList]
  exact fun c hc => Text.isBlank_of_isDigit (Text.isDigit_of_mem_digits hc)

/-- What is no text has no blanks in its own text. -/
theorem oneLine_render {kind : Kind} (h : kind ≠ .text) (value : kind.Value) :
    Text.OneLine (kind.render value) := by
  cases kind with
  | flag =>
      apply Text.oneLine_of_all
      cases value with
      | false => decide
      | true => decide
  | word16 => exact oneLine_digits (UInt16.toNat value)
  | word32 => exact oneLine_digits (UInt32.toNat value)
  | word64 => exact oneLine_digits (UInt64.toNat value)
  | text => exact absurd rfl h
  | address =>
      apply Text.oneLine_of_forall
      intro c hc
      rcases IPv4.mem_toText hc with rfl | hdigit
      · decide
      · exact Text.isBlank_of_isDigit hdigit

theorem oneLine_of_parse? {kind : Kind} {input : String} {value : kind.Value}
    (h : kind.parse? input = some value) (hinput : Text.OneLine input) :
    Text.OneLine (kind.render value) := by
  by_cases hkind : kind = .text
  · subst hkind
    obtain rfl := Option.some.inj h
    exact hinput
  · exact oneLine_render hkind value

end Kind

namespace Key

theorem ofName?_name (key : Key) : ofName? key.name = some key := by
  cases key <;> decide

/-- The name of a key does not start a comment, has no blanks and no mark of a value. -/
theorem name_plain (key : Key) :
    (∀ c ∈ key.name.toList, Text.isBlank c = false ∧ c ≠ '=' ∧ c ≠ '#') ∧ key.name.toList ≠ [] := by
  have hall : (key.name.toList.all fun c => !Text.isBlank c && c != '=' && c != '#') = true ∧
      key.name.toList ≠ [] := by
    cases key <;> decide +kernel
  refine ⟨fun c hc => ?_, hall.2⟩
  have hplain := List.all_eq_true.mp hall.1 c hc
  rw [Bool.and_eq_true, Bool.and_eq_true, Bool.not_eq_true', bne_iff_ne, bne_iff_ne] at hplain
  exact ⟨hplain.1.1, hplain.1.2, hplain.2⟩

end Key

namespace Config

variable {config base : Config} {text : String}

/-- Every value of the configuration stands on one line, without blanks at its ends. -/
def OneLineValues (config : Config) : Prop := ∀ key, Text.OneLine (config.text key)

/-- The line of a key, without its end. -/
def lineChars (config : Config) (key : Key) : List Char :=
  key.name.toList ++ '=' :: (config.text key).toList

/-! ## Lines that settings are written on -/

theorem noBlankEnds_lineChars {key : Key} (h : Text.OneLine (config.text key)) :
    Text.NoBlankEnds (config.lineChars key) := by
  obtain ⟨hname, hne⟩ := key.name_plain
  obtain ⟨first, rest, hfirst⟩ := List.exists_cons_of_ne_nil hne
  constructor
  · rw [lineChars, hfirst]
    rintro _ ⟨⟩
    exact (hname first (hfirst ▸ List.mem_cons_self)).1
  · rw [lineChars, List.getLast?_append, List.getLast?_cons]
    -- the last character is that of the value, or the mark before an empty one
    cases hlast : (config.text key).toList.getLast? with
    | none =>
        rintro _ ⟨⟩
        decide
    | some c =>
        rintro _ ⟨⟩
        exact h.ends.last c hlast

theorem ofChars_lineChars {key : Key} (h : Text.OneLine (config.text key)) :
    Line.ofChars (config.lineChars key) = .setting key (config.text key) := by
  obtain ⟨hname, hne⟩ := key.name_plain
  obtain ⟨first, rest, hfirst⟩ := List.exists_cons_of_ne_nil hne
  have hmark : '=' ∉ key.name.toList := fun hmem => (hname '=' hmem).2.1 rfl
  have hspeaks : ((config.lineChars key).isEmpty || (config.lineChars key).head? == some '#') =
      false := by
    rw [lineChars, hfirst]
    exact beq_eq_false_iff_ne.mpr
      (mt Option.some.inj (hname first (hfirst ▸ List.mem_cons_self)).2.2)
  have htrim : Text.trim key.name.toList = key.name.toList :=
    (Text.noBlankEnds_of_forall fun c hc => (hname c hc).1).trim_eq
  unfold Line.ofChars
  dsimp only
  rw [(noBlankEnds_lineChars h).trim_eq, hspeaks, lineChars, Text.cutAt?_append hmark]
  dsimp only
  rw [htrim, String.ofList_toList, Key.ofName?_name, h.ends.trim_eq, String.ofList_toList]
  rfl

theorem toList_render (config : Config) :
    config.render.toList = (Key.all.map config.lineChars).flatMap (· ++ ['\n']) := by
  have hline : ∀ key, (config.renderLine key).toList = config.lineChars key ++ ['\n'] := by
    intro key
    simp only [renderLine, lineChars, String.toList_append, List.append_assoc]
    rfl
  rw [render, String.toList_join, List.flatMap_map, List.flatMap_map]
  simp only [hline]

theorem lines_render (h : config.OneLineValues) :
    Text.lines config.render.toList = Key.all.map config.lineChars := by
  rw [toList_render]
  apply Text.lines_flatMap
  · intro line hline hfeed
    obtain ⟨key, -, rfl⟩ := List.mem_map.mp hline
    rcases List.mem_append.mp hfeed with hname | hvalue
    · exact absurd (key.name_plain.1 '\n' hname).1 (by decide)
    · rcases List.mem_cons.mp hvalue with hmark | hvalue
      · exact absurd hmark (by decide)
      · exact (h key).no_feed hvalue
  · intro line hline hreturn
    obtain ⟨key, -, rfl⟩ := List.mem_map.mp hline
    exact absurd ((noBlankEnds_lineChars (h key)).last '\r' hreturn) (by decide)

/-! ## Settings in turn -/

/-- The values of one configuration put into another, key by key. -/
theorem get_foldl_set (keys : List Key) (key : Key) :
    (keys.foldl (fun c key => c.set key (config.get key)) base).get key =
      if key ∈ keys then config.get key else base.get key := by
  induction keys generalizing base with
  | nil => rfl
  | cons first keys ih =>
      rw [List.foldl_cons, ih]
      by_cases hkeys : key ∈ keys
      · rw [if_pos hkeys, if_pos (List.mem_cons_of_mem _ hkeys)]
      · rw [if_neg hkeys]
        by_cases hfirst : key = first
        · subst hfirst
          rw [get_set_self, if_pos List.mem_cons_self]
        · rw [get_set_of_ne base _ hfirst, if_neg (List.not_mem_cons_of_ne_of_not_mem hfirst hkeys)]

theorem foldl_set_all (config base : Config) :
    Key.all.foldl (fun c key => c.set key (config.get key)) base = config := by
  apply ext_get
  intro key
  rw [get_foldl_set, if_pos key.mem_all]

theorem ofLines_settings {keys : List Key} {lines : List (Nat × Line)}
    (h : lines.map Prod.snd = keys.map fun key => .setting key (config.text key)) :
    ofLines base lines = .ok (keys.foldl (fun c key => c.set key (config.get key)) base) := by
  induction lines generalizing keys base with
  | nil =>
      obtain rfl := List.map_eq_nil_iff.mp h.symm
      rfl
  | cons line lines ih =>
      cases keys with
      | nil => exact nomatch h
      | cons key keys =>
          obtain ⟨number, line⟩ := line
          obtain ⟨rfl, hrest⟩ := List.cons.inj h
          have hparse : key.kind.parse? (config.text key) = some (config.get key) :=
            Kind.parse?_render key.kind (config.get key)
          have haccepted : (Line.setting key (config.text key)).refused? = none := by
            rw [Line.refused?, hparse]
            rfl
          rw [ofLines, haccepted]
          dsimp only
          rw [ih hrest, Line.apply, hparse, List.foldl_cons]

theorem map_snd_numberedLines (text : String) :
    (numberedLines text).map Prod.snd = (Text.lines text.toList).map Line.ofChars := by
  apply List.ext_getElem?
  intro index
  rw [numberedLines, List.getElem?_map, List.getElem?_mapIdx, List.getElem?_map, Option.map_map]
  rfl

/-- A configuration whose values stand on one line each is read back from its text. -/
theorem parse_render (h : config.OneLineValues) : parse config.render = .ok config := by
  have hlines : (numberedLines config.render).map Prod.snd =
      Key.all.map fun key => .setting key (config.text key) := by
    rw [map_snd_numberedLines, lines_render h, List.map_map]
    exact List.map_congr_left fun key _ => ofChars_lineChars (h key)
  rw [parse, ofLines_settings hlines, foldl_set_all]

/-! ## Values that come from a text -/

theorem oneLineValues_set {key : Key} {value : key.kind.Value} (h : base.OneLineValues)
    (hvalue : Text.OneLine (key.kind.render value)) : (base.set key value).OneLineValues := by
  intro other
  unfold Config.text
  by_cases hother : other = key
  · subst hother
    rw [get_set_self]
    exact hvalue
  · rw [get_set_of_ne base value hother]
    exact h other

theorem oneLine_of_ofChars {cs : List Char} {key : Key} {value : String} (hcs : '\n' ∉ cs)
    (h : Line.ofChars cs = .setting key value) : Text.OneLine value := by
  unfold Line.ofChars at h
  dsimp only at h
  split at h
  next => exact nomatch h
  next =>
    split at h
    next => exact nomatch h
    next name rest hcut =>
      split at h
      next => exact nomatch h
      next =>
        obtain ⟨rfl, rfl⟩ := Line.setting.inj h
        apply Text.oneLine_trim
        intro hfeed
        apply hcs
        apply (Text.isInfix_trim cs).subset
        rw [Text.eq_of_cutAt? hcut]
        exact List.mem_append_right _ (List.mem_cons_of_mem _ hfeed)

theorem oneLineValues_of_ofLines {lines : List (Nat × Line)} (hbase : base.OneLineValues)
    (hlines : ∀ line ∈ lines, ∀ key value, line.2 = .setting key value → Text.OneLine value)
    (h : ofLines base lines = .ok config) : config.OneLineValues := by
  induction lines generalizing base with
  | nil =>
      obtain rfl := Except.ok.inj h
      exact hbase
  | cons line lines ih =>
      obtain ⟨number, line⟩ := line
      rw [ofLines] at h
      split at h
      next => exact nomatch h
      next =>
        apply ih _ (fun l hl => hlines l (List.mem_cons_of_mem _ hl)) h
        cases line with
        | setting key value =>
            rw [Line.apply]
            split
            next parsed hparsed =>
              exact oneLineValues_set hbase (Kind.oneLine_of_parse? hparsed
                (hlines (number, .setting key value) List.mem_cons_self key value rfl))
            next => exact hbase
        | silent => exact hbase
        | malformed text => exact hbase
        | unknown name => exact hbase

theorem oneLineValues_default : default.OneLineValues := by
  intro key
  apply Text.oneLine_of_all
  cases key <;> decide

/-- What is read from a text has values of one line. -/
theorem oneLineValues_of_parse (h : parse text = .ok config) : config.OneLineValues := by
  apply oneLineValues_of_ofLines oneLineValues_default _ h
  intro line hline key value hsetting
  have hmem : line.2 ∈ (numberedLines text).map Prod.snd := List.mem_map_of_mem hline
  rw [map_snd_numberedLines] at hmem
  obtain ⟨cs, hcs, hline⟩ := List.mem_map.mp hmem
  exact oneLine_of_ofChars (Text.feed_not_mem_of_mem_lines hcs) (hline.trans hsetting)

/-! ## Which configurations are kept -/

/-- The settings that are texts. -/
def texts (config : Config) : List String :=
  [config.interface, config.dhcp.domain, config.tftp.root, config.bootFile]

theorem texts_set {key : Key} (h : key.kind ≠ .text) (value : key.kind.Value) :
    (config.set key value).texts = config.texts := by
  cases key <;> first | rfl | exact absurd rfl h

theorem oneLineValues_iff : config.OneLineValues ↔ ∀ text ∈ config.texts, Text.OneLine text := by
  constructor
  · intro h text htext
    simp only [texts, List.mem_cons, List.not_mem_nil, or_false] at htext
    rcases htext with rfl | rfl | rfl | rfl
    · exact h .interface
    · exact h .dhcpDomain
    · exact h .tftpRoot
    · exact h .bootFile
  · intro h key
    simp only [texts, List.forall_mem_cons] at h
    obtain ⟨hinterface, hdomain, hroot, hbootFile, -⟩ := h
    by_cases hkind : key.kind = .text
    · cases key
      case interface => exact hinterface
      case dhcpDomain => exact hdomain
      case tftpRoot => exact hroot
      case bootFile => exact hbootFile
      all_goals exact nomatch hkind
    · exact Kind.oneLine_render hkind _

theorem parse_render_eq_ok_iff :
    parse config.render = .ok config ↔ ∀ text ∈ config.texts, Text.OneLine text := by
  rw [← oneLineValues_iff]
  exact ⟨oneLineValues_of_parse, parse_render⟩

/-- A configuration is read back from its text exactly if each text in it is free of line feeds and
not changed by trimming. So all that stands between the ends of a text is kept, and so is every
number, flag and address; what is not read back is refused or becomes another configuration. -/
theorem lossless_iff_texts_trimmed (config : Config) :
    (parse config.render = .ok config ↔
      ∀ text ∈ [config.interface, config.dhcp.domain, config.tftp.root, config.bootFile],
        '\n' ∉ text.toList ∧ Text.trim text.toList = text.toList) ∧
      ((∀ text ∈ config.texts, '\n' ∉ text.toList ∧
          (∀ c, text.toList.head? = some c → Text.isBlank c = false) ∧
          ∀ c, text.toList.getLast? = some c → Text.isBlank c = false) →
        parse config.render = .ok config) ∧
      (∀ key (value : key.kind.Value), key.kind ≠ .text →
        (parse (config.set key value).render = .ok (config.set key value) ↔
          parse config.render = .ok config)) ∧
      (¬ (∀ text ∈ config.texts, '\n' ∉ text.toList ∧ Text.trim text.toList = text.toList) →
        (∃ error, parse config.render = .error error) ∨
          ∃ other, parse config.render = .ok other ∧ other ≠ config) := by
  have hiff : parse config.render = .ok config ↔
      ∀ text ∈ config.texts, '\n' ∉ text.toList ∧ Text.trim text.toList = text.toList := by
    simp only [parse_render_eq_ok_iff, Text.oneLine_iff]
  refine ⟨hiff, ?_, ?_, ?_⟩
  · intro h
    apply parse_render_eq_ok_iff.mpr
    intro text htext
    obtain ⟨hfeed, hhead, hlast⟩ := h text htext
    exact ⟨hfeed, hhead, hlast⟩
  · intro key value hkind
    rw [parse_render_eq_ok_iff, parse_render_eq_ok_iff, texts_set hkind]
  · intro hlossy
    cases hparse : parse config.render with
    | error error => exact .inl ⟨error, rfl⟩
    | ok other =>
        refine .inr ⟨other, rfl, ?_⟩
        rintro rfl
        exact hlossy (hiff.mp hparse)

end Config

end BootServer
