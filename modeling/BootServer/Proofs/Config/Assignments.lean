import BootServer.Proofs.Config.TextForm

/-!
# Texts as assignments

A line of a configuration assigns a text to a key or says nothing. The first line whose text is
refused ends the reading and is told by its number. Without one, each setting is what the last line
of its key says, or what it is by default. So a setting depends on the lines of its own key alone,
lines that say nothing are only counted, and the order matters among lines of one key only.
-/

namespace BootServer

theorem Key.ofName?_eq_some_iff {name : String} {key : Key} :
    ofName? name = some key ↔ name = key.name := by
  constructor
  · intro h
    have hfound := List.find?_some h
    exact (of_decide_eq_true hfound).symm
  · rintro rfl
    exact ofName?_name key

namespace Config

variable {base other config : Config} {line : List Char} {lines front middle back : List (List Char)}
  {key : Key} {value : String} {skipped : Nat} {text : String}

/-! ## What a line says -/

/-- A line with the name of a key before its first mark assigns what is behind the mark, unless it
is a remark. -/
structure Assigns (line : List Char) (key : Key) (value : String) : Prop where
  no_remark : (Text.trim line).head? ≠ some '#'
  cut : ∃ name rest, Text.trim line = name ++ '=' :: rest ∧ '=' ∉ name ∧
    String.ofList (Text.trim name) = key.name ∧ value = String.ofList (Text.trim rest)

theorem ofChars_eq_setting_iff : Line.ofChars line = .setting key value ↔ Assigns line key value := by
  constructor
  · intro h
    unfold Line.ofChars at h
    dsimp only at h
    split at h
    next => exact nomatch h
    next hspeaks =>
      rw [Bool.or_eq_true, not_or, beq_iff_eq] at hspeaks
      split at h
      next => exact nomatch h
      next name rest hcut =>
        split at h
        next => exact nomatch h
        next hname =>
          obtain ⟨rfl, rfl⟩ := Line.setting.inj h
          exact ⟨hspeaks.2, name, rest, Text.eq_of_cutAt? hcut, Text.not_mem_of_cutAt? hcut,
            Key.ofName?_eq_some_iff.mp hname, rfl⟩
  · rintro ⟨hremark, name, rest, hcut, hmark, hname, rfl⟩
    have hspeaks : ((Text.trim line).isEmpty || (Text.trim line).head? == some '#') = false := by
      rw [beq_eq_false_iff_ne.mpr hremark, hcut, Bool.or_false]
      exact List.isEmpty_eq_false_iff.mpr (List.append_ne_nil_of_right_ne_nil _ nofun)
    unfold Line.ofChars
    dsimp only
    rw [hspeaks, hcut, Text.cutAt?_append hmark]
    dsimp only
    rw [hname, Key.ofName?_name]
    rfl

/-- The lines that say nothing. -/
inductive Idle : List Char → Prop
  | blank {line : List Char} (h : Text.trim line = []) : Idle line
  | remark {line : List Char} (h : (Text.trim line).head? = some '#') : Idle line
  | malformed {line : List Char} (h : '=' ∉ Text.trim line) : Idle line
  | unknown {line name rest : List Char} (hcut : Text.trim line = name ++ '=' :: rest)
      (hmark : '=' ∉ name) (h : ∀ key : Key, String.ofList (Text.trim name) ≠ key.name) : Idle line

/-- The mark before which a line is cut is its first one. -/
theorem cut_unique {name rest first behind : List Char}
    (h : name ++ '=' :: rest = first ++ '=' :: behind) (hname : '=' ∉ name) (hfirst : '=' ∉ first) :
    name = first := by
  have hcut := Text.cutAt?_append hname rest
  rw [h, Text.cutAt?_append hfirst] at hcut
  exact (Prod.mk.inj (Option.some.inj hcut)).1.symm

theorem idle_iff : Idle line ↔ ∀ key value, ¬ Assigns line key value := by
  constructor
  · rintro hidle key value ⟨hremark, name, rest, hcut, hmark, hname, -⟩
    cases hidle with
    | blank h => exact absurd (hcut.symm.trans h) (by simp)
    | remark h => exact hremark h
    | malformed h => exact h (hcut ▸ List.mem_append_right name List.mem_cons_self)
    | unknown hother hfirst h =>
        obtain rfl := cut_unique (hcut.symm.trans hother) hmark hfirst
        exact h key hname
  · intro h
    by_cases hremark : (Text.trim line).head? = some '#'
    · exact .remark hremark
    · cases hcut : Text.cutAt? '=' (Text.trim line) with
      | none =>
          apply Idle.malformed
          intro hmark
          obtain ⟨name, rest, hsplit, hfirst⟩ := List.eq_append_cons_of_mem hmark
          rw [hsplit, Text.cutAt?_append hfirst] at hcut
          exact nomatch hcut
      | some parts =>
          have hsplit := Text.eq_of_cutAt? hcut
          have hmark := Text.not_mem_of_cutAt? hcut
          exact .unknown hsplit hmark fun key hname =>
            h key _ ⟨hremark, _, _, hsplit, hmark, hname, rfl⟩

/-- A line with a text that its key refuses. -/
def Refused (line : List Char) (key : Key) (value : String) : Prop :=
  Assigns line key value ∧ key.kind.parse? value = none

def Accepted (line : List Char) : Prop := ∀ key value, ¬ Refused line key value

theorem Idle.accepted (h : Idle line) : Accepted line :=
  fun key value hrefused => idle_iff.mp h key value hrefused.1

theorem refused?_ofChars_eq_some_iff :
    (Line.ofChars line).refused? = some (key, value) ↔ Refused line key value := by
  rw [Refused, ← ofChars_eq_setting_iff]
  cases Line.ofChars line with
  | silent | malformed _ | unknown _ =>
      constructor
      · rintro ⟨⟩
      · rintro ⟨⟨⟩, -⟩
  | setting named told =>
      rw [Line.refused?]
      cases hparse : named.kind.parse? told with
      | none =>
          constructor
          · rintro ⟨⟩
            exact ⟨rfl, hparse⟩
          · rintro ⟨⟨⟩, -⟩
            rfl
      | some parsed =>
          constructor
          · rintro ⟨⟩
          · rintro ⟨⟨⟩, hnone⟩
            cases hparse.symm.trans hnone

theorem accepted_iff : Accepted line ↔ (Line.ofChars line).refused? = none := by
  rw [Option.eq_none_iff_forall_ne_some, Prod.forall]
  exact forall_congr' fun key => forall_congr' fun value =>
    not_congr refused?_ofChars_eq_some_iff.symm

/-! ## What lines do to a configuration -/

/-- The configuration after every line has taken effect. -/
def afterLines (base : Config) (lines : List (List Char)) : Config :=
  lines.foldl (fun config line => (Line.ofChars line).apply config) base

def Unassigned (lines : List (List Char)) (key : Key) : Prop :=
  ∀ line ∈ lines, ∀ value, ¬ Assigns line key value

@[simp] theorem afterLines_cons (base : Config) (line : List Char) (lines : List (List Char)) :
    base.afterLines (line :: lines) = ((Line.ofChars line).apply base).afterLines lines := rfl

theorem afterLines_append (base : Config) (front back : List (List Char)) :
    base.afterLines (front ++ back) = (base.afterLines front).afterLines back := List.foldl_append

theorem apply_of_assigns {parsed : key.kind.Value} (h : Assigns line key value)
    (hparse : key.kind.parse? value = some parsed) (base : Config) :
    (Line.ofChars line).apply base = base.set key parsed := by
  rw [ofChars_eq_setting_iff.mpr h, Line.apply, hparse]

theorem get_apply_of_not_assigns (h : ∀ value, ¬ Assigns line key value) (base : Config) :
    ((Line.ofChars line).apply base).get key = base.get key := by
  cases hline : Line.ofChars line with
  | silent | malformed _ | unknown _ => rfl
  | setting named told =>
      have hne : key ≠ named := by
        rintro rfl
        exact h told (ofChars_eq_setting_iff.mp hline)
      rw [Line.apply]
      split
      next parsed _ => exact get_set_of_ne base parsed hne
      next => rfl

theorem get_apply_congr (line : Line) (h : base.get key = other.get key) :
    (line.apply base).get key = (line.apply other).get key := by
  cases line with
  | silent | malformed _ | unknown _ => exact h
  | setting named told =>
      rw [Line.apply, Line.apply]
      split
      next parsed _ =>
        by_cases hkey : key = named
        · subst hkey
          rw [get_set_self, get_set_self]
        · rw [get_set_of_ne base parsed hkey, get_set_of_ne other parsed hkey, h]
      next => exact h

theorem get_afterLines_of_unassigned (h : Unassigned lines key) (base : Config) :
    (base.afterLines lines).get key = base.get key := by
  induction lines generalizing base with
  | nil => rfl
  | cons line lines ih =>
      obtain ⟨hline, hlines⟩ := List.forall_mem_cons.mp h
      rw [afterLines_cons, ih hlines, get_apply_of_not_assigns hline]

theorem get_afterLines_congr (lines : List (List Char)) (h : base.get key = other.get key) :
    (base.afterLines lines).get key = (other.afterLines lines).get key := by
  induction lines generalizing base other with
  | nil => exact h
  | cons line lines ih => exact ih (get_apply_congr _ h)

theorem afterLines_idle (h : ∀ line ∈ lines, Idle line) (base : Config) :
    base.afterLines lines = base := by
  apply ext_get
  intro key
  exact get_afterLines_of_unassigned (fun line hline => idle_iff.mp (h line hline) key) base

/-- What lines say about a setting: what the last line of its key does, or the default. -/
inductive Gives (lines : List (List Char)) (key : Key) : key.kind.Value → Prop
  | last {front back : List (List Char)} {line : List Char} {text : String}
      {value : key.kind.Value} (hlines : lines = front ++ line :: back)
      (hassigns : Assigns line key text) (hvalue : key.kind.parse? text = some value)
      (hback : Unassigned back key) : Gives lines key value
  | byDefault (h : Unassigned lines key) : Gives lines key (default.get key)

theorem Gives.get_eq {value : key.kind.Value} (h : Gives lines key value) :
    (default.afterLines lines).get key = value := by
  cases h with
  | last hlines hassigns hvalue hback =>
      rw [hlines, afterLines_append, afterLines_cons, get_afterLines_of_unassigned hback,
        apply_of_assigns hassigns hvalue, get_set_self]
  | byDefault h => exact get_afterLines_of_unassigned h default

theorem unassigned_or_last (lines : List (List Char)) (key : Key) :
    Unassigned lines key ∨ ∃ front line back value, lines = front ++ line :: back ∧
      Assigns line key value ∧ Unassigned back key := by
  induction lines with
  | nil => exact .inl (List.forall_mem_nil _)
  | cons line lines ih =>
      rcases ih with hlines | ⟨front, last, back, value, rfl, hassigns, hback⟩
      · by_cases hline : ∃ value, Assigns line key value
        · obtain ⟨value, hassigns⟩ := hline
          exact .inr ⟨[], line, lines, value, rfl, hassigns, hlines⟩
        · exact .inl (List.forall_mem_cons.mpr ⟨not_exists.mp hline, hlines⟩)
      · exact .inr ⟨line :: front, last, back, value, rfl, hassigns, hback⟩

theorem gives_afterLines (h : ∀ line ∈ lines, Accepted line) (key : Key) :
    Gives lines key ((default.afterLines lines).get key) := by
  rcases unassigned_or_last lines key with hnone | ⟨front, line, back, value, hlines, hassigns, hback⟩
  · rw [get_afterLines_of_unassigned hnone]
    exact .byDefault hnone
  · have hline : line ∈ lines := hlines ▸ List.mem_append_right front List.mem_cons_self
    obtain ⟨parsed, hparsed⟩ := Option.ne_none_iff_exists'.mp
      fun hnone => h line hline key value ⟨hassigns, hnone⟩
    have hgives : Gives lines key parsed := .last hlines hassigns hparsed hback
    rw [hgives.get_eq]
    exact hgives

/-! ## Reading lines -/

/-- Lines with their numbers, where some have been read before. -/
def numberedFrom (skipped : Nat) : List (List Char) → List (Nat × Line)
  | [] => []
  | line :: lines => (skipped + 1, .ofChars line) :: numberedFrom (skipped + 1) lines

theorem mapIdx_eq_numberedFrom (lines : List (List Char)) (skipped : Nat) :
    lines.mapIdx (fun index line => (index + skipped + 1, Line.ofChars line)) =
      numberedFrom skipped lines := by
  induction lines generalizing skipped with
  | nil => rfl
  | cons line lines ih =>
      rw [List.mapIdx_cons, numberedFrom, ← ih, Nat.zero_add]
      simp only [Nat.add_assoc, Nat.add_comm 1]

theorem parse_eq (text : String) :
    parse text = ofLines default (numberedFrom 0 (Text.lines text.toList)) := by
  rw [parse, numberedLines, ← mapIdx_eq_numberedFrom]

theorem ofLines_append (h : ∀ line ∈ front, Accepted line) (base : Config) (skipped : Nat)
    (back : List (List Char)) :
    ofLines base (numberedFrom skipped (front ++ back)) =
      ofLines (base.afterLines front) (numberedFrom (skipped + front.length) back) := by
  induction front generalizing base skipped with
  | nil => rfl
  | cons line front ih =>
      obtain ⟨hline, hfront⟩ := List.forall_mem_cons.mp h
      rw [List.cons_append, numberedFrom, ofLines, accepted_iff.mp hline]
      dsimp only
      rw [ih hfront, afterLines_cons, List.length_cons, Nat.add_right_comm, Nat.add_assoc]

theorem ofLines_refused (h : Refused line key value) (base : Config) (skipped : Nat)
    (back : List (List Char)) :
    ofLines base (numberedFrom skipped (line :: back)) =
      .error (.invalidValue (skipped + 1) key value) := by
  rw [numberedFrom, ofLines, refused?_ofChars_eq_some_iff.mpr h]

/-- A refused line behind accepted ones. -/
structure FirstRefused (lines front : List (List Char)) (key : Key) (value : String) : Prop where
  split : ∃ line back, lines = front ++ line :: back ∧ Refused line key value
  accepted : ∀ line ∈ front, Accepted line

theorem accepted_or_first_refused (lines : List (List Char)) :
    (∀ line ∈ lines, Accepted line) ∨ ∃ front key value, FirstRefused lines front key value := by
  induction lines with
  | nil => exact .inl (List.forall_mem_nil _)
  | cons line lines ih =>
      by_cases hline : Accepted line
      · rcases ih with hlines | ⟨front, key, value, ⟨refused, back, rfl, hrefused⟩, hfront⟩
        · exact .inl (List.forall_mem_cons.mpr ⟨hline, hlines⟩)
        · exact .inr ⟨line :: front, key, value, ⟨refused, back, rfl, hrefused⟩,
            List.forall_mem_cons.mpr ⟨hline, hfront⟩⟩
      · obtain ⟨key, hkey⟩ := Classical.not_forall.mp hline
        obtain ⟨value, hvalue⟩ := Classical.not_forall.mp hkey
        exact .inr ⟨[], key, value, ⟨line, lines, rfl, Classical.not_not.mp hvalue⟩,
          List.forall_mem_nil _⟩

theorem FirstRefused.append (h : FirstRefused lines front key value) (back : List (List Char)) :
    FirstRefused (lines ++ back) front key value := by
  obtain ⟨line, rest, rfl, hrefused⟩ := h.split
  exact ⟨⟨line, rest ++ back, by simp, hrefused⟩, h.accepted⟩

theorem FirstRefused.behind (h : FirstRefused lines front key value)
    (hbefore : ∀ line ∈ middle, Accepted line) :
    FirstRefused (middle ++ lines) (middle ++ front) key value := by
  obtain ⟨line, rest, rfl, hrefused⟩ := h.split
  exact ⟨⟨line, rest, by simp, hrefused⟩, List.forall_mem_append.mpr ⟨hbefore, h.accepted⟩⟩

theorem FirstRefused.length_lt (h : FirstRefused lines front key value) :
    front.length < lines.length := by
  obtain ⟨line, rest, rfl, -⟩ := h.split
  rw [List.length_append, List.length_cons]
  omega

theorem parse_of_accepted (h : ∀ line ∈ Text.lines text.toList, Accepted line) :
    parse text = .ok (default.afterLines (Text.lines text.toList)) := by
  have hread := ofLines_append h default 0 []
  rw [List.append_nil] at hread
  rw [parse_eq, hread]
  rfl

theorem parse_of_first_refused (h : FirstRefused (Text.lines text.toList) front key value) :
    parse text = .error (.invalidValue (front.length + 1) key value) := by
  obtain ⟨line, back, hlines, hrefused⟩ := h.split
  rw [parse_eq, hlines, ofLines_append h.accepted, ofLines_refused hrefused, Nat.zero_add]

theorem parse_eq_error_iff {error : ConfigError} :
    parse text = .error error ↔ ∃ front key value,
      FirstRefused (Text.lines text.toList) front key value ∧
        error = .invalidValue (front.length + 1) key value := by
  constructor
  · intro h
    rcases accepted_or_first_refused (Text.lines text.toList) with haccepted | ⟨front, key, value, hfirst⟩
    · exact absurd ((parse_of_accepted haccepted).symm.trans h) nofun
    · exact ⟨front, key, value, hfirst, Except.error.inj (h.symm.trans (parse_of_first_refused hfirst))⟩
  · rintro ⟨front, key, value, hfirst, rfl⟩
    exact parse_of_first_refused hfirst

theorem parse_eq_ok_iff :
    parse text = .ok config ↔ (∀ line ∈ Text.lines text.toList, Accepted line) ∧
      config = default.afterLines (Text.lines text.toList) := by
  constructor
  · intro h
    rcases accepted_or_first_refused (Text.lines text.toList) with haccepted | ⟨front, key, value, hfirst⟩
    · exact ⟨haccepted, Except.ok.inj (h.symm.trans (parse_of_accepted haccepted))⟩
    · exact absurd ((parse_of_first_refused hfirst).symm.trans h) nofun
  · rintro ⟨haccepted, rfl⟩
    exact parse_of_accepted haccepted

theorem parse_eq_ok_iff_gives :
    parse text = .ok config ↔ (∀ line ∈ Text.lines text.toList, Accepted line) ∧
      ∀ key, Gives (Text.lines text.toList) key (config.get key) := by
  rw [parse_eq_ok_iff]
  refine and_congr_right fun haccepted => ⟨?_, ?_⟩
  · rintro rfl
    exact gives_afterLines haccepted
  · intro hgives
    exact ext_get fun key => ((hgives key).get_eq).symm

/-! ## Other texts -/

variable {changed extra : List (List Char)} {otherText : String}

/-- Lines that do not assign a key can be replaced by others without changing its setting. -/
theorem get_eq_of_replaced (hlines : Text.lines text.toList = front ++ middle ++ back)
    (hother : Text.lines otherText.toList = front ++ changed ++ back)
    (hmiddle : Unassigned middle key) (hchanged : Unassigned changed key)
    (h : parse text = .ok config) (hagain : parse otherText = .ok other) :
    config.get key = other.get key := by
  rw [(parse_eq_ok_iff.mp h).2, (parse_eq_ok_iff.mp hagain).2, hlines, hother]
  simp only [afterLines_append]
  apply get_afterLines_congr
  rw [get_afterLines_of_unassigned hmiddle, get_afterLines_of_unassigned hchanged]

theorem parse_ok_of_inserted (hlines : Text.lines text.toList = front ++ back)
    (hother : Text.lines otherText.toList = front ++ extra ++ back)
    (hextra : ∀ line ∈ extra, Idle line) (h : parse text = .ok config) :
    parse otherText = .ok config := by
  obtain ⟨haccepted, rfl⟩ := parse_eq_ok_iff.mp h
  rw [hlines] at haccepted
  obtain ⟨hfront, hback⟩ := List.forall_mem_append.mp haccepted
  have hidle : ∀ line ∈ extra, Accepted line := fun line hline => (hextra line hline).accepted
  refine parse_eq_ok_iff.mpr ⟨?_, ?_⟩
  · rw [hother]
    exact List.forall_mem_append.mpr ⟨List.forall_mem_append.mpr ⟨hfront, hidle⟩, hback⟩
  · simp only [hlines, hother, afterLines_append, afterLines_idle hextra]

/-- The first refused line of two parts is in the first part, or in the second one if the first one
is accepted. -/
theorem FirstRefused.of_append {early : List (List Char)}
    (h : FirstRefused (front ++ back) early key value) :
    FirstRefused front early key value ∨ ∃ later, early = front ++ later ∧
      (∀ line ∈ front, Accepted line) ∧ FirstRefused back later key value := by
  obtain ⟨line, rest, hsplit, hrefused⟩ := h.split
  rcases List.append_eq_append_iff.mp hsplit with ⟨later, rfl, hback⟩ | ⟨later, hfront, hback⟩
  · obtain ⟨hfront, hlater⟩ := List.forall_mem_append.mp h.accepted
    exact .inr ⟨later, rfl, hfront, ⟨line, rest, hback, hrefused⟩, hlater⟩
  · cases later with
    | nil =>
        rw [List.append_nil] at hfront
        rw [List.nil_append] at hback
        exact .inr ⟨[], by rw [hfront, List.append_nil], hfront ▸ h.accepted,
          ⟨line, rest, hback.symm, hrefused⟩, List.forall_mem_nil _⟩
    | cons first later =>
        obtain ⟨rfl, rfl⟩ := List.cons.inj hback
        exact .inl ⟨⟨line, later, hfront, hrefused⟩, h.accepted⟩

theorem parse_error_of_inserted {number : Nat}
    (hlines : Text.lines text.toList = front ++ back)
    (hother : Text.lines otherText.toList = front ++ extra ++ back)
    (hextra : ∀ line ∈ extra, Idle line)
    (h : parse text = .error (.invalidValue number key value)) :
    parse otherText = .error (.invalidValue
      (if number ≤ front.length then number else number + extra.length) key value) := by
  obtain ⟨early, _, _, hfirst, herror⟩ := parse_eq_error_iff.mp h
  obtain ⟨rfl, rfl, rfl⟩ := ConfigError.invalidValue.inj herror
  rw [hlines] at hfirst
  rcases hfirst.of_append with hfirst | ⟨later, rfl, hfront, hfirst⟩
  · rw [if_pos (Nat.succ_le_of_lt hfirst.length_lt)]
    exact parse_of_first_refused (hother ▸ (hfirst.append extra).append back)
  · have hidle : ∀ line ∈ extra, Accepted line := fun line hline => (hextra line hline).accepted
    have hbehind : ¬ (front ++ later).length + 1 ≤ front.length := by
      rw [List.length_append]
      omega
    have hnumber : (front ++ later).length + 1 + extra.length =
        (front ++ extra ++ later).length + 1 := by
      simp only [List.length_append]
      omega
    rw [if_neg hbehind, hnumber]
    exact parse_of_first_refused
      (hother ▸ hfirst.behind (List.forall_mem_append.mpr ⟨hfront, hidle⟩))

/-- Two lines that do not assign one key both. -/
def Apart (line next : List Char) : Prop :=
  ∀ key value later, Assigns line key value → ¬ Assigns next key later

theorem Apart.symm {next : List Char} (h : Apart line next) : Apart next line :=
  fun key value later hnext hline => h key later value hline hnext

theorem Gives.perm {value : key.kind.Value} {reordered : List (List Char)} (h : Gives lines key value)
    (hperm : reordered.Perm lines) (hapart : lines.Pairwise Apart) : Gives reordered key value := by
  cases h with
  | @last _ _ line _ _ hlines hassigns hvalue _ =>
      have hline : line ∈ reordered :=
        hperm.mem_iff.mpr (hlines ▸ List.mem_append_right _ List.mem_cons_self)
      obtain ⟨front, back, hsplit⟩ := List.append_of_mem hline
      have hpairs : reordered.Pairwise Apart := hapart.perm hperm.symm Apart.symm
      rw [hsplit] at hpairs
      have hback := (List.pairwise_cons.mp (List.pairwise_append.mp hpairs).2.1).1
      exact .last hsplit hassigns hvalue fun next hnext later =>
        hback next hnext key _ later hassigns
  | byDefault h => exact .byDefault fun line hline => h line (hperm.mem_iff.mp hline)

theorem parse_of_reordered
    (hperm : (Text.lines otherText.toList).Perm (Text.lines text.toList))
    (hapart : (Text.lines text.toList).Pairwise Apart) (h : parse text = .ok config) :
    parse otherText = .ok config := by
  obtain ⟨haccepted, hgives⟩ := parse_eq_ok_iff_gives.mp h
  refine parse_eq_ok_iff_gives.mpr ⟨?_, ?_⟩
  · exact fun line hline => haccepted line (hperm.mem_iff.mp hline)
  · exact fun key => (hgives key).perm hperm hapart

/-- A text is refused for its first line with a text that the line's key refuses. Otherwise each
setting is what the last line of its key says, or the default without such a line. -/
theorem last_lines_decide (text : String) :
    (∀ error, parse text = .error error ↔
      ∃ front line back key value, Text.lines text.toList = front ++ line :: back ∧
        (Assigns line key value ∧ key.kind.parse? value = none) ∧
        (∀ earlier ∈ front, ∀ key value, Assigns earlier key value →
          (key.kind.parse? value).isSome) ∧
        error = .invalidValue (front.length + 1) key value) ∧
      ((∃ error, parse text = .error error) ↔
        ∃ line ∈ Text.lines text.toList, ∃ key value,
          Assigns line key value ∧ key.kind.parse? value = none) ∧
      (∀ config, parse text = .ok config ↔
        (∀ line ∈ Text.lines text.toList, ∀ key value, Assigns line key value →
          (key.kind.parse? value).isSome) ∧
        ∀ key, Gives (Text.lines text.toList) key (config.get key)) ∧
      (∀ key front middle changed back otherText config other,
        Text.lines text.toList = front ++ middle ++ back →
        Text.lines otherText.toList = front ++ changed ++ back →
        Unassigned middle key → Unassigned changed key →
        parse text = .ok config → parse otherText = .ok other → config.get key = other.get key) ∧
      (∀ front extra back otherText, Text.lines text.toList = front ++ back →
        Text.lines otherText.toList = front ++ extra ++ back → (∀ line ∈ extra, Idle line) →
        (∀ config, parse text = .ok config → parse otherText = .ok config) ∧
        ∀ number key value, parse text = .error (.invalidValue number key value) →
          parse otherText = .error (.invalidValue
            (if number ≤ front.length then number else number + extra.length) key value)) ∧
      ∀ otherText config, (Text.lines otherText.toList).Perm (Text.lines text.toList) →
        (Text.lines text.toList).Pairwise Apart → parse text = .ok config →
        parse otherText = .ok config := by
  have hsome : ∀ line, Accepted line ↔
      ∀ key value, Assigns line key value → (key.kind.parse? value).isSome := by
    intro line
    simp only [Accepted, Refused, not_and, Option.isSome_iff_ne_none, ne_eq]
  refine ⟨?_, ?_, ?_, ?_, ?_, ?_⟩
  · intro error
    rw [parse_eq_error_iff]
    constructor
    · rintro ⟨front, key, value, ⟨⟨line, back, hlines, hrefused⟩, hfront⟩, rfl⟩
      exact ⟨front, line, back, key, value, hlines, hrefused,
        fun earlier hearlier => (hsome earlier).mp (hfront earlier hearlier), rfl⟩
    · rintro ⟨front, line, back, key, value, hlines, hrefused, hfront, rfl⟩
      exact ⟨front, key, value, ⟨⟨line, back, hlines, hrefused⟩,
        fun earlier hearlier => (hsome earlier).mpr (hfront earlier hearlier)⟩, rfl⟩
  · constructor
    · rintro ⟨error, herror⟩
      obtain ⟨front, key, value, ⟨⟨line, back, hlines, hrefused⟩, -⟩, -⟩ :=
        parse_eq_error_iff.mp herror
      exact ⟨line, hlines ▸ List.mem_append_right front List.mem_cons_self, key, value, hrefused⟩
    · rintro ⟨line, hline, key, value, hrefused⟩
      rcases accepted_or_first_refused (Text.lines text.toList) with haccepted | ⟨_, _, _, hfirst⟩
      · exact absurd hrefused (haccepted line hline key value)
      · exact ⟨_, parse_of_first_refused hfirst⟩
  · intro config
    simp only [parse_eq_ok_iff_gives, hsome]
  · intro key front middle changed back otherText config other
    exact get_eq_of_replaced
  · intro front extra back otherText hlines hother hextra
    exact ⟨fun _ => parse_ok_of_inserted hlines hother hextra,
      fun _ _ _ => parse_error_of_inserted hlines hother hextra⟩
  · intro otherText config
    exact parse_of_reordered

-- of a repeated key the last line counts
example : parse "boot_file_size=4\n boot_file_size = 5 \ncolor=red" = .ok { bootFileSize := 5 } := by
  cbv

-- the first value that is refused ends the reading, whatever its key is assigned later
example : parse "boot_file_size=4\n# none\nboot_file_size=five\nboot_file_size=6" =
    .error (.invalidValue 3 .bootFileSize "five") := by
  cbv

end Config

end BootServer
