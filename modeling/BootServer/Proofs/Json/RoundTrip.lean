import BootServer.Json.Parser
import BootServer.Json.Printer
import BootServer.Proofs.Text.Numerals

/-!
# JSON written and read back

A string is read back from its escaped form, and a number without sign, fraction and exponent from
its digits. An object of such values, a member on each line, is read back with its members in order.
-/

namespace BootServer.Json

namespace Parser

variable {c : Char} {cs rest : List Char} {n fuel : Nat}

/-! ## Blanks -/

theorem skipSpace_cons_of_not (h : isSpace c = false) (rest : List Char) :
    skipSpace (c :: rest) = c :: rest := by
  rw [skipSpace, List.dropWhile_cons, h]
  rfl

theorem skipSpace_cons (h : isSpace c = true) (rest : List Char) :
    skipSpace (c :: rest) = skipSpace rest := by
  rw [skipSpace, List.dropWhile_cons, h]
  rfl

theorem skipSpace_skipSpace (cs : List Char) : skipSpace (skipSpace cs) = skipSpace cs := by
  induction cs with
  | nil => rfl
  | cons c cs ih =>
      cases h : isSpace c with
      | true => rw [skipSpace_cons h, ih]
      | false => rw [skipSpace_cons_of_not h, skipSpace_cons_of_not h]

theorem members_skipSpace (fuel : Nat) (cs : List Char) :
    members fuel (skipSpace cs) = members fuel cs := by
  cases fuel with
  | zero => rfl
  | succ fuel => rw [members, members, skipSpace_skipSpace]

/-! ## Strings -/

/-- The three forms of a character in a string. -/
inductive Escaped (c : Char) : List Char → Prop where
  | letter {e : Char} (hletter : escaped? e = some c) (hnumeric : e ≠ 'u') : Escaped c ['\\', e]
  | numeric (hcontrol : c.toNat < 0x20) :
    Escaped c ['\\', 'u', '0', '0', Nat.digitChar (c.toNat / 16), Nat.digitChar (c.toNat % 16)]
  | plain (hquote : c ≠ '"') (hslash : c ≠ '\\') (hcontrol : ¬ c.toNat < 0x20) : Escaped c [c]

theorem escaped_escape (c : Char) : Escaped c (escape c) := by
  unfold escape
  split
  case h_8 hquote hslash _ _ _ _ _ =>
    split
    next hcontrol => exact .numeric hcontrol
    next hcontrol => exact .plain hquote hslash hcontrol
  all_goals exact .letter rfl (by decide)

theorem unit?_control (h : n < 0x20) :
    unit? '0' '0' (Nat.digitChar (n / 16)) (Nat.digitChar (n % 16)) = some n := by
  revert n
  decide

theorem pieces_letter {e : Char} (hletter : escaped? e = some c) (hnumeric : e ≠ 'u')
    (rest : List Char) :
    pieces ('\\' :: e :: rest) = (pieces rest).map fun read => (.char c :: read.1, read.2) := by
  rw [pieces.eq_4 e rest (fun _ _ _ _ _ hu _ => hnumeric hu), hletter]
  cases pieces rest <;> rfl

theorem pieces_numeric (hcontrol : n < 0x20) (rest : List Char) :
    pieces ('\\' :: 'u' :: '0' :: '0' :: Nat.digitChar (n / 16) :: Nat.digitChar (n % 16) :: rest) =
      (pieces rest).map fun read => (.unit n :: read.1, read.2) := by
  rw [pieces, unit?_control hcontrol]
  cases pieces rest <;> rfl

theorem pieces_plain (hquote : c ≠ '"') (hslash : c ≠ '\\') (hcontrol : ¬ c.toNat < 0x20)
    (rest : List Char) :
    pieces (c :: rest) = (pieces rest).map fun read => (.char c :: read.1, read.2) := by
  rw [pieces.eq_5 c rest hquote (fun _ _ _ _ _ h _ => hslash h) (fun _ _ h _ => hslash h),
    decide_eq_false hcontrol, decide_eq_false hslash]
  cases pieces rest <;> rfl

theorem assemble_unit (h : n < 0xD800) (ps : List Piece) :
    assemble (.unit n :: ps) = (assemble ps).map (Char.ofNat n :: ·) := by
  have hhigh : ¬ (0xD800 ≤ n ∧ n < 0xDC00) := by omega
  have hlow : ¬ (0xDC00 ≤ n ∧ n < 0xE000) := by omega
  have hpair : ¬ (0xD800 ≤ n ∧ n < 0xE000) := by omega
  cases ps with
  | nil => exact if_neg hpair
  | cons p ps =>
      cases p with
      | char c => exact if_neg hpair
      | unit m => rw [assemble, if_neg hhigh, if_neg hlow]

/-- What a character is read as, and what becomes of it. -/
theorem exists_piece (c : Char) :
    ∃ p, (∀ rest, pieces (escape c ++ rest) =
        (pieces rest).map fun read => (p :: read.1, read.2)) ∧
      ∀ ps, assemble (p :: ps) = (assemble ps).map (c :: ·) := by
  have hform := escaped_escape c
  generalize escape c = form at hform
  cases hform with
  | letter hletter hnumeric =>
      exact ⟨.char c, pieces_letter hletter hnumeric, fun ps => by rw [assemble]⟩
  | numeric hcontrol =>
      refine ⟨.unit c.toNat, pieces_numeric hcontrol, fun ps => ?_⟩
      rw [assemble_unit (Nat.lt_trans hcontrol (by decide)), Char.ofNat_toNat]
  | plain hquote hslash hcontrol =>
      exact ⟨.char c, pieces_plain hquote hslash hcontrol, fun ps => by rw [assemble]⟩

theorem exists_pieces (cs rest : List Char) :
    ∃ ps, pieces (cs.flatMap escape ++ '"' :: rest) = some (ps, rest) ∧ assemble ps = some cs := by
  induction cs with
  | nil => exact ⟨[], rfl, rfl⟩
  | cons c cs ih =>
      obtain ⟨ps, hpieces, hassemble⟩ := ih
      obtain ⟨p, hp, hc⟩ := exists_piece c
      refine ⟨p :: ps, ?_, ?_⟩
      · rw [List.flatMap_cons, List.append_assoc, hp, hpieces, Option.map_some]
      · rw [hc, hassemble, Option.map_some]

theorem string_flatMap_escape (text : String) (rest : List Char) :
    string (text.toList.flatMap escape ++ '"' :: rest) = some (some text, rest) := by
  obtain ⟨ps, hpieces, hassemble⟩ := exists_pieces text.toList rest
  rw [string, hpieces]
  dsimp only [Option.bind_eq_bind, Option.bind_some]
  rw [hassemble, Option.map_some, String.ofList_toList]
  rfl

/-! ## Numbers -/

/-- No digit, point or exponent goes on after a number. -/
def Delimited (rest : List Char) : Prop :=
  ∀ c ∈ rest.head?, Text.isDigit c = false ∧ c ≠ '.' ∧ c ≠ 'e' ∧ c ≠ 'E'

theorem digitRun_digits (h : Delimited rest) :
    digitRun (Text.digits n ++ rest) = (Text.digits n, rest) := by
  have hdigits : ∀ c ∈ Text.digits n, Text.isDigit c = true := fun _ => Text.isDigit_of_mem_digits
  have hstop : rest.takeWhile Text.isDigit = [] ∧ rest.dropWhile Text.isDigit = rest := by
    cases rest with
    | nil => exact ⟨rfl, rfl⟩
    | cons c rest =>
        have hc := (h c rfl).1
        rw [List.takeWhile_cons, List.dropWhile_cons, hc]
        exact ⟨rfl, rfl⟩
  rw [digitRun, List.takeWhile_append_of_pos hdigits, List.dropWhile_append_of_pos hdigits,
    hstop.1, hstop.2, List.append_nil]

theorem fraction_of_delimited (h : Delimited rest) : fraction rest = some (none, rest) := by
  cases rest with
  | nil => rfl
  | cons c rest =>
      unfold fraction
      split
      next hc => exact absurd (List.cons.inj hc).1 (h c rfl).2.1
      next => rfl

theorem exponent_of_delimited (h : Delimited rest) : exponent rest = some (none, rest) := by
  cases rest with
  | nil => rfl
  | cons c rest =>
      obtain ⟨-, -, he, hE⟩ := h c rfl
      exact if_neg (not_or.mpr ⟨he, hE⟩)

theorem exists_digit_cons (n : Nat) :
    ∃ d ds, Text.digits n = d :: ds ∧ Text.isDigit d = true := by
  obtain ⟨d, ds, hd⟩ := List.exists_cons_of_ne_nil (Text.digits_ne_nil n)
  exact ⟨d, ds, hd, Text.isDigit_of_mem_digits (hd ▸ List.mem_cons_self)⟩

theorem numeral_digits (h : Delimited rest) :
    numeral (Text.digits n ++ rest) = some (.ofNat n, rest) := by
  have hwhole : ((Text.digits n).isEmpty ||
      ((Text.digits n).head? == some '0' && decide (1 < (Text.digits n).length))) = false := by
    rw [List.isEmpty_eq_false_iff.mpr (Text.digits_ne_nil n), Bool.false_or]
    cases hzero : (Text.digits n).head? == some '0' with
    | false => rfl
    | true =>
        rw [Text.digits_eq_of_head? (beq_iff_eq.mp hzero)]
        rfl
  have hunsigned : unsigned false (Text.digits n ++ rest) = some (.ofNat n, rest) := by
    rw [unsigned, digitRun_digits h]
    dsimp only
    rw [hwhole, fraction_of_delimited h]
    dsimp only [Option.bind_eq_bind, Option.bind_some]
    rw [exponent_of_delimited h]
    rfl
  unfold numeral
  split
  next minus hminus =>
    obtain ⟨d, ds, hd, hdigit⟩ := exists_digit_cons n
    rw [hd] at hminus
    exact absurd ((List.cons.inj hminus).1 ▸ hdigit) (by decide)
  next => exact hunsigned

/-! ## Values and members -/

/-- Truth values, natural numbers and texts. -/
inductive Scalar : Json → Prop where
  | bool (value : Bool) : Scalar (.bool value)
  | natural (n : Nat) : Scalar (.ofNat n)
  | text (text : String) : Scalar (.ofText text)

theorem isSpace_of_isDigit (h : Text.isDigit c = true) : isSpace c = false := by
  have hne : ∀ blank, Text.isDigit blank = false → c ≠ blank := by
    rintro blank hblank rfl
    exact absurd h (ne_true_of_eq_false hblank)
  simp only [isSpace, Bool.or_eq_false_iff, beq_eq_false_iff_ne]
  exact ⟨⟨⟨hne ' ' (by decide), hne '\n' (by decide)⟩, hne '\t' (by decide)⟩, hne '\r' (by decide)⟩

theorem value_digits (h : Delimited rest) :
    value (fuel + 1) (Text.digits n ++ rest) = some (.ofNat n, rest) := by
  have hnumeral := numeral_digits (n := n) h
  obtain ⟨d, ds, hd, hdigit⟩ := exists_digit_cons n
  have hother : ∀ mark tail, Text.isDigit mark = false → d :: (ds ++ rest) ≠ mark :: tail := by
    intro mark tail hmark heq
    obtain ⟨rfl, -⟩ := List.cons.inj heq
    exact absurd hdigit (ne_true_of_eq_false hmark)
  rw [hd, List.cons_append] at hnumeral ⊢
  rw [value, skipSpace_cons_of_not (isSpace_of_isDigit hdigit)]
  split
  -- the first characters of the other kinds of values
  next heq => exact absurd heq (hother 'n' _ (by decide))
  next heq => exact absurd heq (hother 't' _ (by decide))
  next heq => exact absurd heq (hother 'f' _ (by decide))
  next heq => exact absurd heq (hother '"' _ (by decide))
  next heq => exact absurd heq (hother '[' _ (by decide))
  next heq => exact absurd heq (hother '{' _ (by decide))
  next =>
    rw [hnumeral]
    rfl

theorem print_ofNat (n : Nat) : print (.ofNat n) = Text.digits n := by
  simp only [ofNat, print, printNumeral, Numeral.ofNat]
  exact (List.append_nil _).trans (List.append_nil _)

theorem value_quote (cs : List Char) :
    value (fuel + 1) ('"' :: cs) = (string cs).map fun read => (.string read.1, read.2) := by
  rw [value, skipSpace_cons_of_not (by decide)]
  cases hstring : string cs with
  | none =>
      simp only [hstring]
      rfl
  | some read =>
      simp only [hstring]
      rfl

theorem value_text (text : String) (rest : List Char) :
    value (fuel + 1) (print (.ofText text) ++ rest) = some (.ofText text, rest) := by
  rw [ofText, print, Option.getD_some, printText, List.cons_append, List.cons_append,
    List.append_assoc, List.singleton_append, value_quote, string_flatMap_escape, Option.map_some]

theorem value_print {json : Json} (hjson : Scalar json) (h : Delimited rest) :
    value (fuel + 1) (print json ++ rest) = some (json, rest) := by
  cases hjson with
  | bool value =>
      cases value with
      | false => rfl
      | true => rfl
  | natural n =>
      rw [print_ofNat]
      exact value_digits h
  | text text => exact value_text text rest

theorem value_skipSpace (fuel : Nat) (cs : List Char) :
    value fuel (skipSpace cs) = value fuel cs := by
  cases fuel with
  | zero => rfl
  | succ fuel => rw [value, value, skipSpace_skipSpace]

/-- What follows the value of a member. -/
def afterMember (fuel : Nat) (member : Option String × Json) (cs : List Char) :
    Option (List (Option String × Json) × List Char) :=
  match skipSpace cs with
  | ',' :: rest => do
    let (vs, rest) ← members fuel rest
    return (member :: vs, rest)
  | '}' :: rest => return ([member], rest)
  | _ => none

theorem afterMember_comma (fuel : Nat) (member : Option String × Json) (rest : List Char) :
    afterMember fuel member (',' :: rest) =
      (members fuel rest).map fun read => (member :: read.1, read.2) := by
  change (do
    let (vs, rest) ← members fuel rest
    return (member :: vs, rest)) = _
  cases members fuel rest <;> rfl

theorem members_quote {name : Option String} {v : Json} {cs tail colon rest : List Char}
    (hquote : skipSpace cs = '"' :: tail) (hname : string tail = some (name, ':' :: colon))
    (hvalue : value fuel colon = some (v, rest)) :
    members (fuel + 1) cs = afterMember fuel (name, v) rest := by
  have hcolon : skipSpace (':' :: colon) = ':' :: colon := skipSpace_cons_of_not (by decide) colon
  rw [members, hquote]
  simp only [hname, hcolon, hvalue, Option.bind_eq_bind, Option.bind_some]
  rfl

theorem printLine_append (member : String × Json) (rest : List Char) :
    printLine member ++ rest = ' ' :: ' ' :: '"' ::
      (member.1.toList.flatMap escape ++ '"' :: ':' :: ' ' :: (print member.2 ++ rest)) := by
  simp only [printLine, printText, List.cons_append, List.append_assoc, List.nil_append]

/-- A member on a line of its own is read, and the reading goes on after its value. -/
theorem members_printLine {member : String × Json} (hmember : Scalar member.2)
    (h : Delimited rest) :
    members (fuel + 2) (printLine member ++ rest) =
      afterMember (fuel + 1) (some member.1, member.2) rest := by
  have hblank : isSpace ' ' = true := by decide
  have hvalue : value (fuel + 1) (' ' :: (print member.2 ++ rest)) = some (member.2, rest) := by
    rw [← value_skipSpace, skipSpace_cons hblank, value_skipSpace]
    exact value_print hmember h
  have hquote : skipSpace (printLine member ++ rest) = '"' :: (member.1.toList.flatMap escape ++
      '"' :: ':' :: ' ' :: (print member.2 ++ rest)) := by
    rw [printLine_append, skipSpace_cons hblank, skipSpace_cons hblank,
      skipSpace_cons_of_not (by decide)]
  exact members_quote hquote (string_flatMap_escape member.1 _) hvalue

theorem value_brace {cs tail : List Char} (h : skipSpace cs = '"' :: tail) :
    value (fuel + 1) ('{' :: cs) =
      (members fuel cs).map fun read => (.object read.1, read.2) := by
  rw [value, skipSpace_cons_of_not (by decide), ← members_skipSpace fuel cs]
  simp only [h]
  split
  next hclose => exact absurd (List.cons.inj hclose).1 (by decide)
  next => cases members fuel ('"' :: tail) <;> rfl

theorem members_layout {list : List (String × Json)} (hne : list ≠ [])
    (hlist : ∀ member ∈ list, Scalar member.2) (hfuel : list.length < fuel) :
    members fuel (Text.join [',', '\n'] (list.map printLine) ++ ['\n', '}']) =
      some (list.map fun member => (some member.1, member.2), []) := by
  have hfeed : isSpace '\n' = true := by decide
  induction list generalizing fuel with
  | nil => exact absurd rfl hne
  | cons member list ih =>
      obtain ⟨hmember, hrest⟩ := List.forall_mem_cons.mp hlist
      -- reading a member takes two levels of nesting, its own and that of its value
      obtain ⟨fuel, rfl⟩ : ∃ k, fuel = k + 2 := ⟨fuel - 2, by rw [List.length_cons] at hfuel; omega⟩
      cases list with
      | nil =>
          have hdelimited : Delimited ['\n', '}'] := by
            rintro _ ⟨⟩
            decide
          rw [List.map_cons, List.map_nil, Text.join, members_printLine hmember hdelimited]
          rfl
      | cons next list =>
          have hdelimited : ∀ rest, Delimited (',' :: rest) := by
            rintro rest _ ⟨⟩
            decide
          have hnext := ih (List.cons_ne_nil _ _) hrest (Nat.lt_of_succ_lt_succ hfuel)
          rw [List.map_cons, List.map_cons, Text.join, List.append_assoc, List.append_assoc,
            List.cons_append, members_printLine hmember (hdelimited _), afterMember_comma,
            List.singleton_append, ← members_skipSpace, skipSpace_cons hfeed, members_skipSpace,
            ← List.map_cons, hnext]
          rfl

theorem skipSpace_join_printLine {list : List (String × Json)} (hne : list ≠ [])
    (rest : List Char) :
    ∃ tail, skipSpace (Text.join [',', '\n'] (list.map printLine) ++ rest) = '"' :: tail := by
  have hblank : isSpace ' ' = true := by decide
  cases list with
  | nil => exact absurd rfl hne
  | cons member list =>
      obtain ⟨more, hmore⟩ := Text.prefix_join [',', '\n'] (printLine member) (list.map printLine)
      rw [List.map_cons, ← hmore, List.append_assoc, printLine_append, skipSpace_cons hblank,
        skipSpace_cons hblank, skipSpace_cons_of_not (by decide)]
      exact ⟨_, rfl⟩

end Parser

/-- An object is read back from its layout. -/
theorem parse?_layout {list : List (String × Json)} (hne : list ≠ [])
    (hlist : ∀ member ∈ list, Parser.Scalar member.2) :
    parse? (layout list) = some (ofMembers list) := by
  have hfeed : Parser.isSpace '\n' = true := by decide
  have htext : (layout list).toList = '{' :: '\n' ::
      (Text.join [',', '\n'] (list.map printLine) ++ ['\n', '}']) := by
    rw [layout, String.toList_ofList]
    rfl
  -- a level of nesting for each member is less than a character for each
  have hfuel : list.length < (layout list).toList.length := by
    have hlines : ∀ line ∈ list.map printLine, line ≠ [] := by
      intro line hline
      obtain ⟨member, -, rfl⟩ := List.mem_map.mp hline
      exact List.cons_ne_nil _ _
    have hlength : (list.map printLine).length ≤
        (Text.join [',', '\n'] (list.map printLine)).length :=
      Text.length_le_length_join hlines
    rw [List.length_map] at hlength
    rw [htext, List.length_cons, List.length_cons, List.length_append]
    omega
  have hread : Parser.value ((layout list).toList.length + 1) (layout list).toList =
      some (ofMembers list, []) := by
    have hmembers := Parser.members_layout hne hlist hfuel
    obtain ⟨tail, htail⟩ := Parser.skipSpace_join_printLine hne ['\n', '}']
    rw [← Parser.skipSpace_cons hfeed] at htail
    rw [← Parser.members_skipSpace, ← Parser.skipSpace_cons hfeed, Parser.members_skipSpace]
      at hmembers
    generalize (layout list).toList.length = fuel at hmembers
    rw [htext, Parser.value_brace htail, hmembers]
    rfl
  unfold parse?
  dsimp only
  rw [hread]
  rfl

/-- A number is read back within its bound. -/
theorem natural?_ofNat {bound n : Nat} (h : n ≤ bound) : (ofNat n).natural? bound = some n := by
  rw [ofNat, natural?, Numeral.natural?_ofNat, Option.filter_some, if_pos (decide_eq_true h)]

theorem namedMembers?_some (list : List (String × Json)) :
    namedMembers? (list.map fun member => (some member.1, member.2)) = some list := by
  induction list with
  | nil => rfl
  | cons member list ih =>
      unfold namedMembers? at ih ⊢
      rw [List.map_cons, List.mapM_cons, ih]
      rfl

end BootServer.Json
