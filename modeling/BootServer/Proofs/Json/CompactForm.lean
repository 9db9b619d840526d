import BootServer.Proofs.Json.RoundTrip

/-!
# Compact JSON read back

The compact form of a value without arrays is read back, whatever follows it. So the compact text of
such a value has no other reading, and different values have different texts.
-/

namespace BootServer.Json

/-- The members of an object as they are read: every name has its text. -/
def lifted (list : List (String × Json)) : List (Option String × Json) :=
  list.map fun member => (some member.1, member.2)

theorem ofMembers_eq (list : List (String × Json)) : ofMembers list = .object (lifted list) := rfl

namespace Parser

variable {json : Json} {list : List (String × Json)} {fuel : Nat}

/-- A value is read back from its compact form with as many levels of nesting as it has characters,
whatever follows it. -/
def ReadBack (json : Json) : Prop :=
  ∀ fuel rest, (print json).length < fuel → Delimited rest →
    value fuel (print json ++ rest) = some (json, rest)

theorem readBack_null : ReadBack .null := by
  intro fuel rest hfuel _
  obtain ⟨fuel, rfl⟩ := Nat.exists_eq_add_one.mpr (Nat.zero_lt_of_lt hfuel)
  rfl

theorem readBack_of_scalar (h : Scalar json) : ReadBack json := by
  intro fuel rest hfuel hrest
  obtain ⟨fuel, rfl⟩ := Nat.exists_eq_add_one.mpr (Nat.zero_lt_of_lt hfuel)
  exact value_print h hrest

theorem delimited_comma (rest : List Char) : Delimited (',' :: rest) := by
  rintro _ ⟨⟩
  decide

theorem delimited_brace (rest : List Char) : Delimited ('}' :: rest) := by
  rintro _ ⟨⟩
  decide

/-! ## Members -/

/-- A member in compact form is its name in quotes, a colon and its value. -/
def printMember (member : String × Json) : List Char :=
  '"' :: (member.1.toList.flatMap escape ++ '"' :: ':' :: print member.2)

theorem printMembers_singleton (member : String × Json) :
    printMembers (lifted [member]) = printMember member := by
  simp [lifted, printMembers, printMember, printText]

theorem printMembers_cons (member next : String × Json) (list : List (String × Json)) :
    printMembers (lifted (member :: next :: list)) =
      printMember member ++ ',' :: printMembers (lifted (next :: list)) := by
  simp [lifted, printMembers, printMember, printText]

theorem length_print_lt (member : String × Json) :
    (print member.2).length < (printMember member).length := by
  simp only [printMember, List.length_cons, List.length_append]
  omega

/-- A member is read, and the reading goes on after its value. -/
theorem members_printMember {member : String × Json} {rest : List Char} (hread : ReadBack member.2)
    (hfuel : (print member.2).length < fuel) (hrest : Delimited rest) :
    members (fuel + 1) (printMember member ++ rest) =
      afterMember fuel (some member.1, member.2) rest := by
  have hquote : skipSpace (printMember member ++ rest) = '"' ::
      (member.1.toList.flatMap escape ++ '"' :: ':' :: (print member.2 ++ rest)) := by
    rw [printMember, List.cons_append, skipSpace_cons_of_not (by decide), List.append_assoc,
      List.cons_append, List.cons_append]
  exact members_quote hquote (string_flatMap_escape member.1 _) (hread fuel rest hfuel hrest)

theorem members_print (hne : list ≠ []) (hlist : ∀ member ∈ list, ReadBack member.2)
    (hfuel : (printMembers (lifted list)).length < fuel) (rest : List Char) :
    members fuel (printMembers (lifted list) ++ '}' :: rest) = some (lifted list, rest) := by
  induction list generalizing fuel with
  | nil => exact absurd rfl hne
  | cons member list ih =>
      obtain ⟨hmember, hmore⟩ := List.forall_mem_cons.mp hlist
      have hlength := length_print_lt member
      obtain ⟨fuel, rfl⟩ := Nat.exists_eq_add_one.mpr (Nat.zero_lt_of_lt hfuel)
      cases list with
      | nil =>
          rw [printMembers_singleton] at hfuel ⊢
          rw [members_printMember hmember (by omega) (delimited_brace rest)]
          rfl
      | cons next list =>
          rw [printMembers_cons, List.length_append, List.length_cons] at hfuel
          have hnext : members fuel (printMembers (lifted (next :: list)) ++ '}' :: rest) = _ :=
            ih (List.cons_ne_nil _ _) hmore (by omega)
          rw [printMembers_cons, List.append_assoc, List.cons_append,
            members_printMember hmember (by omega) (delimited_comma _), afterMember_comma, hnext]
          rfl

theorem exists_quote_printMembers (member : String × Json) (list : List (String × Json)) :
    ∃ tail, printMembers (lifted (member :: list)) = '"' :: tail := by
  cases list with
  | nil => exact ⟨_, printMembers_singleton member⟩
  | cons next list => exact ⟨_, printMembers_cons member next list⟩

theorem print_ofMembers_append (list : List (String × Json)) (rest : List Char) :
    print (ofMembers list) ++ rest = '{' :: (printMembers (lifted list) ++ '}' :: rest) := by
  rw [ofMembers_eq, print, List.cons_append, List.cons_append, List.append_assoc,
    List.singleton_append]

/-- An object is read back when the values of its members are. -/
theorem readBack_ofMembers (hlist : ∀ member ∈ list, ReadBack member.2) :
    ReadBack (ofMembers list) := by
  intro fuel rest hfuel _
  obtain ⟨fuel, rfl⟩ := Nat.exists_eq_add_one.mpr (Nat.zero_lt_of_lt hfuel)
  rw [← List.append_nil (print _), print_ofMembers_append, List.length_cons,
    List.length_append] at hfuel
  rw [print_ofMembers_append]
  cases list with
  | nil => rfl
  | cons member list =>
      obtain ⟨tail, htail⟩ := exists_quote_printMembers member list
      have hquote : skipSpace (printMembers (lifted (member :: list)) ++ '}' :: rest) =
          '"' :: (tail ++ '}' :: rest) := by
        rw [htail, List.cons_append, skipSpace_cons_of_not (by decide)]
      rw [value_brace hquote, members_print (List.cons_ne_nil _ _) hlist (by omega) rest]
      rfl

end Parser

variable {json other : Json}

theorem parse?_compact (h : Parser.ReadBack json) : parse? json.compact = some json := by
  have hread := h ((print json).length + 1) [] (Nat.lt_succ_self _) (fun _ hc => nomatch hc)
  rw [List.append_nil] at hread
  unfold parse?
  dsimp only
  rw [compact, String.toList_ofList, hread]
  rfl

theorem eq_of_compact_eq (h : Parser.ReadBack json) (hother : Parser.ReadBack other)
    (hcompact : json.compact = other.compact) : json = other := by
  have hread := parse?_compact h
  rw [hcompact, parse?_compact hother] at hread
  exact (Option.some.inj hread).symm

end BootServer.Json
