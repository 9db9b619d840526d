import BootServer.Text.Column
import BootServer.Text.Split

/-!
# Octets in hexadecimal

Octets are written as pairs of hexadecimal digits with colons between them. They can be read back,
however many there are, since no digit is a colon and the empty text is no pair.
-/

namespace BootServer.Text

/-- The octet of two hexadecimal digits. -/
def hexOctet? : List Char → Option UInt8
  | [high, low] =>
    (hexDigit? high).bind fun h => (hexDigit? low).map fun l => UInt8.ofNat (16 * h + l)
  | _ => none

theorem hexDigit?_digitChar {n : Nat} (h : n < 16) : hexDigit? n.digitChar = some n := by
  have hall : ∀ n < 16, hexDigit? n.digitChar = some n := by decide
  exact hall n h

theorem toList_hexOctet (octet : UInt8) :
    (hexOctet octet).toList = [(octet.toNat / 16).digitChar, (octet.toNat % 16).digitChar] :=
  String.toList_ofList

theorem hexOctet?_hexOctet (octet : UInt8) : hexOctet? (hexOctet octet).toList = some octet := by
  have hlt := octet.toNat_lt
  have hvalue : 16 * (octet.toNat / 16) + octet.toNat % 16 = octet.toNat := Nat.div_add_mod _ _
  rw [toList_hexOctet, hexOctet?, hexDigit?_digitChar (by omega), hexDigit?_digitChar (by omega),
    Option.bind_some, Option.map_some, hvalue, UInt8.ofNat_toNat]

theorem colon_not_mem_hexOctet (octet : UInt8) : ':' ∉ (hexOctet octet).toList := by
  have hlt := octet.toNat_lt
  have hdigit : ∀ n < 16, ':' ≠ Nat.digitChar n := by decide
  rw [toList_hexOctet]
  exact List.not_mem_cons_of_ne_of_not_mem (hdigit _ (by omega))
    (List.not_mem_cons_of_ne_of_not_mem (hdigit _ (by omega)) List.not_mem_nil)

theorem toList_intercalate (separator : String) (pieces : List String) :
    (String.intercalate separator pieces).toList =
      join separator.toList (pieces.map String.toList) := by
  induction pieces with
  | nil => rfl
  | cons piece pieces ih =>
      cases pieces with
      | nil => simp [join]
      | cons next pieces =>
          rw [String.intercalate_cons_cons, String.toList_append, String.toList_append, ih]
          rfl

/-- The octets whose hexadecimal digits stand between colons. -/
def hexOctets (text : String) : List UInt8 :=
  (split (· == ':') text.toList).filterMap hexOctet?

theorem hexOctets_intercalate (octets : List UInt8) :
    hexOctets (String.intercalate ":" (octets.map hexOctet)) = octets := by
  have hpieces : (octets.map hexOctet).map String.toList =
      octets.map fun octet => (hexOctet octet).toList := List.map_map
  rw [hexOctets, toList_intercalate, hpieces]
  by_cases hempty : octets = []
  · -- the empty text has one piece, which is no octet
    rw [hempty]
    rfl
  · have hsplit : split (· == ':') (join ":".toList (octets.map fun octet =>
        (hexOctet octet).toList)) = octets.map fun octet => (hexOctet octet).toList := by
      apply split_join (mt List.map_eq_nil_iff.mp hempty)
      intro piece hpiece
      obtain ⟨octet, -, rfl⟩ := List.mem_map.mp hpiece
      exact colon_not_mem_hexOctet octet
    rw [hsplit, List.filterMap_map]
    have hread : hexOctet? ∘ (fun octet => (hexOctet octet).toList) = some :=
      funext hexOctet?_hexOctet
    rw [hread, List.filterMap_some]

end BootServer.Text
