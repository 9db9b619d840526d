import BootServer.Config.Json
import BootServer.Proofs.Config.TextForm
import BootServer.Proofs.Json.RoundTrip

/-!
# Configurations written as JSON and read back

Every configuration is read back from its JSON text: each member carries the value of its key in a
form that the key accepts, and no name occurs twice.
-/

namespace BootServer

namespace Kind

theorem scalar_toJson (kind : Kind) (value : kind.Value) :
    Json.Parser.Scalar (kind.toJson value) := by
  cases kind with
  | flag => exact .bool value
  | word16 => exact .natural (UInt16.toNat value)
  | word32 => exact .natural (UInt32.toNat value)
  | word64 => exact .natural (UInt64.toNat value)
  | text => exact .text value
  | address => exact .text (IPv4.toText value)

theorem ofJson?_toJson (kind : Kind) (value : kind.Value) :
    kind.ofJson? (kind.toJson value) = some value := by
  cases kind with
  | flag => rfl
  | word16 =>
      rw [toJson, ofJson?, Json.natural?_ofNat (Nat.le_sub_one_of_lt (UInt16.toNat_lt_size value)),
        Option.map_some, UInt16.ofNat_toNat]
  | word32 =>
      rw [toJson, ofJson?, Json.natural?_ofNat (Nat.le_sub_one_of_lt (UInt32.toNat_lt_size value)),
        Option.map_some, UInt32.ofNat_toNat]
  | word64 =>
      rw [toJson, ofJson?, Json.natural?_ofNat (Nat.le_sub_one_of_lt (UInt64.toNat_lt_size value)),
        Option.map_some, UInt64.ofNat_toNat]
  | text => rfl
  | address => exact IPv4.ofText?_toText value

end Kind

namespace Config

variable {config base : Config}

theorem put?_toJson (config base : Config) (key : Key) :
    base.put? key (key.kind.toJson (config.get key)) = some (base.set key (config.get key)) := by
  rw [put?, Kind.ofJson?_toJson, Option.map_some]

/-- A configuration's object has one member for each key. -/
theorem unique?_members (config : Config) (key : Key) :
    Json.unique? key.name config.members = some (some (key.kind.toJson (config.get key))) := by
  have hkey : Key.all.filter (fun other => other.name = key.name) = [key] := by
    cases key <;> decide
  rw [Json.unique?, members, List.filter_map]
  simp only [Function.comp_def, hkey, List.map_cons, List.map_nil]

theorem ofMembers?_members (config : Config) : ofMembers? config.members = some config := by
  unfold ofMembers?
  simp only [unique?_members, Option.bind_eq_bind, Option.bind_some, put?_toJson]
  calc
    Key.all.foldlM (fun base key => some (base.set key (config.get key))) default
    _ = some (Key.all.foldl (fun base key => base.set key (config.get key)) default) :=
        List.foldlM_pure
    _ = some config := by rw [foldl_set_all]

theorem parseJson_renderJson (config : Config) : parseJson config.renderJson = .ok config := by
  have hscalar : ∀ member ∈ config.members, Json.Parser.Scalar member.2 := by
    intro member hmember
    obtain ⟨key, -, rfl⟩ := List.mem_map.mp hmember
    exact Kind.scalar_toJson key.kind (config.get key)
  have hne : config.members ≠ [] := List.cons_ne_nil _ _
  have hread : (Json.parse? config.renderJson).bind ofJson? = some config := by
    rw [renderJson, Json.parse?_layout hne hscalar, Option.bind_some, Json.ofMembers, ofJson?,
      Json.namedMembers?_some, Option.bind_some, ofMembers?_members]
  rw [parseJson, hread]

end Config

end BootServer
