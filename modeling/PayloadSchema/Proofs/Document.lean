import PayloadSchema.Document
import PayloadSchema.Proofs.Declaration
import PayloadSchema.Proofs.Json.Keys
import PayloadSchema.Proofs.Yaml.Walk

/-!
The values of files. Whether it is written in JSON or in YAML, no object of such a value has a key
twice: a key that comes again in a text takes over the place of the first one.
-/
namespace PayloadSchema
open Outcome

namespace Yaml.Value

mutual

theorem distinctKeys_toJson : (v : Value) → ∀ raw, v.toJson = .ok raw → raw.DistinctKeys
  | null, raw, h => by
    cases h
    exact .null
  | bool b, raw, h => by
    cases h
    exact .bool b
  | integer i, raw, h => by
    cases h
    exact .number _
  | real x, raw, h => by
    cases x <;> cases h
    exact .number _
  | string s, raw, h => by
    cases h
    exact .string s
  | tagged _ v, raw, h => distinctKeys_toJson v raw h
  | sequence items, raw, h => by
    obtain ⟨values, hvalues, rfl⟩ := map_eq_ok.1 h
    exact .array (distinctKeys_itemsToJson 0 items values hvalues)
  | mapping entries, raw, h => by
    obtain ⟨members, hmembers, rfl⟩ := map_eq_ok.1 h
    exact distinctKeys_entriesToJson [] entries members (.object (by simp) (by simp)) hmembers

theorem distinctKeys_itemsToJson (i : Nat) : (items : List Value) → ∀ values,
    itemsToJson i items = .ok values → ∀ raw ∈ values, raw.DistinctKeys
  | [], values, h => by
    cases h
    simp
  | v :: rest, values, h => by
    obtain ⟨raw, hraw, h⟩ := bind_eq_ok.1 h
    obtain ⟨raws, hraws, h⟩ := bind_eq_ok.1 h
    cases h
    exact List.forall_mem_cons.2 ⟨distinctKeys_toJson v raw (mapError_eq_ok.1 hraw),
      distinctKeys_itemsToJson (i + 1) rest raws hraws⟩

theorem distinctKeys_entriesToJson (seen : Members) : (entries : List (Value × Value)) →
    ∀ members, (Json.object seen).DistinctKeys → entriesToJson seen entries = .ok members →
      (Json.object members).DistinctKeys
  | [], members, hseen, h => by
    cases h
    exact hseen
  | (k, v) :: rest, members, hseen, h => by
    rw [entriesToJson] at h
    split at h
    · cases h
    · obtain ⟨raw, hraw, h⟩ := bind_eq_ok.1 h
      have hv := distinctKeys_toJson v raw (mapError_eq_ok.1 hraw)
      exact distinctKeys_entriesToJson _ rest members (hseen.insert hv) h

end

theorem delivers_load (v : Value) (source : String) :
    Delivers Json.DistinctKeys (v.load source) := by
  rw [load_eq]
  cases h : v.toJson with
  | ok raw => exact .ok (distinctKeys_toJson v raw h)
  | error e => exact .error (by simp)

end Yaml.Value

theorem Document.delivers_parse (path : String) (content : Option (List UInt8)) :
    Delivers Json.DistinctKeys (Document.parse path content) := by
  unfold parse
  split
  · exact .error (by simp)
  · split
    · split
      · exact Yaml.Value.delivers_load _ path
      · exact .error (by simp)
    · split
      · rename_i htext
        exact .ok (Json.distinctKeys_of_parse? htext)
      · exact .error (by simp)

end PayloadSchema
