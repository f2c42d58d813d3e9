import Mathlib
import PayloadSchema.Proofs.Json.Reordered
import PayloadSchema.Proofs.Validation.RoundTrip

/-!
Schemas that convert nothing. Where every leaf that can be reached is a text, a boolean, a null or
any value, the JSON form of a valid value is the payload that it was made of, up to the order of
keys.
-/
namespace PayloadSchema
open Outcome

/-- Leaves of the kind hold the raw value as it was sent. -/
def Kind.isVerbatim : Kind → Bool
  | .string | .boolean | .null | .any => true
  | _ => false

def Schema.isVerbatim : Schema → Bool
  | .primitive kind _ => kind.isVerbatim
  | _ => true

def Registry.Verbatim (r : Registry) : Schema → Prop := r.Throughout fun s => s.isVerbatim = true

theorem Kind.encode_of_convert {kind : Kind} {raw : Json} {i : Instance}
    (hk : kind.isVerbatim = true) (h : kind.convert raw = .value i) : i.encode = raw := by
  cases kind with
  | any =>
    cases h
    rfl
  | string | boolean | null =>
    cases raw <;> cases h
    rfl
  | _ => cases hk

namespace Validator
variable {v : Validator} {room : Nat}

section
variable {c : Composite} {read : List (String × Presence Instance)}

theorem nodup_arrange (hn : (c.fields.map (·.name)).Nodup) (hk : (read.map (·.1)).Nodup) :
    ((arrange c read).map (·.1)).Nodup := by
  have hdeclared : (declaredEntries c read).map (·.1) = c.fields.map (·.name) := by
    rw [declaredEntries, List.map_map]
    rfl
  have hadditional : ((additionalEntries c read).map (·.1)).Nodup :=
    hk.sublist (List.filter_sublist.map _)
  rw [arrange_eq, List.map_append, hdeclared]
  refine hn.append hadditional fun name hname hmem => ?_
  obtain ⟨e, he, rfl⟩ := List.mem_map.1 hmem
  exact Composite.field?_eq_none.1 (mem_additional.1 he).2 hname

/-- The entries that the JSON form has members for are those that were read. -/
theorem presentEntries_perm (hn : (c.fields.map (·.name)).Nodup) (hk : (read.map (·.1)).Nodup)
    (hset : ∀ e ∈ read, e.2.isSet = true) : (presentEntries c read).Perm read := by
  have hpresent : ((presentEntries c read).map (·.1)).Nodup :=
    (nodup_arrange hn hk).sublist (List.filter_sublist.map _)
  refine (List.perm_ext_iff_of_nodup hpresent.of_map hk.of_map).2 fun e => ?_
  refine ⟨mem_of_mem_presentEntries, fun he => ?_⟩
  cases hf : c.field? e.1 with
  | some f =>
    have hname : e.1 ∈ c.fields.map (·.name) := by
      by_contra hnot
      cases hf.symm.trans (Composite.field?_eq_none.2 hnot)
    have hlookup := (lookup_presentEntries hset hname).trans (Members.lookup_of_mem hk he)
    exact Members.mem_of_lookup hlookup
  | none =>
    refine List.mem_filter.2 ⟨?_, hset e he⟩
    rw [arrange_eq]
    exact List.mem_append_right _ (mem_additional.2 ⟨he, hf⟩)

end

def Keeps (v : Validator) (_ : Nat) (s : Schema) (raw : Json) (i : Instance) : Prop :=
  v.registry.Verbatim s → v.registry.WellNamed s → raw.DistinctKeys → i.encode.Reordered raw

theorem keeps_leaf {kind : Kind} {c : Constraints} {raw : Json} {i : Instance}
    (h : kind.coerce c raw = .ok i) : Keeps v room (.primitive kind c) raw i := by
  intro hs _ hd
  rw [Kind.encode_of_convert hs.self (Kind.coerce_eq_ok.1 h).1]
  exact .refl hd

section
variable {c : Composite} {raw : Json} {p : Presence Instance}

theorem FieldYields.keeps {f : Field} (h : FieldYields (Keeps v room) f raw p)
    (hs : v.registry.Verbatim f.schema) (hw : v.registry.WellNamed f.schema)
    (hd : raw.DistinctKeys) : (Instance.encodePresence p).Reordered raw := by
  cases h with
  | null _ => exact .null
  | value _ h => exact h hs hw hd

theorem PolicyYields.keeps {policy : Policy} (h : PolicyYields (Keeps v room) policy raw p)
    (hs : ∀ s, policy = .typed s → v.registry.Verbatim s ∧ v.registry.WellNamed s)
    (hd : raw.DistinctKeys) : (Instance.encodePresence p).Reordered raw := by
  cases h with
  | typedNull _ => exact .null
  | typedValue _ h => exact h (hs _ rfl).1 (hs _ rfl).2 hd
  | anyNull => exact .null
  | anyValue _ => exact .refl hd

theorem MemberYields.keeps {m : String × Json} {e : String × Presence Instance}
    (h : MemberYields (Keeps v room) c m e) (hs : v.registry.Verbatim (.object c))
    (hw : v.registry.WellNamed (.object c)) (hd : m.2.DistinctKeys) :
    (Instance.encodePresence e.2).Reordered m.2 := by
  cases h with
  | declared hf h => exact h.keeps (hs.field hf) (hw.field hf) hd
  | additional _ h =>
    exact h.keeps (fun s hp => ⟨hs.part (.additional hp), hw.part (.additional hp)⟩) hd

end

theorem keeps_list {s : Schema} {least most : Option Nat} {raws : List Json}
    {items : List Instance} (hitems : List.Forall₂ (Keeps v room s) raws items) :
    Keeps v (room + 1) (.list s least most) (.array raws) (.list items) := by
  intro hs hw hd
  cases hd with
  | array hd =>
    rw [Instance.encode, Instance.encodeItems_eq]
    refine .array (List.forall₂_map_left_iff.2 (List.Forall₂.flip ?_))
    refine ((List.forall₂_and_left raws items).2 ⟨hd, hitems⟩).imp fun raw i h => ?_
    exact h.2 (hs.part .items) (hw.part .items) h.1

/-- The members that are written for what was read, before they are put in order. -/
theorem keyed_encode {α : Type} {Q : String × Json → String × α → Prop} {encode : α → Json}
    {members : Members} {read : List (String × α)} (hd : ∀ m ∈ members, m.2.DistinctKeys)
    (hread : List.Forall₂ Q members read)
    (hQ : ∀ m e, m.2.DistinctKeys → Q m e → m.1 = e.1 ∧ (encode e.2).Reordered m.2) :
    Keyed Json.Reordered (read.map fun e => (e.1, encode e.2)) members := by
  refine Keyed.iff_forall₂.2 (List.forall₂_map_left_iff.2 (List.Forall₂.flip ?_))
  refine ((List.forall₂_and_left members read).2 ⟨hd, hread⟩).imp fun m e h => ?_
  obtain ⟨hname, hvalue⟩ := hQ m e h.1 h.2
  exact ⟨hname.symm, hvalue⟩

theorem keeps_dict {s : Schema} {members : Members} {read : List (String × Instance)}
    (hread : List.Forall₂ (fun m e => m.1 = e.1 ∧ Keeps v room s m.2 e.2) members read) :
    Keeps v (room + 1) (.dict s) (.object members) (.dict (read.mergeSort keyOrder)) := by
  intro hs hw hd
  cases hd with
  | object hk hd =>
    have hkeyed : Keyed Json.Reordered (read.map fun e => (e.1, e.2.encode)) members :=
      keyed_encode hd hread fun m e hd h => ⟨h.1, h.2 (hs.part .values) (hw.part .values) hd⟩
    rw [Instance.encode, Instance.encodeDict_eq]
    exact .of_shuffled hk (hkeyed.shuffled ((List.mergeSort_perm read keyOrder).map _))

theorem keeps_object {c : Composite} {members : Members}
    {read : List (String × Presence Instance)}
    (hread : List.Forall₂ (MemberYields (Keeps v room) c) members read) :
    Keeps v (room + 1) (.object c) (.object members) (.object ⟨c, arrange c read⟩) := by
  intro hs hw hd
  cases hd with
  | object hk hd =>
    have hkeyed : Keyed Json.Reordered
        (read.map fun e => (e.1, Instance.encodePresence e.2)) members :=
      keyed_encode hd hread fun m e hd h => ⟨h.name_eq, h.keeps hs hw hd⟩
    have hset : ∀ e ∈ read, e.2.isSet = true := by
      intro e he
      obtain ⟨m, -, hm⟩ := exists_of_mem_right hread he
      exact hm.isSet
    have hread : (read.map (·.1)).Nodup := (map_name_read hread).symm ▸ hk
    rw [Instance.encode, Instance.encodeObject, Instance.encodeEntries_eq]
    exact .of_shuffled hk (hkeyed.shuffled ((presentEntries_perm hw.nodup hread hset).map _))

theorem keeps_container {s : Schema} {raw : Json} {i : Instance}
    (h : Container (Keeps v room) s raw i) : Keeps v (room + 1) s raw i := by
  cases h with
  | list _ hitems => exact keeps_list hitems
  | dict hread => exact keeps_dict hread
  | object _ hread => exact keeps_object hread

/-- Where nothing is converted, the JSON form of a valid value is the payload: they are equal as
JSON values, every path finds a part in both or in neither, and it finds a null in both or in
neither. -/
theorem validate_lossless (s : v.registry.NamedSchema) (raw : Payload) {i : Instance}
    (hs : v.registry.Verbatim s) (h : v.validate s raw = .ok i) :
    i.encode.Reordered raw ∧ i.encode.same raw = true ∧
      ∀ path, (i.encode.at? path).isSome = (raw.1.at? path).isSome ∧
        (i.encode.at? path = some .null ↔ raw.1.at? path = some .null) := by
  have hkeeps : Keeps v v.maxDepth s raw i := by
    refine apply_induction (P := Keeps v) ?leaf ?container ?ref ?union h
    case leaf => exact fun room kind c raw i h => keeps_leaf h
    case container =>
      intro room s raw i h
      exact keeps_container (h.mono fun s raw i h => h.2)
    case ref =>
      intro room name s raw i hr ih hs hw
      exact ih (hs.resolve hr) (hw.resolve hr)
    case union =>
      intro room cs s raw i hc ih hs hw
      have hpart := Schema.Part.candidate (choose_mem hc)
      exact ih (hs.part hpart) (hw.part hpart)
  have hreordered := hkeeps hs s.2 raw.2
  exact ⟨hreordered, Json.same_of_reordered _ _ hreordered, fun path =>
    ⟨hreordered.isSome_at? path, hreordered.null_at? path⟩⟩

def pageSchema : Composite where
  name := ⟨"Page", by decide⟩
  description := none
  fields :=
    [⟨"title", .primitive .string { Constraints.none with maxLength := some 8 }, true, false,
        none⟩,
      ⟨"notes", .dict (.list (.leaf .any) none none), false, false, none⟩]
  additional := .typed (.union [.leaf .boolean, .leaf .null, .ref ⟨"Page", by decide⟩])

def pageValidator : Validator :=
  ⟨⟨[(pageSchema.name, .object pageSchema)], List.pairwise_singleton _ _⟩, 5⟩

def pageScale : Numeral := ⟨false, Digits.ofNat 1, Digits.ofNat 50, none⟩

def pagePayload : Json :=
  .object
    [("draft", .bool true), ("next", .object [("notes", .null), ("title", .string "b")]),
      ("notes", .object [("z", .array [.null]), ("a", .array [.number pageScale])]),
      ("last", .null), ("title", .string "a")]

def pageInstance : Instance :=
  .object ⟨pageSchema,
    [("title", .value (.string "a")),
      ("notes", .value (.dict
        [("a", .list [.any (.number pageScale)]), ("z", .list [.any .null])])),
      ("draft", .value (.boolean true)),
      ("next", .value (.object ⟨pageSchema,
        [("title", .value (.string "b")), ("notes", .null)]⟩)),
      ("last", .null)]⟩

def pageText : String :=
  "\x7b\"draft\":true,\"next\":\x7b\"notes\":null,\"title\":\"b\"\x7d," ++
    "\"notes\":\x7b\"z\":[null],\"a\":[1.50]\x7d,\"last\":null,\"title\":\"a\"\x7d"

theorem page_lossless :
    pageValidator.registry.Verbatim (.ref pageSchema.name) ∧
      pageValidator.registry.WellNamed (.ref pageSchema.name) ∧ pagePayload.DistinctKeys ∧
      pageValidator.validate (.ref pageSchema.name) pagePayload = .ok pageInstance ∧
      pageInstance.encode.same pagePayload = true ∧
      pageInstance.encode.at? [.field "next", .field "notes"] = some .null := by
  have hs : pageValidator.registry.Verbatim (.ref pageSchema.name) :=
    Registry.throughout_of_all (by decide) (by decide)
  have hw : pageValidator.registry.WellNamed (.ref pageSchema.name) :=
    Registry.throughout_of_all (by decide) (by decide)
  have hd : pagePayload.DistinctKeys := by
    have htext : Json.parse? pageText = some pagePayload := by cbv
    exact Json.distinctKeys_of_parse? htext
  have h : pageValidator.validate (.ref pageSchema.name) pagePayload = .ok pageInstance := by cbv
  obtain ⟨-, hsame, hparts⟩ := validate_lossless ⟨_, hw⟩ ⟨_, hd⟩ hs h
  exact ⟨hs, hw, hd, h, hsame, (hparts [.field "next", .field "notes"]).2.2 rfl⟩

end Validator
end PayloadSchema
