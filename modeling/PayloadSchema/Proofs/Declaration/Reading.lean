import Mathlib
import PayloadSchema.Declaration.Schema
import PayloadSchema.Proofs.Outcome

/-!
Declarations and the nodes of a document that they are read from. A node gives values to keys, and
each key of the declaration is what the node gives for it, whatever else stands there.
-/
namespace PayloadSchema

namespace Declaration
open Outcome

/-- The values that a node gives to keys. An object names the keys, and an array lists the values in
the order of the keys. -/
def keyed : Json → List (Key × Json)
  | .object members => members.filterMap fun (k, v) => (Key.ofText? k).map fun key => (key, v)
  | .array items => Key.inOrder.zip items
  | _ => []

/-- What a node gives for a key; null stands for nothing. -/
def given? (node : Json) (key : Key) : Option Json :=
  ((keyed node).lookup key).filter fun v => !v.isNull

def requiredNames (node : Json) : List String := ((given? node .required).bind texts?).getD []

def types? (node : Json) : Option TypeNames := (given? node .type).bind typeNames?

def propertiesOf (node : Json) : Members :=
  match given? node .properties with
  | some (.object members) => members
  | _ => []

def AllowsNull (node : Json) : Prop :=
  given? node .nullable = some (.bool true) ∨ ∃ ts, types? node = some (.several ts) ∧ "null" ∈ ts

def listedTypes (node : Json) : List String :=
  match types? node with
  | none => []
  | some (.one t) => [t]
  | some (.several ts) => ts

def ofNode? (node : Json) : Option Declaration := (keep? node).bind fun v => (view v).declaration

def ReadAs (node : Json) (d : Declaration) : Prop := ofNode? node = some d

/-- The nodes at the top of a document: those that an array lists if each of them is a declaration,
and else the document itself. -/
def topNodes (document : Json) : List Json :=
  match document with
  | .array nodes => if nodes.all fun node => (ofNode? node).isSome then nodes else [document]
  | _ => [document]

theorem readAs_iff {node : Json} {d : Declaration} :
    ReadAs node d ↔ ∃ kept, keep? node = some kept ∧ (view kept).declaration = some d :=
  Option.bind_eq_some_iff

theorem keepItems?_eq (items : List Json) : keepItems? items = items.mapM keep? := by
  induction items with
  | nil => rfl
  | cons v rest ih => rw [keepItems?, List.mapM_cons, ih]

theorem keepMembers?_eq (members : Members) :
    keepMembers? members = members.mapM fun m => (keep? m.2).map fun v => (m.1, v) := by
  induction members with
  | nil => rfl
  | cons m rest ih =>
    rw [keepMembers?, List.mapM_cons, ih]
    cases keep? m.2 <;> rfl

theorem viewItems_eq (items : List Json) : viewItems items = items.map view := by
  induction items with
  | nil => rfl
  | cons v rest ih => rw [viewItems, List.map_cons, ih]

theorem viewMembers_eq (members : Members) :
    viewMembers members = members.map fun m => (m.1, view m.2) := by
  induction members with
  | nil => rfl
  | cons m rest ih => rw [viewMembers, List.map_cons, ih]

/-- What becomes of a value: literals may be written differently, and all else stays. -/
inductive Kept : Json → Json → Prop
  | null : Kept .null .null
  | bool (b : Bool) : Kept (.bool b) (.bool b)
  | string (s : String) : Kept (.string s) (.string s)
  | number (n m : Numeral) : Kept (.number n) (.number m)
  | array {items kept : List Json} (h : List.Forall₂ (fun v w => keep? v = some w) items kept) :
      Kept (.array items) (.array kept)
  | object {members kept : Members}
      (h : List.Forall₂ (fun m n => m.1 = n.1 ∧ keep? m.2 = some n.2) members kept) :
      Kept (.object members) (.object kept)

theorem kept_of_keep? {v kept : Json} (h : keep? v = some kept) : Kept v kept := by
  cases v with
  | null =>
    cases h
    exact .null
  | bool b =>
    cases h
    exact .bool b
  | string s =>
    cases h
    exact .string s
  | number n =>
    obtain ⟨m, -, rfl⟩ := Option.map_eq_some_iff.1 h
    exact .number n m
  | array items =>
    rw [keep?, keepItems?_eq] at h
    obtain ⟨ws, hws, rfl⟩ := Option.map_eq_some_iff.1 h
    exact .array (mapM_eq_some.1 hws)
  | object members =>
    rw [keep?, keepMembers?_eq] at h
    obtain ⟨ms, hms, rfl⟩ := Option.map_eq_some_iff.1 h
    refine .object ((mapM_eq_some.1 hms).imp fun m n hmn => ?_)
    obtain ⟨w, hw, rfl⟩ := Option.map_eq_some_iff.1 hmn
    exact ⟨rfl, hw⟩

section Kept
variable {v kept : Json} (h : Kept v kept)
include h

theorem Kept.text? : text? kept = text? v := by
  cases h <;> rfl

theorem Kept.flag? : flag? kept = flag? v := by
  cases h <;> rfl

theorem Kept.isNull : kept.isNull = v.isNull := by
  cases h <;> rfl

end Kept

theorem mapM_text?_of_kept {items kept : List Json}
    (h : List.Forall₂ (fun v w => keep? v = some w) items kept) :
    kept.mapM text? = items.mapM text? := by
  induction h with
  | nil => rfl
  | cons hv _ ih => rw [List.mapM_cons, List.mapM_cons, (kept_of_keep? hv).text?, ih]

theorem Kept.texts? {v kept : Json} (h : Kept v kept) : texts? kept = texts? v := by
  cases h with
  | array h => exact mapM_text?_of_kept h
  | _ => rfl

theorem Kept.typeNames? {v kept : Json} (h : Kept v kept) : typeNames? kept = typeNames? v := by
  have htexts := h.texts?
  cases h with
  | array h => exact congrArg (Option.map TypeNames.several) htexts
  | _ => rfl

theorem kept_zip (keys : List Key) {items kept : List Json}
    (h : List.Forall₂ (fun v w => keep? v = some w) items kept) :
    List.Forall₂ (fun a b => a.1 = b.1 ∧ keep? a.2 = some b.2) (keys.zip items)
      (keys.zip kept) := by
  induction h generalizing keys with
  | nil => simp
  | cons hv _ ih =>
    cases keys with
    | nil => simp
    | cons key keys => exact .cons ⟨rfl, hv⟩ (ih keys)

theorem Kept.keyed {v kept : Json} (h : Kept v kept) :
    List.Forall₂ (fun a b => a.1 = b.1 ∧ keep? a.2 = some b.2) (keyed v) (keyed kept) := by
  cases h with
  | array h => exact kept_zip _ h
  | object h =>
    rw [Declaration.keyed, Declaration.keyed]
    induction h with
    | nil => exact .nil
    | @cons m n _ _ hmn _ ih =>
      obtain ⟨k, v⟩ := m
      obtain ⟨k', w⟩ := n
      obtain ⟨rfl, hw⟩ := hmn
      cases hkey : Key.ofText? k with
      | none => simpa [hkey] using ih
      | some key => simpa [hkey] using ⟨hw, ih⟩
  | _ => exact .nil

inductive Part where
  | text (t : Option String)
  | types (ts : Option TypeNames)
  | flag (b : Bool)
  | names (ns : List String)
  | declaration (d : Option Declaration)
  | list (ds : Option (List Declaration))
  | table (ds : Option (List (String × Declaration)))
  | additional (a : Option AdditionalProperties)
  | values (vs : Option (List Json))
  | length (n : Option Nat)
  | literal (n : Option Numeral)

def part (d : Declaration) : Key → Part
  | .name => .text d.facets.name
  | .description => .text d.facets.description
  | .type => .types d.facets.type
  | .format => .text d.facets.format
  | .nullable => .flag d.facets.nullable
  | .reference => .text d.facets.reference
  | .anyOf => .list d.anyOf
  | .items => .declaration d.items
  | .properties => .table d.properties
  | .required => .names d.facets.required
  | .additionalProperties => .additional d.additional
  | .allowed => .values d.facets.allowed
  | .minLength => .length d.facets.minLength
  | .maxLength => .length d.facets.maxLength
  | .pattern => .text d.facets.pattern
  | .minimum => .literal d.facets.minimum
  | .maximum => .literal d.facets.maximum
  | .exclusiveMinimum => .literal d.facets.exclusiveMinimum
  | .exclusiveMaximum => .literal d.facets.exclusiveMaximum
  | .minItems => .length d.facets.minItems
  | .maxItems => .length d.facets.maxItems

/-- Setting a key leaves the others as they are. -/
theorem part_set?_of_ne {d d' : Declaration} {key other : Key} {v : View}
    (h : d.set? key v = some d') (hne : other ≠ key) : d'.part other = d.part other := by
  cases key with
  | anyOf | items | additionalProperties =>
    rw [set?] at h
    split at h
    · cases h
      cases other <;> first | rfl | exact absurd rfl hne
    · obtain ⟨x, -, rfl⟩ := Option.map_eq_some_iff.1 h
      cases other <;> first | rfl | exact absurd rfl hne
  | _ =>
    obtain ⟨x, -, rfl⟩ := Option.map_eq_some_iff.1 h
    cases other <;> first | rfl | exact absurd rfl hne

/-- What a declaration has for a key is what a value sets it to, or what there was at the start. -/
def HasFrom (d start : Declaration) (key : Key) : Option View → Prop
  | none => d.part key = start.part key
  | some v => ∃ d₁ d₂ : Declaration, d₁.set? key v = some d₂ ∧ d.part key = d₂.part key

theorem hasFrom_of_foldlM {pairs : List (Key × View)} {start d : Declaration} (key : Key)
    (hnodup : (pairs.map (·.1)).Nodup)
    (h : pairs.foldlM (fun d (key, v) => d.set? key v) start = some d) :
    d.HasFrom start key (pairs.lookup key) := by
  induction pairs generalizing start with
  | nil =>
    cases h
    exact rfl
  | cons p rest ih =>
    obtain ⟨k, v⟩ := p
    obtain ⟨hk, hrest⟩ := List.nodup_cons.1 hnodup
    obtain ⟨next, hnext, h⟩ := Option.bind_eq_some_iff.1 h
    have hfrom := ih hrest h
    by_cases hkey : key = k
    · subst hkey
      have hnone : rest.lookup key = none :=
        List.lookup_eq_none_iff.2 fun p hp => bne_iff_ne.2 fun heq =>
          hk (List.mem_map.2 ⟨p, hp, heq.symm⟩)
      rw [hnone] at hfrom
      rw [List.lookup_cons_self]
      exact ⟨start, next, hnext, hfrom⟩
    · rw [List.lookup_cons, beq_false_of_ne hkey]
      cases hv : rest.lookup key with
      | none =>
        rw [hv] at hfrom
        exact hfrom.trans (part_set?_of_ne hnext hkey)
      | some w =>
        rw [hv] at hfrom
        exact hfrom

theorem hasFrom_of_ofKeys? {pairs : List (Key × View)} {d : Declaration} (key : Key)
    (h : ofKeys? pairs = some d) : d.HasFrom empty key (pairs.lookup key) := by
  rw [ofKeys?] at h
  split at h
  · cases h
  · rename_i hlen
    refine hasFrom_of_foldlM key (nodup_of_length_eraseDups ?_) h
    rw [List.length_map]
    exact Nat.not_lt.1 hlen

theorem raw_view (v : Json) : (view v).raw = v := by
  cases v <;> rfl

/-- A value that can be a declaration is read by the keys it gives values to. -/
theorem ofKeys?_keyed {v : Json} {d : Declaration} (h : (view v).declaration = some d) :
    ofKeys? ((keyed v).map fun p => (p.1, view p.2)) = some d := by
  cases v with
  | object members =>
    have hof : ofMembers? (viewMembers members) = some d := h
    rw [ofMembers?, viewMembers_eq, List.filterMap_map] at hof
    rw [keyed, List.map_filterMap]
    convert hof using 3 with m
    exact Option.map_map ..
  | array items =>
    have hof : ofPositions? (viewItems items) = some d := h
    rw [ofPositions?, viewItems_eq] at hof
    split at hof
    · cases hof
    · rw [List.zip_map_right] at hof
      exact hof
  | number n =>
    rw [view] at h
    dsimp only at h
    split at h
    · cases h
    · exact h
  | null | bool | string => cases h

theorem lookup_of_kept {v kept : Json} (h : Kept v kept) (key : Key) :
    Option.Rel (fun x w => keep? x = some w) ((keyed v).lookup key) ((keyed kept).lookup key) := by
  have hkeyed := h.keyed
  generalize keyed v = xs, keyed kept = ys at hkeyed
  induction hkeyed with
  | nil => exact .none
  | @cons a b _ _ hab _ ih =>
    obtain ⟨k, x⟩ := a
    obtain ⟨k', w⟩ := b
    obtain ⟨rfl, hw⟩ := hab
    rw [List.lookup_cons, List.lookup_cons]
    cases key == k with
    | true => exact .some hw
    | false => exact ih

/-- What a declaration has for a key was set from what the node gives for it. -/
theorem hasFrom_of_readAs {node : Json} {d : Declaration} (key : Key) (h : ReadAs node d) :
    ∃ kept, Option.Rel (fun v w => keep? v = some w) ((keyed node).lookup key) kept ∧
      d.HasFrom empty key (kept.map view) := by
  obtain ⟨kept, hkept, hd⟩ := readAs_iff.1 h
  refine ⟨(keyed kept).lookup key, lookup_of_kept (kept_of_keep? hkept) key, ?_⟩
  rw [← lookup_map]
  exact hasFrom_of_ofKeys? key (ofKeys?_keyed hd)

/-- A null leaves nothing for its key. -/
theorem part_set?_null {d d' : Declaration} {key : Key} (h : d.set? key (view .null) = some d') :
    d'.part key = empty.part key := by
  cases key <;> cases h <;> rfl

theorem part_of_readAs {node : Json} {d : Declaration} (key : Key) (h : ReadAs node d) :
    (given? node key = none ∧ d.part key = empty.part key) ∨
      ∃ v w, ∃ d₁ d₂ : Declaration, given? node key = some v ∧ keep? v = some w ∧
        w.isNull = false ∧ d₁.set? key (view w) = some d₂ ∧ d.part key = d₂.part key := by
  obtain ⟨kept, hrel, hfrom⟩ := hasFrom_of_readAs key h
  rw [given?]
  generalize (keyed node).lookup key = found at hrel ⊢
  cases hrel with
  | none => exact .inl ⟨rfl, hfrom⟩
  | @some v w hvw =>
    obtain ⟨d₁, d₂, hset, hpart⟩ := hfrom
    have hnull := (kept_of_keep? hvw).isNull
    cases hw : w.isNull with
    | true =>
      have hv : v.isNull = true := hnull.symm.trans hw
      obtain rfl : w = .null := by
        cases w <;> first | rfl | cases hw
      exact .inl ⟨by simp [hv], hpart.trans (part_set?_null hset)⟩
    | false =>
      have hv : v.isNull = false := hnull.symm.trans hw
      exact .inr ⟨v, w, d₁, d₂, by simp [hv], hvw, hw, hset, hpart⟩

theorem eq_string_of_text? {v : Json} {t : String} (h : text? v = some t) : v = .string t := by
  cases v <;> cases h
  rfl

theorem exists_of_orNull? {α : Type} {read : Json → Option α} {set : Option α → Declaration}
    {v w : Json} {d : Declaration} (hnull : w.isNull = false) (hread : read w = read v)
    (h : (orNull? read (view w).raw).map set = some d) :
    ∃ x, read v = some x ∧ set (some x) = d := by
  have hor : orNull? read w = (read w).map some := by
    cases w <;> first | rfl | cases hnull
  rw [raw_view, hor, hread, Option.map_map] at h
  exact Option.map_eq_some_iff.1 h

inductive ReadsAdditional : Json → AdditionalProperties → Prop
  | flag (b : Bool) : ReadsAdditional (.bool b) (.flag b)
  | declared {v : Json} {d : Declaration} (h : ReadAs v d) : ReadsAdditional v (.declared d)

theorem mapM_declaration {nodes kept : List Json}
    (h : List.Forall₂ (fun v w => keep? v = some w) nodes kept) :
    (viewItems kept).mapM (·.declaration) = nodes.mapM ofNode? := by
  induction h with
  | nil => rfl
  | cons hv _ ih =>
    rw [viewItems, List.mapM_cons, List.mapM_cons, ih, ofNode?, hv, Option.bind_some]

theorem exists_of_list {v kept : Json} {ds : List Declaration} (h : keep? v = some kept)
    (hds : (view kept).list = some ds) :
    ∃ nodes, v = .array nodes ∧ List.Forall₂ ReadAs nodes ds := by
  cases kept_of_keep? h with
  | array hkept => exact ⟨_, rfl, mapM_eq_some.1 ((mapM_declaration hkept).symm.trans hds)⟩
  | _ => cases hds

theorem mapM_table {members kept : Members}
    (h : List.Forall₂ (fun m n => m.1 = n.1 ∧ keep? m.2 = some n.2) members kept) :
    ((viewMembers kept).mapM fun (k, v) => v.declaration.map fun d => (k, d)) =
      members.mapM fun m => (ofNode? m.2).map fun d => (m.1, d) := by
  induction h with
  | nil => rfl
  | @cons m n _ _ hmn _ ih =>
    obtain ⟨hname, hv⟩ := hmn
    rw [viewMembers, List.mapM_cons, List.mapM_cons, ih, ofNode?, hv, hname, Option.bind_some]

theorem exists_of_table {v kept : Json} {table : List (String × Declaration)}
    (h : keep? v = some kept) (htable : (view kept).table = some table) :
    ∃ members, v = .object members ∧
      List.Forall₂ (fun m p => m.1 = p.1 ∧ ReadAs m.2 p.2) members table := by
  cases kept_of_keep? h with
  | object hkept =>
    refine ⟨_, rfl, (mapM_eq_some.1 ((mapM_table hkept).symm.trans htable)).imp fun m p hp => ?_⟩
    obtain ⟨d, hd, rfl⟩ := Option.map_eq_some_iff.1 hp
    exact ⟨rfl, hd⟩
  | _ => cases htable

section ReadAs
variable {node : Json} {d : Declaration} (h : ReadAs node d)
include h

/-- A key that is read as text, where `get` is what a declaration has for it and `put` sets it. -/
theorem ReadAs.text {key : Key} (get : Declaration → Option String)
    {put : Declaration → Option String → Declaration}
    (hpart : ∀ d : Declaration, d.part key = .text (get d))
    (hset : ∀ d v, set? d key v = (orNull? text? v.raw).map (put d))
    (hput : ∀ d x, get (put d x) = x) (hempty : get empty = none) :
    given? node key = (get d).map .string := by
  rcases part_of_readAs key h with ⟨hnone, hd⟩ | ⟨v, w, d₁, d₂, hv, hw, hnull, hset', hd⟩
  · rw [hpart, hpart] at hd
    rw [hnone, Part.text.inj hd, hempty, Option.map_none]
  · rw [hset] at hset'
    rw [hpart, hpart] at hd
    obtain ⟨t, ht, rfl⟩ := exists_of_orNull? hnull (kept_of_keep? hw).text? hset'
    rw [hv, Part.text.inj hd, hput, eq_string_of_text? ht, Option.map_some]

theorem ReadAs.name : given? node .name = d.facets.name.map .string :=
  h.text (·.facets.name) (fun _ => rfl) (fun _ _ => rfl) (fun _ _ => rfl) rfl

theorem ReadAs.reference : given? node .reference = d.facets.reference.map .string :=
  h.text (·.facets.reference) (fun _ => rfl) (fun _ _ => rfl) (fun _ _ => rfl) rfl

theorem ReadAs.type : d.facets.type = types? node := by
  rw [types?]
  rcases part_of_readAs .type h with ⟨hnone, hpart⟩ | ⟨v, w, d₁, d₂, hv, hw, hnull, hset, hpart⟩
  · rw [hnone]
    exact Part.types.inj hpart
  · obtain ⟨t, ht, rfl⟩ := exists_of_orNull? hnull (kept_of_keep? hw).typeNames? hset
    rw [hv, Option.bind_some, ht]
    exact Part.types.inj hpart

theorem ReadAs.nullable : d.facets.nullable = true ↔ given? node .nullable = some (.bool true) := by
  rcases part_of_readAs .nullable h with ⟨hnone, hpart⟩ | ⟨v, w, d₁, d₂, hv, hw, -, hset, hpart⟩
  · rw [hnone, Part.flag.inj hpart]
    simp [empty, Facets.none]
  · rw [set?, raw_view, (kept_of_keep? hw).flag?] at hset
    obtain ⟨x, hx, rfl⟩ := Option.map_eq_some_iff.1 hset
    rw [hv, Part.flag.inj hpart]
    cases v with
    | bool b =>
      cases hx
      simp
    | _ => cases hx

theorem ReadAs.required : d.facets.required = requiredNames node := by
  rw [requiredNames]
  rcases part_of_readAs .required h with ⟨hnone, hpart⟩ | ⟨v, w, d₁, d₂, hv, hw, -, hset, hpart⟩
  · rw [hnone]
    exact Part.names.inj hpart
  · rw [set?, raw_view, (kept_of_keep? hw).texts?] at hset
    obtain ⟨x, hx, rfl⟩ := Option.map_eq_some_iff.1 hset
    rw [hv, Option.bind_some, hx]
    exact Part.names.inj hpart

theorem ReadAs.items : Option.Rel ReadAs (given? node .items) d.items := by
  rcases part_of_readAs .items h with ⟨hnone, hpart⟩ | ⟨v, w, d₁, d₂, hv, hw, hnull, hset, hpart⟩
  · rw [hnone, Part.declaration.inj hpart]
    exact .none
  · rw [set?, raw_view, hnull] at hset
    obtain ⟨x, hx, rfl⟩ := Option.map_eq_some_iff.1 hset
    rw [hv, Part.declaration.inj hpart]
    exact .some (readAs_iff.2 ⟨w, hw, hx⟩)

/-- The candidates are read from the values of an array, in their order. -/
theorem ReadAs.anyOf :
    Option.Rel (fun v ds => ∃ nodes, v = .array nodes ∧ List.Forall₂ ReadAs nodes ds)
      (given? node .anyOf) d.anyOf := by
  rcases part_of_readAs .anyOf h with ⟨hnone, hpart⟩ | ⟨v, w, d₁, d₂, hv, hw, hnull, hset, hpart⟩
  · rw [hnone, Part.list.inj hpart]
    exact .none
  · rw [set?, raw_view, hnull] at hset
    obtain ⟨ds, hds, rfl⟩ := Option.map_eq_some_iff.1 hset
    rw [hv, Part.list.inj hpart]
    exact .some (exists_of_list hw hds)

/-- The properties are read from the members of an object, in their order. -/
theorem ReadAs.properties :
    Option.Rel (fun v table => ∃ members, v = .object members ∧
        List.Forall₂ (fun m p => m.1 = p.1 ∧ ReadAs m.2 p.2) members table)
      (given? node .properties) d.properties := by
  rcases part_of_readAs .properties h with ⟨hnone, hpart⟩ | ⟨v, w, d₁, d₂, hv, hw, -, hset, hpart⟩
  · rw [hnone, Part.table.inj hpart]
    exact .none
  · obtain ⟨table, htable, rfl⟩ := Option.map_eq_some_iff.1 hset
    rw [hv, Part.table.inj hpart]
    exact .some (exists_of_table hw htable)

theorem ReadAs.additional :
    Option.Rel ReadsAdditional (given? node .additionalProperties) d.additional := by
  rcases part_of_readAs .additionalProperties h with
    ⟨hnone, hpart⟩ | ⟨v, w, d₁, d₂, hv, hw, hnull, hset, hpart⟩
  · rw [hnone, Part.additional.inj hpart]
    exact .none
  · rw [set?, raw_view, hnull] at hset
    obtain ⟨a, ha, rfl⟩ := Option.map_eq_some_iff.1 hset
    rw [hv, Part.additional.inj hpart]
    refine .some ?_
    rw [additional?, raw_view] at ha
    cases kept_of_keep? hw with
    | bool b =>
      cases ha
      exact .flag b
    | _ =>
      obtain ⟨x, hx, rfl⟩ := Option.map_eq_some_iff.1 ha
      exact .declared (readAs_iff.2 ⟨_, hw, hx⟩)

theorem ReadAs.table :
    List.Forall₂ (fun m p => m.1 = p.1 ∧ ReadAs m.2 p.2) (propertiesOf node)
      (d.properties.getD []) := by
  have hrel := h.properties
  rw [propertiesOf]
  generalize given? node .properties = given, d.properties = table at hrel
  cases hrel with
  | none => exact .nil
  | some hmembers =>
    obtain ⟨members, rfl, hmembers⟩ := hmembers
    exact hmembers

theorem ReadAs.typeNames : d.facets.typeNames = listedTypes node := by
  rw [listedTypes, ← h.type]
  rfl

theorem ReadAs.isNullable : d.facets.isNullable = true ↔ AllowsNull node := by
  rw [Facets.isNullable, h.type, Bool.or_eq_true, h.nullable, AllowsNull]
  refine or_congr_right ?_
  cases types? node with
  | none => simp
  | some ts => cases ts <;> simp

end ReadAs

/-- A document is read as the declarations of its nodes at the top. -/
theorem forall₂_of_ofDocument? {document : Json} {ds : List Declaration}
    (h : ofDocument? document = some ds) : List.Forall₂ ReadAs (topNodes document) ds := by
  obtain ⟨kept, hkept, h⟩ := Option.bind_eq_some_iff.1 h
  cases hlist : (view kept).list with
  | some es =>
    simp only [hlist, Option.some.injEq] at h
    subst h
    obtain ⟨nodes, rfl, hnodes⟩ := exists_of_list hkept hlist
    have hall : (nodes.all fun node => (ofNode? node).isSome) = true := by
      refine List.all_eq_true.2 fun node hnode => ?_
      obtain ⟨d, -, hd⟩ := exists_of_mem_right hnodes.flip hnode
      exact Option.isSome_of_eq_some hd
    rw [topNodes, if_pos hall]
    exact hnodes
  | none =>
    simp only [hlist] at h
    obtain ⟨d, hd, rfl⟩ := Option.map_eq_some_iff.1 h
    have hread : List.Forall₂ ReadAs [document] [d] :=
      .cons (readAs_iff.2 ⟨kept, hkept, hd⟩) .nil
    cases kept_of_keep? hkept with
    | @array nodes ws hws =>
      -- an array of declarations would have been read as a list
      rw [topNodes, if_neg ?_]
      · exact hread
      · intro hall
        have hnodes :
            List.Forall₂ ReadAs nodes (nodes.map fun node => (ofNode? node).getD empty) := by
          refine List.forall₂_map_right_iff.2 (List.forall₂_same.2 fun node hnode => ?_)
          obtain ⟨d, hd⟩ := Option.isSome_iff_exists.1 (List.all_eq_true.1 hall node hnode)
          rw [ReadAs, hd, Option.getD_some]
        cases hlist.symm.trans ((mapM_declaration hws).trans (mapM_eq_some.2 hnodes))
    | _ => exact hread

end Declaration
end PayloadSchema
