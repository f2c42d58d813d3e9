import Mathlib
import PayloadSchema.Proofs.Json.Edit
import PayloadSchema.Proofs.Yaml.JsonForm
import PayloadSchema.Proofs.Yaml.KeyText

/-!
Entries that are lost in the conversion to JSON. Keys are converted to their texts, and of two
entries with the same text only one is left. If the keys of a mapping differ from each other this
happens only where a string is written like a key of another kind.
-/
namespace PayloadSchema.Yaml.Value
open Outcome
variable {v : Value} {j : Json} {P : List (Value × Value) → Prop}

/-- `P` holds of the entries of every mapping in `v`, other than those in keys. -/
def Mappings (P : List (Value × Value) → Prop) (v : Value) : Prop :=
  ∀ entries, v.Uses (mapping entries) → P entries

def DistinctKeys : Value → Prop :=
  Mappings fun entries => entries.Pairwise fun a b => a.1.same b.1 = false

def DistinctTexts : Value → Prop :=
  Mappings fun entries => (entries.map (·.1.keyText?)).Nodup

/-- In no mapping a string is written like a key of another kind. -/
def StringsApart : Value → Prop :=
  Mappings fun entries => ∀ a ∈ entries, ∀ b ∈ entries, ∀ s, a.1 = string s →
    b.1.keyText? = some s → b.1.IsString

/-- No item and no entry is lost, at any level: the items of a sequence correspond to those of an
array, and the entries of a mapping to the members of an object, each one under a key of its own
that is the text of its key. -/
inductive Keeps : Value → Json → Prop
  | scalar {v : Value} {j : Json} (hv : v.IsScalar) (h : v.toJson = .ok j) : Keeps v j
  | tagged {tag : String} {v : Value} {j : Json} (h : Keeps v j) : Keeps (.tagged tag v) j
  | sequence {items : List Value} {js : List Json} (h : List.Forall₂ Keeps items js) :
      Keeps (.sequence items) (.array js)
  | mapping {entries : List (Value × Value)} {members : Members}
      (hdistinct : (members.map (·.1)).Nodup)
      (hkeys : entries.map (·.1.keyText?) = members.map fun member => some member.1)
      (h : List.Forall₂ (fun entry member => Keeps entry.2 member.2) entries members) :
      Keeps (.mapping entries) (.object members)

section Mappings

theorem mappings_mapping {entries : List (Value × Value)} :
    (mapping entries).Mappings P ↔ P entries ∧ ∀ entry ∈ entries, entry.2.Mappings P := by
  constructor
  · intro h
    exact ⟨h entries (.self _), fun entry hentry es hes => h es (.value hentry hes)⟩
  · rintro ⟨hself, hparts⟩ es hes
    cases hes with
    | self => exact hself
    | value hentry hes => exact hparts _ hentry es hes

theorem mappings_sequence {items : List Value} :
    (sequence items).Mappings P ↔ ∀ v ∈ items, v.Mappings P := by
  constructor
  · exact fun h v hv es hes => h es (.item hv hes)
  · intro h es hes
    cases hes with
    | item hv hes => exact h _ hv es hes

theorem mappings_tagged {tag : String} : (tagged tag v).Mappings P ↔ v.Mappings P := by
  constructor
  · exact fun h es hes => h es (.tagged hes)
  · intro h es hes
    cases hes with
    | tagged hes => exact h es hes

theorem mappings_of_scalar (hv : v.IsScalar) : v.Mappings P := by
  intro es hes
  cases hes <;> cases hv

end Mappings

theorem Keeps.of_uses {w : Value} (hw : v.Uses w) (h : v.Keeps j) : ∃ k, w.Keeps k := by
  induction hw generalizing j with
  | self => exact ⟨j, h⟩
  | tagged _ ih =>
    cases h with
    | scalar hv => cases hv
    | tagged h => exact ih h
  | item hv _ ih =>
    cases h with
    | scalar hv => cases hv
    | sequence h =>
      obtain ⟨k, -, hk⟩ := exists_of_mem_right h.flip hv
      exact ih hk
  | value hv _ ih =>
    cases h with
    | scalar hv => cases hv
    | mapping _ _ h =>
      obtain ⟨member, -, hk⟩ := exists_of_mem_right h.flip hv
      exact ih hk

/-- Where nothing is lost the keys are written differently. -/
theorem Keeps.distinctTexts (h : v.Keeps j) : v.DistinctTexts := by
  intro entries hentries
  obtain ⟨k, hk⟩ := h.of_uses hentries
  cases hk with
  | scalar hv => cases hv
  | mapping hdistinct hkeys _ =>
    rw [hkeys, ← Function.comp_def, ← List.map_map]
    exact hdistinct.map (Option.some_injective _)

mutual

theorem keeps_of_toJson : (v : Value) → ∀ {j : Json}, v.DistinctTexts → v.toJson = .ok j → v.Keeps j
  | null | bool _ | integer _ | real _ | string _ => fun _ h => .scalar trivial h
  | tagged _ v => fun hd h => .tagged (keeps_of_toJson v (mappings_tagged.1 hd) h)
  | sequence items => fun hd h => by
    obtain ⟨js, hjs, rfl⟩ := map_eq_ok.1 h
    exact .sequence (keep_of_itemsToJson items (mappings_sequence.1 hd) hjs)
  | mapping entries => fun hd h => by
    obtain ⟨members, hmembers, rfl⟩ := map_eq_ok.1 h
    obtain ⟨htexts, hparts⟩ := mappings_mapping.1 hd
    obtain ⟨new, rfl, hkeys, hnew⟩ := keep_of_entriesToJson [] entries hparts htexts hmembers
    refine .mapping ?_ hkeys hnew
    rw [hkeys, ← Function.comp_def, ← List.map_map] at htexts
    exact htexts.of_map _

theorem keep_of_itemsToJson : (items : List Value) → ∀ {i : Nat} {js : List Json},
    (∀ v ∈ items, v.DistinctTexts) → itemsToJson i items = .ok js → List.Forall₂ Keeps items js
  | [] => fun _ h => by
    cases h
    exact .nil
  | v :: rest => fun hd h => by
    obtain ⟨hv, hrest⟩ := List.forall_mem_cons.1 hd
    obtain ⟨j, hj, h⟩ := bind_eq_ok.1 h
    obtain ⟨js, hjs, h⟩ := bind_eq_ok.1 h
    cases h
    exact .cons (keeps_of_toJson v hv (mapError_eq_ok.1 hj)) (keep_of_itemsToJson rest hrest hjs)

/-- Each entry goes to the end if no key before it is written like its own. -/
theorem keep_of_entriesToJson (seen : Members) :
    (entries : List (Value × Value)) → ∀ {members : Members},
      (∀ entry ∈ entries, entry.2.DistinctTexts) →
      ((seen.map fun member => some member.1) ++ entries.map (·.1.keyText?)).Nodup →
      entriesToJson seen entries = .ok members →
      ∃ new, members = seen ++ new ∧
        (entries.map (·.1.keyText?) = new.map fun member => some member.1) ∧
        List.Forall₂ (fun entry member => Keeps entry.2 member.2) entries new
  | [] => fun _ _ h => by
    cases h
    exact ⟨[], (List.append_nil _).symm, rfl, .nil⟩
  | (k, v) :: rest => fun hd htexts h => by
    obtain ⟨hv, hrest⟩ := List.forall_mem_cons.1 hd
    rw [entriesToJson] at h
    cases hk : k.keyText? with
    | none =>
      rw [hk] at h
      cases h
    | some key =>
      rw [hk] at h
      obtain ⟨j, hj, h⟩ := bind_eq_ok.1 h
      rw [List.map_cons, hk] at htexts
      have hnew : key ∉ seen.map (·.1) := by
        intro hmem
        obtain ⟨member, hmember, rfl⟩ := List.mem_map.1 hmem
        have hdisjoint := List.disjoint_of_nodup_append htexts
        exact hdisjoint (List.mem_map.2 ⟨member, hmember, rfl⟩) (.head _)
      rw [Members.insert_of_not_mem hnew] at h
      obtain ⟨new, rfl, hkeys, hkeep⟩ :=
        keep_of_entriesToJson _ rest hrest (by simpa using htexts) h
      refine ⟨(key, j) :: new, by simp, ?_, .cons ?_ hkeep⟩
      · rw [List.map_cons, List.map_cons, hk, hkeys]
      · exact keeps_of_toJson v hv (mapError_eq_ok.1 hj)

end

/-- If the keys of a mapping differ from each other, they are written differently unless a string
is written like a key of another kind. -/
theorem nodup_keyText?_iff {entries : List (Value × Value)}
    (hscalar : ∀ entry ∈ entries, entry.1.IsScalar)
    (hdistinct : entries.Pairwise fun a b => a.1.same b.1 = false) :
    (entries.map (·.1.keyText?)).Nodup ↔
      ∀ a ∈ entries, ∀ b ∈ entries, ∀ s, a.1 = string s → b.1.keyText? = some s →
        b.1.IsString := by
  constructor
  · intro hnodup a ha b hb s hs htext
    have hab : a.1.keyText? = b.1.keyText? := by rw [hs, htext, keyText?]
    have heq := List.inj_on_of_nodup_map hnodup ha hb hab
    exact ⟨s, heq ▸ hs⟩
  · intro hapart
    rw [List.Nodup, List.pairwise_map]
    refine hdistinct.imp_of_mem fun {a b} ha hb hdiffer htext => ?_
    cases hatext : a.1.keyText? with
    | none => exact keyText?_eq_none.1 hatext (hscalar a ha)
    | some text =>
      rw [hatext] at htext
      have hsame : a.1.same b.1 = true := by
        by_cases hastring : a.1.IsString
        · obtain ⟨s, hs⟩ := hastring
          obtain rfl : s = text := by simpa [hs, keyText?] using hatext
          obtain ⟨t, ht⟩ := hapart a ha b hb s hs htext.symm
          obtain rfl : s = t := by simpa [ht, keyText?] using htext
          rw [hs, ht, same, beq_self_eq_true]
        · refine same_of_keyText? hatext htext.symm hastring ?_
          rintro ⟨t, ht⟩
          obtain rfl : text = t := by simpa [ht, keyText?] using htext
          exact hastring (hapart b hb a ha text ht hatext)
      cases hdiffer.symm.trans hsame

theorem distinctTexts_iff (hform : v.HasJsonForm) (hdistinct : v.DistinctKeys) :
    v.DistinctTexts ↔ v.StringsApart :=
  forall₂_congr fun entries hentries =>
    nodup_keyText?_iff (hform.keys entries hentries) (hdistinct entries hentries)

/-- A document whose keys differ from each other loses no entry in the conversion if and only if no
string in it is written like a key of another kind next to it. -/
theorem load_keeps_entries_iff {v : Value} {source : String} {j : Json} (hdistinct : v.DistinctKeys)
    (h : v.load source = .ok j) : v.Keeps j ↔ v.StringsApart := by
  rw [load_eq] at h
  have hj : v.toJson = .ok j := mapError_eq_ok.1 h
  rw [← distinctTexts_iff (exists_toJson_iff.1 ⟨j, hj⟩) hdistinct]
  exact ⟨Keeps.distinctTexts, fun htexts => keeps_of_toJson v htexts hj⟩

def twinKeys : Value := mapping [(integer 1, string "a"), (string "1", string "b")]

/-- The first entry is lost. -/
theorem twinKeys_lost :
    twinKeys.DistinctKeys ∧
      twinKeys.load "doc.yaml" = .ok (.object [("1", .string "b")]) ∧
      ¬twinKeys.Keeps (.object [("1", .string "b")]) := by
  have hdistinct : twinKeys.DistinctKeys := by
    refine mappings_mapping.2 ⟨by simp [same], ?_⟩
    rintro entry hentry
    obtain rfl | rfl := List.mem_pair.1 hentry <;> exact mappings_of_scalar trivial
  have hload : twinKeys.load "doc.yaml" = .ok (.object [("1", .string "b")]) := by cbv
  refine ⟨hdistinct, hload, fun hkeeps => ?_⟩
  cases hkeeps with
  | scalar hv => cases hv
  | mapping _ _ h => cases h.length_eq

def innerEntries : List (Value × Value) :=
  [(bool true, null), (real .nan, null), (string "1", null)]

def outerEntries : List (Value × Value) :=
  [(integer 1, sequence [null, tagged "!t" (string "x")]), (string "one", mapping innerEntries)]

def outerJson : Json :=
  .object
    [("1", .array [.null, .string "x"]),
      ("one", .object [("true", .null), (".nan", .null), ("1", .null)])]

theorem mappings_outer (houter : P outerEntries) (hinner : P innerEntries) :
    (mapping outerEntries).Mappings P := by
  have hnull : null.Mappings P := mappings_of_scalar trivial
  have hstring : (string "x").Mappings P := mappings_of_scalar trivial
  have hmapping : (mapping innerEntries).Mappings P :=
    mappings_mapping.2 ⟨hinner, by simp [innerEntries, hnull]⟩
  refine mappings_mapping.2 ⟨houter, ?_⟩
  simp [outerEntries, mappings_sequence, mappings_tagged, hmapping, hnull, hstring]

/-- Keys of all kinds that are written differently in each mapping. -/
theorem outer_kept :
    (mapping outerEntries).DistinctKeys ∧ (mapping outerEntries).StringsApart ∧
      (mapping outerEntries).load "doc.yaml" = .ok outerJson ∧
      (mapping outerEntries).Keeps outerJson := by
  have hdistinct : (mapping outerEntries).DistinctKeys :=
    mappings_outer (by simp [outerEntries, same]) (by simp [innerEntries, same])
  have hone : intText 1 = "1" := by cbv
  have hapart : (mapping outerEntries).StringsApart :=
    mappings_outer (by simp [outerEntries, keyText?, IsString, hone])
      (by simp [innerEntries, keyText?, Real.text, IsString])
  have hload : (mapping outerEntries).load "doc.yaml" = .ok outerJson := by cbv
  exact ⟨hdistinct, hapart, hload, (load_keeps_entries_iff hdistinct hload).2 hapart⟩

end PayloadSchema.Yaml.Value
