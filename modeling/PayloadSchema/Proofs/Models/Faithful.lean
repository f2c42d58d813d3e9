import PayloadSchema.Models.Namespace
import PayloadSchema.Proofs.Models.Records

/-!
Typed payloads add no rules of their own. A model takes exactly the payloads that its composite
takes, and keeps what was omitted, null and set apart at every level.
-/
namespace PayloadSchema
open Outcome Models Validator

namespace NodeNamespace

inductive Mirrors : Members → NodeNamespace → Prop
  | unset {sent : Members} {name : String}
      (hname : Mirror.Required Mirror.text sent "namespace" name)
      (h : sent.lookup "children" = none) : Mirrors sent ⟨name, .unset⟩
  | null {sent : Members} {name : String}
      (hname : Mirror.Required Mirror.text sent "namespace" name)
      (h : sent.lookup "children" = some .null) : Mirrors sent ⟨name, .null⟩
  | value {sent : Members} {name : String} {sents : List Members} {children : List NodeNamespace}
      (hname : Mirror.Required Mirror.text sent "namespace" name)
      (h : sent.lookup "children" = some (.array (sents.map .object)))
      (hchildren : List.Forall₂ Mirrors sents children) : Mirrors sent ⟨name, .value children⟩

theorem exists_sents {raws : List Json} {children : List NodeNamespace}
    (h : List.Forall₂ (Mirror.object Mirrors) raws children) :
    ∃ sents : List Members, raws = sents.map .object ∧ List.Forall₂ Mirrors sents children := by
  induction h with
  | nil => exact ⟨[], rfl, .nil⟩
  | cons hchild _ ih =>
    obtain ⟨sent, rfl, hmirror⟩ := hchild
    obtain ⟨sents, rfl, hmirrors⟩ := ih
    exact ⟨sent :: sents, rfl, .cons hmirror hmirrors⟩

theorem mirrors_of_optional {sent : Members} {name : String}
    {children : Presence (List NodeNamespace)}
    (hname : Mirror.Required Mirror.text sent "namespace" name)
    (h : Mirror.Optional (Mirror.list (Mirror.object Mirrors)) sent "children" children) :
    Mirrors sent ⟨name, children⟩ := by
  cases children with
  | unset => exact .unset hname (h.unset_iff.1 rfl)
  | null => exact .null hname (h.null_iff.1 rfl)
  | value children =>
    obtain ⟨raw, hraw, raws, rfl, hraws⟩ := h.value children rfl
    obtain ⟨sents, rfl, hsents⟩ := exists_sents hraws
    exact .value hname hraw hsents

theorem readItems_eq (n : Nat) (items : List Instance) :
    readItems n items = Reading.items reading n items := by
  induction items generalizing n with
  | nil => rfl
  | cons i items ih => rw [readItems, Reading.items, ih]

theorem readList_eq (i : Instance) : readList i = Reading.list reading i := by
  cases i with
  | list items => exact readItems_eq 0 items
  | _ => rfl

theorem readEntries_eq (entries : List (String × Presence Instance)) :
    readEntries entries = entries.map fun e => (e.1, e.2.map (Reading.list reading)) := by
  induction entries with
  | nil => rfl
  | cons e entries ih =>
    obtain ⟨name, p⟩ := e
    cases p with
    | value i => rw [readEntries, readList_eq, ih]; rfl
    | _ => rw [readEntries, ih]; rfl

theorem lookup?_map {α β : Type} (c : Composite) (entries : List (String × α)) (g : α → β)
    (name : String) :
    c.lookup? (entries.map fun e => (e.1, g e.2)) name = (c.lookup? entries name).map g := by
  unfold Composite.lookup?
  cases c.position? name with
  | some i => simp [Function.comp_def]
  | none => simp [← List.map_drop, lookup_map]

/-- The children are read like any other list. -/
theorem readObject_eq (o : ObjectInstance) :
    readObject o = (do
      let name ← o.required Reading.string "namespace"
      let children ← o.optional (Reading.list reading) "children"
      pure ⟨name, children⟩) := by
  obtain ⟨c, entries⟩ := o
  have hchildren : ((c.lookup? (readEntries entries) "children").getD .unset).tryMap id =
      ((c.lookup? entries "children").getD .unset).tryMap (Reading.list reading) := by
    rw [readEntries_eq, lookup?_map]
    cases c.lookup? entries "children" with
    | none => rfl
    | some p => cases p <;> rfl
  rw [readObject, hchildren]
  rfl

theorem reading_eq : model.reading = reading := by
  funext i
  cases i <;> rfl

theorem readsObject {depth n : Nat} :
    (validator depth).ReadsObject n nodeNamespaceSchema model.read Mirrors := by
  induction n with
  | zero => exact fun room hroom => absurd hroom room.not_lt_zero
  | succ n ih =>
    have hlist : (validator depth).Reads (n + 1) (listOf (.ref nodeNamespace))
        (Reading.list reading) (Mirror.list (Mirror.object Mirrors)) :=
      reading_eq ▸ reads_composites (c := nodeNamespaceSchema) (by simp [composites]) ih
    intro room hroom sent entries run
    obtain ⟨name, hname, mname⟩ := run.required_eq_ok hroom "namespace" rfl (reads_text _)
    obtain ⟨children, hchildren, mchildren⟩ := run.optional_eq_ok hroom "children" rfl hlist
    refine ⟨⟨name, children⟩, ?_, mirrors_of_optional mname mchildren⟩
    simp only [model, readObject_eq, hname, hchildren, ok_bind]
    rfl

end NodeNamespace

/-- A model takes exactly the payloads that the composite of its name takes, fails with the error of
the composite and with no other, and mirrors what was sent. -/
structure Model.AddsNoRules {α : Type} (m : Model α) (c : Composite) (mirror : Members → α → Prop) :
    Prop where
  composite : registry.composite? m.schemaName.text = some c
  ok_iff : ∀ depth raw, (∃ a, m.parseWith (validator depth) raw = .ok a) ↔
    ∃ o, (validator depth).validateObject m.schemaName.text raw = .ok o
  error_iff : ∀ depth raw e, m.parseWith (validator depth) raw = .error e ↔
    ∃ e', e = .validation e' ∧
      (validator depth).validateObject m.schemaName.text raw = .error e'
  mirrors : ∀ depth raw a, m.parseWith (validator depth) raw = .ok a →
    Mirror.object mirror raw a

namespace Model
variable {α : Type} {m : Model α} {c : Composite} {mirror : Members → α → Prop} {depth : Nat}

theorem exists_of_validateObject (hc : c ∈ composites) (hm : m.schemaName = c.name)
    (h : ∀ n, (validator depth).ReadsObject n c m.read mirror) {raw : Json} {o : ObjectInstance}
    (hrun : (validator depth).validateObject m.schemaName.text raw = .ok o) :
    ∃ a, m.read o = .ok a ∧ Mirror.object mirror raw a := by
  rw [validateObject, hm, composite?_eq hc] at hrun
  obtain ⟨f, sent, entries, hparts, rfl, hrequired, hmembers, rfl⟩ := applyComposite_eq_ok.1 hrun
  cases depth with
  | zero => cases hparts
  | succ room =>
    cases hparts
    obtain ⟨a, ha, hmirror⟩ := h _ room room.lt_succ_self sent entries ⟨hrequired, hmembers⟩
    exact ⟨a, ha, sent, rfl, hmirror⟩

/-- The two ways in which a payload is taken as a model. -/
theorem parseWith_cases (hc : c ∈ composites) (hm : m.schemaName = c.name)
    (h : ∀ n, (validator depth).ReadsObject n c m.read mirror) (raw : Json) :
    (∃ o a, (validator depth).validateObject m.schemaName.text raw = .ok o ∧
      m.parseWith (validator depth) raw = .ok a ∧ Mirror.object mirror raw a) ∨
    ∃ e, (validator depth).validateObject m.schemaName.text raw = .error e ∧
      m.parseWith (validator depth) raw = .error (.validation e) := by
  unfold parseWith
  cases hrun : (validator depth).validateObject m.schemaName.text raw with
  | ok o =>
    obtain ⟨a, ha, hmirror⟩ := exists_of_validateObject hc hm h hrun
    exact .inl ⟨o, a, rfl, mapError_eq_ok.2 ha, hmirror⟩
  | error e => exact .inr ⟨e, rfl, rfl⟩

theorem addsNoRules (hc : c ∈ composites) (hm : m.schemaName = c.name)
    (h : ∀ depth n, (validator depth).ReadsObject n c m.read mirror) :
    m.AddsNoRules c mirror := by
  have hcases := fun depth => parseWith_cases hc hm (h depth)
  refine ⟨hm ▸ composite?_eq hc, fun depth raw => ?_, fun depth raw e => ?_,
    fun depth raw a ha => ?_⟩
  · rcases hcases depth raw with ⟨o, a, ho, ha, -⟩ | ⟨e, he, hparse⟩
    · simp [ho, ha]
    · simp [he, hparse]
  · rcases hcases depth raw with ⟨o, a, ho, ha, -⟩ | ⟨e', he, hparse⟩
    · simp [ho, ha]
    · simp [he, hparse, eq_comm]
  · rcases hcases depth raw with ⟨o, b, ho, hb, hmirror⟩ | ⟨e, he, hparse⟩
    · cases ha.symm.trans hb
      exact hmirror
    · cases ha.symm.trans hparse

end Model

/-- All eleven models. -/
theorem Models.add_no_rules :
    AttributeType.model.AddsNoRules attributeTypeNameSchema AttributeType.Mirrors ∧
    ColumnAttribute.model.AddsNoRules columnAttributeSchema ColumnAttribute.Mirrors ∧
    ColumnAttributeInput.model.AddsNoRules columnAttributeInputSchema ColumnAttributeInput.Mirrors ∧
    Column.model.AddsNoRules columnSchema Column.Mirrors ∧
    SourceColumn.model.AddsNoRules sourceColumnSchema SourceColumn.Mirrors ∧
    Catalog.model.AddsNoRules catalogSchema Catalog.Mirrors ∧
    Engine.model.AddsNoRules engineSchema Engine.Mirrors ∧
    NodeNamespace.model.AddsNoRules nodeNamespaceSchema NodeNamespace.Mirrors ∧
    SourceNodeInput.model.AddsNoRules sourceNodeInputSchema SourceNodeInput.Mirrors ∧
    MetricInput.model.AddsNoRules metricInputSchema MetricInput.Mirrors ∧
    CubeInput.model.AddsNoRules cubeInputSchema CubeInput.Mirrors := by
  refine ⟨?_, ?_, ?_, ?_, ?_, ?_, ?_, ?_, ?_, ?_, ?_⟩
  · exact Model.addsNoRules (by simp [composites]) rfl fun _ _ => AttributeType.readsObject
  · exact Model.addsNoRules (by simp [composites]) rfl fun _ _ => ColumnAttribute.readsObject
  · exact Model.addsNoRules (by simp [composites]) rfl fun _ _ => ColumnAttributeInput.readsObject
  · exact Model.addsNoRules (by simp [composites]) rfl fun _ _ => Column.readsObject
  · exact Model.addsNoRules (by simp [composites]) rfl fun _ _ => SourceColumn.readsObject
  · exact Model.addsNoRules (by simp [composites]) rfl fun _ _ => Catalog.readsObject
  · exact Model.addsNoRules (by simp [composites]) rfl fun _ _ => Engine.readsObject
  · exact Model.addsNoRules (by simp [composites]) rfl fun _ _ => NodeNamespace.readsObject
  · exact Model.addsNoRules (by simp [composites]) rfl fun _ _ => SourceNodeInput.readsObject
  · exact Model.addsNoRules (by simp [composites]) rfl fun _ _ => MetricInput.readsObject
  · exact Model.addsNoRules (by simp [composites]) rfl fun _ _ => CubeInput.readsObject

end PayloadSchema
