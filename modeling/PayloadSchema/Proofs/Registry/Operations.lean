import Mathlib
import PayloadSchema.Proofs.Document
import PayloadSchema.Proofs.Validation.Stability

/-!
What becomes of a registry over time. Whatever is asked of it, it only ever takes in new names, and
it takes in the entries of a request up to the first name that is taken. So a name keeps its schema
over every run of operations, whether they succeed or fail.
-/
namespace PayloadSchema
open Outcome

namespace Registry
variable {r r' : Registry} {name : SchemaName} {s : Schema} {es : List (SchemaName × Schema)}

theorem register_eq_ok (h : r.register name s = .ok r') :
    r.contains name.text = false ∧ ∀ e, e ∈ r'.entries ↔ e = (name, s) ∨ e ∈ r.entries := by
  unfold register at h
  split at h
  · cases h
  · rename_i hfree
    cases h
    exact ⟨by simpa using hfree, fun e => mem_place⟩

theorem register_eq_error {e : SchemaError} (h : r.register name s = .error e) :
    r.contains name.text = true ∧ e = .duplicate name.text := by
  unfold register at h
  split at h
  · rename_i htaken
    cases h
    exact ⟨htaken, rfl⟩
  · cases h

structure Adds (r : Registry) (added : List (SchemaName × Schema)) (r' : Registry) : Prop where
  mem_iff : ∀ e, e ∈ r'.entries ↔ e ∈ added ∨ e ∈ r.entries
  fresh : ∀ e ∈ added, r.contains e.1.text = false
  distinct : (added.map (·.1.text)).Nodup

theorem Adds.nil (r : Registry) : r.Adds [] r := ⟨by simp, by simp, by simp⟩

theorem Adds.cons {r₁ : Registry} (h : r.register name s = .ok r₁) (hes : r₁.Adds es r') :
    r.Adds ((name, s) :: es) r' := by
  obtain ⟨hfree, hmem⟩ := register_eq_ok h
  have hes_fresh : ∀ e ∈ es, e.1.text ≠ name.text ∧ r.contains e.1.text = false := by
    intro e he
    have hnot : ¬r₁.contains e.1.text = true := by simp [hes.fresh e he]
    rw [contains_iff] at hnot
    constructor
    · intro heq
      exact hnot ⟨(name, s), (hmem _).2 (.inl rfl), heq.symm⟩
    · rw [← Bool.not_eq_true, contains_iff]
      rintro ⟨d, hd, heq⟩
      exact hnot ⟨d, (hmem d).2 (.inr hd), heq⟩
  refine ⟨fun e => ?_, fun e he => ?_, ?_⟩
  · rw [hes.mem_iff, hmem, List.mem_cons, or_left_comm, or_assoc]
  · rcases List.mem_cons.1 he with rfl | he
    · exact hfree
    · exact (hes_fresh e he).2
  · refine List.nodup_cons.2 ⟨fun hmem => ?_, hes.distinct⟩
    obtain ⟨e, he, heq⟩ := List.mem_map.1 hmem
    exact (hes_fresh e he).1 heq

theorem Adds.extends (h : r.Adds es r') : r'.Extends r := by
  intro text s hs
  obtain ⟨e, he, rfl, rfl⟩ := mem_of_get? hs
  exact get?_of_mem ((h.mem_iff e).2 (.inr he))

/-- Entries are taken in up to the first one whose name is taken, by the registry or by an entry
before it. -/
def StopsAt (r : Registry) (es : List (SchemaName × Schema)) (text : String) (r' : Registry) :
    Prop :=
  ∃ before clash after, es = before ++ clash :: after ∧ clash.1.text = text ∧ r.Adds before r' ∧
    (r.contains text = true ∨ text ∈ before.map (·.1.text))

theorem StopsAt.cons {r₁ : Registry} {text : String} (h : r.register name s = .ok r₁)
    (hes : r₁.StopsAt es text r') : r.StopsAt ((name, s) :: es) text r' := by
  obtain ⟨before, clash, after, rfl, hclash, hadds, htaken⟩ := hes
  refine ⟨(name, s) :: before, clash, after, rfl, hclash, hadds.cons h, ?_⟩
  rw [List.map_cons, List.mem_cons]
  rcases htaken with htaken | htaken
  · obtain ⟨e, he, heq⟩ := contains_iff.1 htaken
    rcases ((register_eq_ok h).2 e).1 he with rfl | he
    · exact .inr (.inl heq.symm)
    · exact .inl (contains_iff.2 ⟨e, he, heq⟩)
  · exact .inr (.inr htaken)

/-- Entries are all registered, or up to the first name that is taken. -/
theorem registerAll_cases (r : Registry) (es : List (SchemaName × Schema)) :
    (∃ r', r.registerAll es = (r', none) ∧ r.Adds es r') ∨
      ∃ r' text, r.registerAll es = (r', some (.duplicate text)) ∧ r.StopsAt es text r' := by
  induction es generalizing r with
  | nil => exact .inl ⟨r, rfl, .nil r⟩
  | cons e es ih =>
    obtain ⟨name, s⟩ := e
    cases hr : r.register name s with
    | error e =>
      obtain ⟨htaken, rfl⟩ := register_eq_error hr
      refine .inr ⟨r, name.text, by rw [registerAll, hr], ?_⟩
      exact ⟨[], (name, s), es, rfl, rfl, .nil r, .inl htaken⟩
    | ok r₁ =>
      rw [registerAll, hr]
      rcases ih r₁ with ⟨r', hrun, hadds⟩ | ⟨r', text, hrun, hstops⟩
      · exact .inl ⟨r', hrun, hadds.cons hr⟩
      · exact .inr ⟨r', text, hrun, hstops.cons hr⟩

/-- What can be asked of a registry. Documents and files come with what they hold. -/
inductive Operation where
  | register (name : SchemaName) (schema : Schema)
  | registerComposite (composite : Composite)
  | merge (other : Registry)
  | load (document : Json) (source : String)
  | loadFile (path : String) (content : Option (List UInt8))

def Operation.entries : Operation → Except SchemaError (List (SchemaName × Schema))
  | register name s => .ok [(name, s)]
  | registerComposite c => .ok [(c.name, .object c)]
  | merge other => .ok other.entries
  | load document source => Declaration.parse document source
  | loadFile path content => do
    let document ← Document.parse path content
    Declaration.parse document path

/-- The registry after an attempt, and why it failed; a failed one leaves it as it was. -/
def orKeep (r : Registry) : Except SchemaError Registry → Registry × Option SchemaError
  | .ok r' => (r', none)
  | .error e => (r, some e)

def failure? {α : Type} : Except SchemaError α → Option SchemaError
  | .ok _ => none
  | .error e => some e

def perform (r : Registry) : Operation → Registry × Option SchemaError
  | .register name s => r.orKeep (r.register name s)
  | .registerComposite c => r.orKeep (r.registerComposite c)
  | .merge other => r.merge other
  | .load document source => ((r.load document source).1, failure? (r.load document source).2)
  | .loadFile path content => ((r.loadFile path content).1, failure? (r.loadFile path content).2)

/-- The registry after operations one after the other, failed ones included. -/
def run (r : Registry) (ops : List Operation) : Registry :=
  ops.foldl (fun r op => (r.perform op).1) r

theorem orKeep_register (r : Registry) (name : SchemaName) (s : Schema) :
    r.orKeep (r.register name s) = r.registerAll [(name, s)] := by
  rw [registerAll]
  cases r.register name s <;> rfl

theorem load_eq (r : Registry) (document : Json) (source : String) :
    ((r.load document source).1, failure? (r.load document source).2) =
      match Declaration.parse document source with
      | .ok es => r.registerAll es
      | .error e => (r, some e) := by
  unfold load
  cases Declaration.parse document source with
  | error e => rfl
  | ok es =>
    cases hrun : r.registerAll es with
    | mk r' failure => cases failure <;> simp [hrun, failure?]

/-- Every operation reads its entries first and then registers them in order. -/
theorem perform_eq (r : Registry) (op : Operation) :
    r.perform op =
      match op.entries with
      | .ok es => r.registerAll es
      | .error e => (r, some e) := by
  cases op with
  | register name s => exact orKeep_register r name s
  | registerComposite c => exact orKeep_register r c.name (.object c)
  | merge other => rfl
  | load document source => exact load_eq r document source
  | loadFile path content =>
    simp only [perform, loadFile, Operation.entries]
    cases Document.parse path content with
    | error e => rfl
    | ok document => exact load_eq r document path

/-- What an operation can do: fail before it registers anything, register all its entries, or stop
at the first name that is taken. -/
theorem perform_cases (r : Registry) (op : Operation) :
    (∃ e, op.entries = .error e ∧ r.perform op = (r, some e)) ∨
      (∃ es r', op.entries = .ok es ∧ r.perform op = (r', none) ∧ r.Adds es r') ∨
      ∃ es r' text, op.entries = .ok es ∧ r.perform op = (r', some (.duplicate text)) ∧
        r.StopsAt es text r' := by
  rw [perform_eq]
  cases hes : op.entries with
  | error e => exact .inl ⟨e, rfl, rfl⟩
  | ok es =>
    rcases registerAll_cases r es with ⟨r', hrun, hadds⟩ | ⟨r', text, hrun, hstops⟩
    · exact .inr (.inl ⟨es, r', rfl, hrun, hadds⟩)
    · exact .inr (.inr ⟨es, r', text, rfl, hrun, hstops⟩)

theorem extends_perform (r : Registry) (op : Operation) : (r.perform op).1.Extends r := by
  rcases perform_cases r op with
    ⟨e, -, hop⟩ | ⟨es, r', -, hop, hadds⟩ | ⟨es, r', text, -, hop, hstops⟩
  · rw [hop]
    exact fun _ _ h => h
  · rw [hop]
    exact hadds.extends
  · rw [hop]
    obtain ⟨before, clash, after, -, -, hadds, -⟩ := hstops
    exact hadds.extends

theorem extends_run (r : Registry) (ops : List Operation) : (r.run ops).Extends r := by
  induction ops generalizing r with
  | nil => exact fun _ _ h => h
  | cons op ops ih => exact fun text s h => ih _ text s (extends_perform r op text s h)

end Registry

namespace Registry

theorem Operation.delivers_loadFile (path : String) (content : Option (List UInt8)) :
    Delivers (fun es => ∀ e ∈ es, e.2.IsNamed) (entries (.loadFile path content)) :=
  (Document.delivers_parse path content).bind fun document _ =>
    Declaration.delivers_parse document path

theorem Operation.ne_duplicate (op : Operation) (name : String) :
    op.entries ≠ .error (.duplicate name) := by
  cases op with
  | load document source => exact (Declaration.delivers_parse document source).ne_duplicate
  | loadFile path content => exact (delivers_loadFile path content).ne_duplicate
  | _ => simp [entries]

/-- A single registration fails only if the name is taken, and then changes nothing. -/
theorem orKeep_register_eq_some {r : Registry} {name : SchemaName} {s : Schema} {e : SchemaError}
    (h : (r.orKeep (r.register name s)).2 = some e) :
    (r.orKeep (r.register name s)).1 = r ∧ r.contains name.text = true ∧
      e = .duplicate name.text := by
  cases hr : r.register name s with
  | ok r' =>
    rw [hr] at h
    cases h
  | error d =>
    rw [hr] at h
    cases h
    exact ⟨rfl, register_eq_error hr⟩

/-- A name keeps its schema, whatever is asked of the registry afterwards and however that ends. A
single registration that fails changes nothing, nor does an operation whose entries cannot be read;
one that fails because a name is taken has added the entries before the first such name. -/
theorem bindings_are_kept (r : Registry) :
    (∀ (earlier later : List Operation) (text : String) (s : Schema),
        (r.run earlier).get? text = some s → (r.run (earlier ++ later)).get? text = some s) ∧
      (∀ name s e, (r.perform (.register name s)).2 = some e →
        (r.perform (.register name s)).1 = r ∧ r.contains name.text = true ∧
          e = .duplicate name.text) ∧
      (∀ c e, (r.perform (.registerComposite c)).2 = some e →
        (r.perform (.registerComposite c)).1 = r ∧ r.contains c.name.text = true ∧
          e = .duplicate c.name.text) ∧
      (∀ op e, Operation.entries op = .error e → r.perform op = (r, some e)) ∧
      ∀ op text, (r.perform op).2 = some (.duplicate text) →
        ∃ es, op.entries = .ok es ∧ r.StopsAt es text (r.perform op).1 := by
  refine ⟨fun earlier later text s h => ?_, fun name s e => orKeep_register_eq_some,
    fun c e => orKeep_register_eq_some, fun op e he => by rw [perform_eq, he],
    fun op text h => ?_⟩
  · rw [run, List.foldl_append]
    exact extends_run _ later text s h
  · rcases perform_cases r op with
      ⟨e, he, hop⟩ | ⟨es, r', -, hop, -⟩ | ⟨es, r', other, hes, hop, hstops⟩
    · rw [hop, Option.some.injEq] at h
      subst h
      exact absurd he (op.ne_duplicate text)
    · rw [hop] at h
      cases h
    · rw [hop] at h ⊢
      cases h
      exact ⟨es, hes, hstops⟩

def textRegistry : Registry :=
  ⟨[(Validator.textName, .leaf .string)], List.pairwise_singleton _ _⟩

def clashingDocument : Json :=
  .array
    [.object [("name", .string "Amount"), ("type", .string "number")],
      .object [("name", .string "Text"), ("type", .string "integer")],
      .object [("name", .string "Unit"), ("type", .string "string")]]

/-- The declaration before the clash is registered and the one after it is not; later attempts do
not change what the name means. -/
theorem clashingDocument_kept :
    (textRegistry.perform (.load clashingDocument "units")).2 = some (.duplicate "Text") ∧
      (textRegistry.perform (.load clashingDocument "units")).1.names = ["Amount", "Text"] ∧
      (∃ es, Operation.entries (.load clashingDocument "units") = .ok es ∧
        textRegistry.StopsAt es "Text"
          (textRegistry.perform (.load clashingDocument "units")).1) ∧
      (textRegistry.run [.load clashingDocument "units", .merge Validator.nestTextRegistry]).get?
        "Text" = some (.leaf .string) := by
  have hclash : (textRegistry.perform (.load clashingDocument "units")).2 =
      some (.duplicate "Text") := by
    decide +kernel
  have hnames : (textRegistry.perform (.load clashingDocument "units")).1.names =
      ["Amount", "Text"] := by
    decide +kernel
  obtain ⟨hkept, -, -, -, hstops⟩ := bindings_are_kept textRegistry
  exact ⟨hclash, hnames, hstops _ _ hclash, hkept [] _ "Text" (.leaf .string) rfl⟩

end Registry
end PayloadSchema
