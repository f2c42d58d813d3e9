import PayloadSchema.Schema.Basic

/-!
Registered schemas, by name and in the order of their names. A name that is taken is never given
another schema. References are followed through at most 32 look-ups.
-/
namespace PayloadSchema

/-- The entries stand in the order of their names, each name once. -/
structure Registry where
  entries : List (SchemaName × Schema)
  sorted : entries.Pairwise fun a b => a.1.text < b.1.text

namespace Registry

def empty : Registry := ⟨[], .nil⟩

instance : Inhabited Registry := ⟨empty⟩

def get? (r : Registry) (name : String) : Option Schema :=
  (r.entries.find? (·.1.text == name)).map (·.2)

def contains (r : Registry) (name : String) : Bool := r.entries.any (·.1.text == name)

def names (r : Registry) : List String := r.entries.map (·.1.text)

def size (r : Registry) : Nat := r.entries.length

def place (name : SchemaName) (schema : Schema) :
    List (SchemaName × Schema) → List (SchemaName × Schema)
  | [] => [(name, schema)]
  | e :: rest =>
    if name.text < e.1.text then (name, schema) :: e :: rest else e :: place name schema rest

theorem mem_place {name : SchemaName} {schema : Schema} {es : List (SchemaName × Schema)}
    {e : SchemaName × Schema} : e ∈ place name schema es ↔ e = (name, schema) ∨ e ∈ es := by
  induction es with
  | nil => simp [place]
  | cons d es ih =>
    simp only [place]
    split <;> simp [ih, or_left_comm]

theorem sorted_place {name : SchemaName} {schema : Schema} {es : List (SchemaName × Schema)}
    (hs : es.Pairwise fun a b => a.1.text < b.1.text) (hn : ∀ e ∈ es, e.1.text ≠ name.text) :
    (place name schema es).Pairwise fun a b => a.1.text < b.1.text := by
  induction es with
  | nil => simp [place]
  | cons d es ih =>
    obtain ⟨hd, hes⟩ := List.pairwise_cons.1 hs
    simp only [place]
    split
    · rename_i hlt
      refine List.pairwise_cons.2 ⟨fun e he => ?_, hs⟩
      rcases List.mem_cons.1 he with rfl | he
      · exact hlt
      · exact String.lt_trans hlt (hd e he)
    · rename_i hge
      refine List.pairwise_cons.2 ⟨fun e he => ?_, ih hes fun e he => hn e (.tail _ he)⟩
      rcases mem_place.1 he with rfl | he
      · exact Std.lt_of_le_of_ne (String.not_lt.1 hge) (hn d (.head _))
      · exact hd e he

theorem text_ne_of_not_contains {r : Registry} {name : SchemaName}
    (h : ¬ r.contains name.text = true) : ∀ e ∈ r.entries, e.1.text ≠ name.text := by
  intro e he heq
  exact h (List.any_eq_true.2 ⟨e, he, by simp [heq]⟩)

def register (r : Registry) (name : SchemaName) (schema : Schema) : Except SchemaError Registry :=
  if h : r.contains name.text then .error (.duplicate name.text)
  else .ok ⟨place name schema r.entries, sorted_place r.sorted (text_ne_of_not_contains h)⟩

def registerComposite (r : Registry) (c : Composite) : Except SchemaError Registry :=
  r.register c.name (.object c)

/-- Registers schemas in order up to the first name that is taken; those before it stay. -/
def registerAll (r : Registry) : List (SchemaName × Schema) → Registry × Option SchemaError
  | [] => (r, none)
  | (name, schema) :: rest =>
    match r.register name schema with
    | .ok r => r.registerAll rest
    | .error e => (r, some e)

def merge (r other : Registry) : Registry × Option SchemaError := r.registerAll other.entries

def require (r : Registry) (name : String) : Except SchemaError Schema :=
  match r.get? name with
  | some s => .ok s
  | none => .error (.unknown name)

/-- The number of look-ups after which a chain of references is given up. -/
def maxHops : Nat := 32

/-- The composite that a schema is, or refers to through at most `n - 1` references. -/
def compositeFrom (r : Registry) : Nat → Schema → Option Composite
  | 0, _ => none
  | _ + 1, .object c => some c
  | n + 1, .ref name =>
    match r.get? name.text with
    | some s => r.compositeFrom n s
    | none => none
  | _ + 1, _ => none

def composite? (r : Registry) (name : String) : Option Composite :=
  (r.get? name).bind (r.compositeFrom maxHops)

def requireComposite (r : Registry) (name : String) : Except SchemaError Composite := do
  let schema ← r.require name
  match r.composite? name with
  | some c => .ok c
  | none =>
    .error (.invalidDeclaration name ("expected a composite, found " ++ schema.typeName))

/-- Follows references with `n` steps left; a chain that is too long is blamed on its start. -/
def resolveFrom (r : Registry) (start : String) : Nat → Schema → Except ValidationError Schema
  | 0, _ => .error (.here (.unresolvedReference start))
  | n + 1, .ref name =>
    match r.get? name.text with
    | some s => r.resolveFrom start n s
    | none => .error (.here (.unresolvedReference name.text))
  | _ + 1, s => .ok s

def resolve (r : Registry) (s : Schema) : Except ValidationError Schema :=
  r.resolveFrom s.typeName maxHops s

/-- References to names that are not registered, by referrer and then by place. -/
def unresolved (r : Registry) : List (SchemaName × SchemaName) :=
  r.entries.flatMap fun (referrer, s) =>
    (s.references.filter fun target => !r.contains target.text).map fun target =>
      (referrer, target)

end Registry
end PayloadSchema
