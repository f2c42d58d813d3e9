import PayloadSchema.Schema.Basic

/-!
Equality of schemas: they are built alike, with patterns compared by their source, bounds by their
value and allowed values as JSON values.
-/
namespace PayloadSchema

def sameOption {α : Type} (same : α → α → Bool) : Option α → Option α → Bool
  | none, none => true
  | some a, some b => same a b
  | _, _ => false

def Constraints.same (a b : Constraints) : Bool :=
  a.minLength == b.minLength && a.maxLength == b.maxLength
    && a.pattern.map (·.source) == b.pattern.map (·.source)
    && sameOption Json.sameItems a.allowed b.allowed
    && sameOption Decimal.same a.minimum b.minimum
    && sameOption Decimal.same a.maximum b.maximum
    && sameOption Decimal.same a.exclusiveMinimum b.exclusiveMinimum
    && sameOption Decimal.same a.exclusiveMaximum b.exclusiveMaximum

namespace Schema

mutual

def same : Schema → Schema → Bool
  | primitive k c, primitive l d => k == l && c.same d
  | list s a b, list t c d => same s t && a == c && b == d
  | dict s, dict t => same s t
  | object c, object d => sameComposite c d
  | ref m, ref n => m == n
  | union ss, union ts => sameList ss ts
  | _, _ => false

def sameList : List Schema → List Schema → Bool
  | [], [] => true
  | s :: ss, t :: ts => same s t && sameList ss ts
  | _, _ => false

def sameComposite : Composite → Composite → Bool
  | ⟨m, a, fs, p⟩, ⟨n, b, gs, q⟩ => m == n && a == b && sameFields fs gs && samePolicy p q

def sameFields : List Field → List Field → Bool
  | [], [] => true
  | ⟨m, s, r, n, d⟩ :: fs, ⟨m', s', r', n', d'⟩ :: gs =>
    m == m' && same s s' && r == r' && n == n' && d == d' && sameFields fs gs
  | _, _ => false

def samePolicy : Policy → Policy → Bool
  | .any, .any => true
  | .forbidden, .forbidden => true
  | .typed s, .typed t => same s t
  | _, _ => false

end

end Schema
end PayloadSchema
