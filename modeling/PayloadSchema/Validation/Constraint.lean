import PayloadSchema.Validation.Conversion

/-!
Constraints on leaves. They are checked in a fixed order: lengths, pattern, bounds, allowed values;
the first one that fails is reported.
-/
namespace PayloadSchema

/-- The length that length constraints speak of: characters of a text, bytes of a byte string. -/
def Instance.length? : Instance → Option Nat
  | string s => some s.length
  | bytes bs => some bs.length
  | _ => none

/-- A number against a bound. A float is compared by its decimal form, or as a float if it has
none. -/
def Instance.compare? (i : Instance) (bound : Decimal) : Option Ordering :=
  match i with
  | integer n => some (Ord.compare (n * pow10 bound.scale) bound.signed)
  | decimal d => some (d.compare bound)
  | float x =>
    match Decimal.ofBinary64? x with
    | some d => some (d.compare bound)
    | none => bound.toBinary64?.map x.compare
  | _ => none

namespace Constraints

def violated (name detail : String) : Except ValidationError Unit :=
  .error (.here (.constraint name detail))

def checkLength (c : Constraints) (i : Instance) : Except ValidationError Unit :=
  match i.length? with
  | .none => .ok ()
  | some n => do
    if let some least := c.minLength then
      if n < least then
        violated "min_length"
          ("length " ++ natText n ++ " is below the minimum of " ++ natText least)
    if let some most := c.maxLength then
      if most < n then
        violated "max_length"
          ("length " ++ natText n ++ " exceeds the maximum of " ++ natText most)

def checkPattern (c : Constraints) (i : Instance) : Except ValidationError Unit :=
  match c.pattern, i with
  | some p, .string s =>
    if p.isFoundIn s then .ok ()
    else violated "pattern" (Text.quoted s ++ " does not match " ++ Text.quoted p.source)
  | _, _ => .ok ()

def checkBound (i : Instance) (name : String) (bound : Option Decimal) (holds : Ordering → Bool) :
    Except ValidationError Unit :=
  match bound with
  | .none => .ok ()
  | some b =>
    match i.compare? b with
    | some o =>
      if holds o then .ok ()
      else violated name (i.encode.compact ++ " violates " ++ name ++ " " ++ b.text)
    | .none => .ok ()

def checkBounds (c : Constraints) (i : Instance) : Except ValidationError Unit := do
  checkBound i "minimum" c.minimum (·.isGE)
  checkBound i "maximum" c.maximum (·.isLE)
  checkBound i "exclusive_minimum" c.exclusiveMinimum (·.isGT)
  checkBound i "exclusive_maximum" c.exclusiveMaximum (·.isLT)

def checkAllowed (c : Constraints) (i : Instance) : Except ValidationError Unit :=
  match c.allowed with
  | .none => .ok ()
  | some vs =>
    if vs.any (·.same i.encode) then .ok ()
    else
      violated "enum"
        (i.encode.compact ++ " is not one of [" ++ ", ".intercalate (vs.map Json.compact) ++ "]")

def check (c : Constraints) (i : Instance) : Except ValidationError Unit := do
  c.checkLength i
  c.checkPattern i
  c.checkBounds i
  c.checkAllowed i

end Constraints

def Kind.coerce (kind : Kind) (c : Constraints) (raw : Json) : Except ValidationError Instance :=
  match kind.convert raw with
  | .value i => do
    c.check i
    pure i
  | .outOfRange literal target =>
    .error (.here (.constraint "range" (literal ++ " does not fit " ++ target)))
  | .wrongShape => .error (.here (.typeMismatch kind.name raw.shape))

end PayloadSchema
