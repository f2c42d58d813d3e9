import PayloadSchema.Yaml.Value
import PayloadSchema.Json.Reader
import PayloadSchema.Number.Scientific

/-! What plain scalars stand for: null, booleans, integers, floats, and otherwise text. -/
namespace PayloadSchema.Yaml.Plain

def isNull (cs : List Char) : Bool :=
  ["null", "Null", "NULL", "~"].any (·.toList == cs)

def bool? (cs : List Char) : Option Bool :=
  if ["true", "True", "TRUE"].any (·.toList == cs) then some true
  else if ["false", "False", "FALSE"].any (·.toList == cs) then some false
  else none

def natural? (base : Nat) (cs : List Char) : Option Nat := do
  let ds ← cs.mapM Json.hexValue?
  if ds.isEmpty || ds.any (fun d => decide (base ≤ d)) then none
  else some (ds.foldl (fun n d => base * n + d) 0)

def based : List Char → Nat × List Char
  | '0' :: 'x' :: rest => (16, rest)
  | '0' :: 'o' :: rest => (8, rest)
  | '0' :: 'b' :: rest => (2, rest)
  | cs => (10, cs)

def unsigned : List Char → List Char
  | '+' :: rest => rest
  | '-' :: rest => rest
  | cs => cs

/-- Digits after a leading zero are no number. -/
def isPadded (cs : List Char) : Bool :=
  match unsigned cs with
  | '0' :: rest => !rest.isEmpty && rest.all Char.isDigit
  | _ => false

def integer? (cs : List Char) : Option Int :=
  if isPadded cs then none
  else
    let (base, digits) := based (unsigned cs)
    (natural? base digits).map fun n =>
      match cs with
      | '-' :: _ => -(n : Int)
      | _ => (n : Int)

/-- Integers have 64 bits, signed or not. Greater ones of up to 128 bits are refused, and those
beyond are no integers at all. -/
inductive Size where
  | machine
  | refused
  | beyond
  deriving DecidableEq, Repr

def size (i : Int) : Size :=
  if -(pow2 63 : Int) ≤ i ∧ i < pow2 64 then .machine
  else if -(pow2 127 : Int) ≤ i ∧ i < pow2 128 then .refused
  else .beyond

def real? (cs : List Char) : Option Real :=
  let positive := match cs with
    | '+' :: rest => rest
    | _ => cs
  let signs := match cs with
    | '+' :: '+' :: _ => true
    | '+' :: '-' :: _ => true
    | _ => false
  if signs then none
  else if [".inf", ".Inf", ".INF"].any (·.toList == positive) then some (.infinite false)
  else if ["-.inf", "-.Inf", "-.INF"].any (·.toList == cs) then some (.infinite true)
  else if [".nan", ".NaN", ".NAN"].any (·.toList == cs) then some .nan
  else do
    let s ← Scientific.read? positive
    let x ← Binary64.ofScientific? s
    pure (.finite x)

/-- The value of a plain scalar; none if it is an integer that is refused. -/
def resolve? (cs : List Char) : Option Value :=
  if cs.isEmpty || isNull cs then some .null
  else
    match bool? cs with
    | some b => some (.bool b)
    | none =>
      match (integer? cs).map fun i => (i, size i) with
      | some (i, .machine) => some (.integer i)
      | some (_, .refused) => none
      | _ =>
        match if isPadded cs then none else real? cs with
        | some x => some (.real x)
        | none => some (.string (String.ofList cs))

end PayloadSchema.Yaml.Plain
