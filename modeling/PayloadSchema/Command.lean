import PayloadSchema.Document
import PayloadSchema.Json.Printer
import PayloadSchema.Models.Schemas
import PayloadSchema.Wrapper

/-!
The commands: what they print and how they fail. Reading files and printing are left to the caller.
-/
namespace PayloadSchema.Command

inductive Failure where
  /-- A name that is not registered; the hint helps to find the right one. -/
  | unusable (name hint : String) (cause : SchemaError)
  | validating (path : String) (cause : DocumentError)
  | loading (folder : String) (cause : SchemaError)
  deriving DecidableEq, Repr

namespace Failure

/-- The messages from the circumstances down to the cause. -/
def chain : Failure → List String
  | unusable name hint cause =>
    ["cannot use schema '" ++ name ++ "' (" ++ hint ++ ")", cause.message]
  | validating path cause =>
    ["validating " ++ path, cause.message,
      match cause with
      | .schema e => e.message
      | .validation e => e.message]
  | loading folder cause => ["loading declarations from " ++ folder, cause.message]

def numbered (causes : List String) : List String :=
  match causes with
  | [cause] => ["    " ++ cause]
  | causes => causes.zipIdx.map fun (cause, i) => "    " ++ natText i ++ ": " ++ cause

def text (f : Failure) : String :=
  match f.chain with
  | [] => "Error"
  | [message] => "Error: " ++ message
  | message :: causes =>
    "Error: " ++ message ++ "\n\nCaused by:\n" ++ "\n".intercalate (numbered causes)

end Failure

def occursIn (cs : List Char) : List Char → Bool
  | [] => cs.isEmpty
  | d :: ds => cs.isPrefixOf (d :: ds) || occursIn cs ds

def lowered (s : String) : List Char := s.toList.map Char.toLower

/-- Names that contain the given one, whatever the case of letters. -/
def hint (r : Registry) (name : String) : String :=
  match r.names.filter fun n => occursIn (lowered name) (lowered n) with
  | [] => "see `djs list` for registered names"
  | similar => "did you mean " ++ ", ".intercalate similar ++ "?"

def unusable (r : Registry) (name : String) (cause : SchemaError) : Failure :=
  .unusable name (hint r name) cause

def loadRegistry (folder : Option (String × Option (List FolderEntry))) :
    Except Failure Registry :=
  match folder with
  | none => .ok Models.registry
  | some (path, entries) =>
    match Models.registry.loadFolder path entries with
    | (r, .ok _) => .ok r
    | (_, .error e) => .error (.loading path e)

def list (r : Registry) : String :=
  let width := (r.names.map (·.utf8ByteSize)).foldl max 0
  String.join (r.entries.map fun (name, s) =>
    Wrapper.padTo width name.text ++ "  " ++ s.typeName ++ "\n")

def describe (r : Registry) (name : String) : Except Failure String := do
  let s ← (r.require name).mapError (unusable r name)
  match r.composite? name with
  | some c => pure (Wrapper.summary c)
  | none => pure (name ++ " = " ++ s.typeName ++ "\n")

def generate (r : Registry) (name : String) : Except Failure String :=
  match r.requireComposite name with
  | .ok c => .ok (Wrapper.source c)
  | .error e => .error (unusable r name e)

def report (name : String) (e : ValidationError) : Json :=
  .object
    [("model", .string name), ("valid", .bool false), ("path", .string e.path.text),
      ("error", .string e.cause.message)]

def validate (r : Registry) (name path : String) (content : Option (List UInt8)) (json : Bool) :
    Except Failure (Bool × String) :=
  match r.validateDocument name path content with
  | .ok i => .ok (true, i.encode.pretty ++ "\n")
  | .error (.validation e) =>
    let out := if json then (report name e).pretty
      else "invalid " ++ name ++ ": " ++ e.message
    .ok (false, out ++ "\n")
  | .error (.schema (.unknown n)) => .error (unusable r name (.unknown n))
  | .error e => .error (.validating path e)

end PayloadSchema.Command
