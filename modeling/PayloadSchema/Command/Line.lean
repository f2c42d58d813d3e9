/-! Command lines: a command with its arguments, and options that may stand anywhere. -/
namespace PayloadSchema.Command

inductive Request where
  /-- Validates the payload in a file; `json` asks for a report that programs can read. -/
  | validate (model file : String) (json : Bool)
  | list
  | describe (model : String)
  | generate (model : String)
  | help
  deriving DecidableEq, Repr

structure Line where
  /-- A folder with further declarations. -/
  schemas : Option String
  request : Request
  deriving DecidableEq, Repr

namespace Line

structure Options where
  schemas : Option String
  json : Bool
  help : Bool

def usage : String :=
  "Usage: djs [--schemas <DIR>] [--log-level <LEVEL>] [--log-json] <COMMAND>\n\n"
    ++ "Commands:\n"
    ++ "  validate <MODEL> <FILE> [--json]  Validate a JSON or YAML payload against a named model\n"
    ++ "  list                              List registered schema names\n"
    ++ "  show <MODEL>                      Print the declaration summary of a schema\n"
    ++ "  codegen <MODEL>                   Print typed-wrapper Rust source for a composite\n"

def split (o : Options) (words : List String) : List String → Except String (Options × List String)
  | [] => .ok (o, words.reverse)
  | "--schemas" :: dir :: rest => split { o with schemas := some dir } words rest
  | "--log-level" :: _ :: rest => split o words rest
  | "--log-json" :: rest => split o words rest
  | "--json" :: rest => split { o with json := true } words rest
  | "--help" :: rest => split { o with help := true } words rest
  | "-h" :: rest => split { o with help := true } words rest
  | arg :: rest =>
    match arg.splitOn "=" with
    | "--schemas" :: parts => split { o with schemas := some ("=".intercalate parts) } words rest
    | "--log-level" :: _ => split o words rest
    | _ =>
      if arg.startsWith "-" && arg != "-" then .error ("unexpected argument '" ++ arg ++ "' found")
      else split o (arg :: words) rest

def request? (o : Options) : List String → Option Request
  | ["validate", model, file] => some (.validate model file o.json)
  | ["list"] => if o.json then none else some .list
  | ["show", model] => if o.json then none else some (.describe model)
  | ["codegen", model] => if o.json then none else some (.generate model)
  | _ => none

/-- Reads a command line; `folder` is the folder of declarations if no option names one. -/
def parse (folder : Option String) (args : List String) : Except String Line := do
  let (o, words) ← split ⟨none, false, false⟩ [] args
  if o.help then pure ⟨none, .help⟩
  else
    match request? o words with
    | some r => pure ⟨o.schemas.or folder, r⟩
    | none => .error "the command or its arguments are not understood"

end Line
end PayloadSchema.Command
