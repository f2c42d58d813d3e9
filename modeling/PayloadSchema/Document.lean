import PayloadSchema.Declaration.Schema
import PayloadSchema.Json.Reader
import PayloadSchema.Validation.Validator
import PayloadSchema.Yaml.Document
import PayloadSchema.Yaml.ToJson

/-!
Documents in files: payloads and declarations, in JSON or YAML. What a file or a folder holds is
given, so that nothing here reads one.
-/
namespace PayloadSchema

namespace Document

/-- What follows the last dot of the file's name, unless that dot comes first. -/
def extension (path : String) : String :=
  let name := (path.toList.reverse.takeWhile (· != '/')).reverse
  match name with
  | [] => ""
  | _ :: tail =>
    if tail.contains '.' then String.ofList (tail.reverse.takeWhile (· != '.')).reverse else ""

def parse (path : String) (content : Option (List UInt8)) : Except SchemaError Json :=
  match content.bind fun bytes => String.fromUTF8? ⟨bytes.toArray⟩ with
  | none => .error (.load path "cannot read file")
  | some text =>
    if extension path = "yaml" ∨ extension path = "yml" then
      match Yaml.Value.parse? text with
      | some v => v.load path
      | none => .error (.load path "invalid YAML")
    else
      match Json.parse? text with
      | some v => .ok v
      | none => .error (.load path "invalid JSON")

end Document

/-- An entry of a folder; only a file has content. -/
structure FolderEntry where
  name : String
  isFile : Bool
  content : Option (List UInt8)

namespace Registry

def loadFile (r : Registry) (path : String) (content : Option (List UInt8)) :
    Registry × Except SchemaError Nat :=
  match Document.parse path content with
  | .ok document => r.load document path
  | .error e => (r, .error e)

def isDeclarationName (name : String) : Bool :=
  Declaration.fileSuffixes.any fun suffix => suffix.toList.isSuffixOf name.toList

def isDeclarationFile (e : FolderEntry) : Bool := e.isFile && isDeclarationName e.name

/-- Registers files one after the other up to the first failure; `total` counts the schemas
before. -/
def loadFiles (r : Registry) (folder : String) (total : Nat) :
    List FolderEntry → Registry × Except SchemaError Nat
  | [] => (r, .ok total)
  | e :: rest =>
    match r.loadFile (folder ++ (if folder.endsWith "/" then "" else "/") ++ e.name) e.content with
    | (r, .ok n) => r.loadFiles folder (total + n) rest
    | (r, .error e) => (r, .error e)

/-- Registers the declaration files of a folder in the order of their names; none if the folder
cannot be read. -/
def loadFolder (r : Registry) (folder : String) (entries : Option (List FolderEntry)) :
    Registry × Except SchemaError Nat :=
  match entries with
  | none => (r, .error (.load folder "cannot read schema directory"))
  | some entries =>
    let files := (entries.filter isDeclarationFile).mergeSort fun a b => decide (a.name ≤ b.name)
    r.loadFiles folder 0 files

def validateDocument (r : Registry) (name path : String) (content : Option (List UInt8)) :
    Except DocumentError Instance := do
  let _ ← (r.require name).mapError .schema
  let payload ← (Document.parse path content).mapError .schema
  ((Validator.new r).validateNamed name payload).mapError .validation

end Registry
end PayloadSchema
