import PayloadSchema.Schema.Basic
import PayloadSchema.Text.Case

/-!
Source text of typed wrappers in Rust, and summaries of composites for readers. A wrapper is a
struct with one field for each declared field, and reads them from a validated object.
-/
namespace PayloadSchema.Wrapper

/-- Words that need a raw mark to be used as a field. -/
def keywords : List String :=
  ["as", "async", "await", "break", "const", "continue", "dyn", "else", "enum", "extern", "false",
    "fn", "for", "if", "impl", "in", "let", "loop", "match", "mod", "move", "mut", "pub", "ref",
    "return", "static", "struct", "trait", "true", "type", "unsafe", "use", "where", "while",
    "abstract", "become", "box", "do", "final", "macro", "override", "priv", "try", "typeof",
    "unsized", "virtual", "yield"]

/-- Words that cannot be fields even with a raw mark. -/
def reserved : List String := ["self", "Self", "super", "crate", "_"]

def startsWithDigit : List Char → Bool
  | [] => false
  | c :: _ => c.isDigit

def joinWords (capital : Bool) : List Char → List Char
  | [] => []
  | c :: rest =>
    if c = '_' ∨ c = '-' then joinWords true rest
    else if capital then Text.capitals c ++ joinWords false rest
    else c :: joinWords false rest

/-- The type for a schema: the part of its name after the last dot, its words joined. -/
def typeIdent (name : String) : String :=
  let cs := joinWords true (name.toList.reverse.takeWhile (· != '.')).reverse
  String.ofList (if cs.isEmpty || startsWithDigit cs then 'T' :: cs else cs)

/-- A field name in small letters, digits and underscores, not starting with a digit. -/
def fieldWord (name : String) : List Char :=
  let cs := name.toList.map fun c => if c.isAlphanum then c.toLower else '_'
  if cs.isEmpty || startsWithDigit cs then '_' :: cs else cs

def fieldIdent (name : String) : String :=
  let word := String.ofList (fieldWord name)
  if reserved.contains word then word ++ "_"
  else if keywords.contains word then "r#" ++ word
  else word

inductive FieldType where
  | string
  | integer
  | float
  | decimal
  | boolean
  | bytes
  | date
  | dateTime
  | uuid
  | json
  | list (items : FieldType)
  | dict (values : FieldType)
  /-- An object that has no wrapper. -/
  | object
  /-- The wrapper of another schema. -/
  | wrapper (name : SchemaName)
  /-- Any validated value. -/
  | anything
  deriving DecidableEq

namespace FieldType

def ofKind : Kind → FieldType
  | .string => string
  | .integer => integer
  | .float => float
  | .decimal => decimal
  | .boolean => boolean
  | .bytes => bytes
  | .date => date
  | .dateTime => dateTime
  | .uuid => uuid
  | .any => json
  | .null => json

def ofSchema : Schema → FieldType
  | .primitive kind _ => ofKind kind
  | .list items _ _ => list (ofSchema items)
  | .dict values => dict (ofSchema values)
  | .object _ => object
  | .ref name => wrapper name
  | .union _ => anything

def text : FieldType → String
  | string => "String"
  | integer => "i64"
  | float => "f64"
  | decimal => "rust_decimal::Decimal"
  | boolean => "bool"
  | bytes => "Vec<u8>"
  | date => "chrono::NaiveDate"
  | dateTime => "chrono::DateTime<chrono::FixedOffset>"
  | uuid => "uuid::Uuid"
  | json => "serde_json::Value"
  | list items => "Vec<" ++ text items ++ ">"
  | dict values => "std::collections::BTreeMap<String, " ++ text values ++ ">"
  | object => "ObjectInstance"
  | wrapper name => typeIdent name.text
  | anything => "Instance"

end FieldType

inductive Accessor where
  | required
  | nullable
  | optional
  deriving DecidableEq, Repr

namespace Accessor

def ofField (f : Field) : Accessor :=
  if !f.required then optional else if f.nullable then nullable else required

def text : Accessor → String
  | required => "required"
  | nullable => "nullable"
  | optional => "optional"

def wrap (inner : String) : Accessor → String
  | required => inner
  | nullable => "Option<" ++ inner ++ ">"
  | optional => "Presence<" ++ inner ++ ">"

end Accessor

/-- Drops a carriage return from the end of a line that a line feed has ended. -/
def dropReturn (line : List Char) : List Char :=
  if line.getLast? = some '\r' then line.dropLast else line

/-- The lines of a text; an empty one after the last line feed does not count. -/
def lines : List Char → List Char → List String
  | seen, [] => if seen.isEmpty then [] else [String.ofList seen.reverse]
  | seen, c :: rest =>
    if c = '\n' then String.ofList (dropReturn seen.reverse) :: lines [] rest
    else lines (c :: seen) rest

def docLines (c : Composite) : List String :=
  match c.description with
  | some text => (lines [] text.toList).map fun line => "/// " ++ line ++ "\n"
  | none => ["/// Typed view of a validated `" ++ c.name.text ++ "`.\n"]

def structField (f : Field) : List String :=
  (match f.description with
    | some text => ["    /// " ++ text ++ "\n"]
    | none => [])
    ++ ["    pub " ++ fieldIdent f.name ++ ": "
      ++ (Accessor.ofField f).wrap (FieldType.ofSchema f.schema).text ++ ",\n"]

def readField (f : Field) : String :=
  "            " ++ fieldIdent f.name ++ ": obj." ++ (Accessor.ofField f).text ++ "("
    ++ Text.quoted f.name ++ ")?,\n"

def blocks (c : Composite) : List String :=
  let type := typeIdent c.name.text
  ["// Generated by `djs codegen` from schema `" ++ c.name.text ++ "`.\n\n",
    "use dj_core::Presence;\n",
    "use dj_schema::\x7bAccessError, FromInstance, Instance, ObjectInstance\x7d;\n\n"]
    ++ docLines c
    ++ ["#[derive(Debug, Clone, PartialEq)]\n", "pub struct " ++ type ++ " \x7b\n"]
    ++ c.fields.flatMap structField
    ++ ["\x7d\n\n", "impl " ++ type ++ " \x7b\n",
      "    pub const SCHEMA_NAME: &'static str = " ++ Text.quoted c.name.text ++ ";\n",
      "\x7d\n\n", "impl FromInstance for " ++ type ++ " \x7b\n",
      "    fn from_instance(instance: &Instance) -> Result<Self, AccessError> \x7b\n",
      "        let obj = ObjectInstance::from_instance(instance)?;\n", "        Ok(Self \x7b\n"]
    ++ c.fields.map readField
    ++ ["        \x7d)\n", "    \x7d\n", "\x7d\n"]

def source (c : Composite) : String := String.join (blocks c)

def padTo (width : Nat) (s : String) : String :=
  s ++ String.ofList (List.replicate (width - s.length) ' ')

def flagsText (f : Field) : String :=
  match (if f.required then ["required"] else []) ++ (if f.nullable then ["nullable"] else []) with
  | [] => ""
  | flags => "  [" ++ ", ".intercalate flags ++ "]"

def policyText : Policy → String
  | .forbidden => "forbidden"
  | .any => "any"
  | .typed s => s.typeName

/-- A summary for readers: the policy on further fields, the description, and a line for each field.
The column of names is as wide as the longest one has bytes. -/
def summary (c : Composite) : String :=
  let width := (c.fields.map (·.name.utf8ByteSize)).foldl max 0
  String.join
    ([c.name.text ++ " (additional fields: " ++ policyText c.additional ++ ")\n"]
      ++ (match c.description with
        | some text => ["  " ++ text ++ "\n"]
        | none => [])
      ++ c.fields.map fun f =>
        "  " ++ padTo width f.name ++ "  " ++ f.schema.typeName ++ flagsText f ++ "\n")

end PayloadSchema.Wrapper
