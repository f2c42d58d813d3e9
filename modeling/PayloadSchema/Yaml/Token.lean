/-! The tokens of a YAML text. -/
namespace PayloadSchema.Yaml

inductive Token where
  | streamEnd
  /-- A `%YAML` line. -/
  | version (major minor : Nat)
  /-- A `%TAG` line: a handle and what it stands for. -/
  | tagHandle (handle : List Char) (stem : List UInt8)
  | documentStart
  | documentEnd
  | blockSequenceStart
  | blockMappingStart
  /-- The end of a block sequence or mapping. -/
  | blockEnd
  | flowSequenceStart
  | flowSequenceEnd
  | flowMappingStart
  | flowMappingEnd
  | blockEntry
  | flowEntry
  | key
  | value
  | aliasTo (name : List Char)
  | anchor (name : List Char)
  | tag (handle : List Char) (suffix : List UInt8)
  | scalar (text : List Char) (plain : Bool)
  deriving DecidableEq, Repr

end PayloadSchema.Yaml
