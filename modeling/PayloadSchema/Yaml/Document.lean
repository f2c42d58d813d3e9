import PayloadSchema.Yaml.Event
import PayloadSchema.Yaml.Plain
import PayloadSchema.Yaml.Token.Scan

/-!
The value of a YAML text. An alias stands for the node that it names. Collections may be nested 128
deep, and aliases may be followed at most a hundred times as often as there are events, so that a
short text has no huge value.
-/
namespace PayloadSchema.Yaml

inductive LinkedEvent where
  | aliasTo (id : Nat)
  | scalar (tag : Option (List UInt8)) (text : List Char) (plain : Bool)
  | sequenceStart (tag : Option (List UInt8))
  | sequenceEnd
  | mappingStart (tag : Option (List UInt8))
  | mappingEnd

structure Linked where
  events : List LinkedEvent
  targets : List (Nat × List LinkedEvent)

/-- Numbers the anchors. A name has as its number how many names were known before it was last
given, so that a name given again may share the number of a later one. -/
def number (names : List (List Char × Nat)) :
    List Event → Option (List (Option Nat × LinkedEvent))
  | [] => some []
  | e :: rest =>
    match e with
    | .aliasTo name => do
      let id ← names.lookup name
      let rest ← number names rest
      pure ((none, .aliasTo id) :: rest)
    | .scalar p text plain => do
      let (id, names) := add p.anchor
      let rest ← number names rest
      pure ((id, .scalar p.tag text plain) :: rest)
    | .sequenceStart p => do
      let (id, names) := add p.anchor
      let rest ← number names rest
      pure ((id, .sequenceStart p.tag) :: rest)
    | .mappingStart p => do
      let (id, names) := add p.anchor
      let rest ← number names rest
      pure ((id, .mappingStart p.tag) :: rest)
    | .sequenceEnd => do
      let rest ← number names rest
      pure ((none, .sequenceEnd) :: rest)
    | .mappingEnd => do
      let rest ← number names rest
      pure ((none, .mappingEnd) :: rest)
where
  add (anchor : Option (List Char)) : Option Nat × List (List Char × Nat) :=
    match anchor with
    | some name => (some names.length, (name, names.length) :: names.filter (·.1 != name))
    | none => (none, names)

/-- The places of numbered events; of two with the same number the later one counts. -/
def targets : List (Option Nat × LinkedEvent) → List (Nat × List LinkedEvent)
  | [] => []
  | (some id, e) :: rest => targets rest ++ [(id, e :: rest.map (·.2))]
  | (none, _) :: rest => targets rest

def link? (events : List Event) : Option Linked := do
  let numbered ← number [] events
  pure ⟨numbered.map (·.2), targets numbered⟩

def isLocal (tag : Option (List UInt8)) : Bool :=
  match tag with
  | some (b :: _) => b == 33
  | _ => false

/-- A name without the mark at its start; the lone mark is its own name. -/
def withoutMark : List UInt8 → List UInt8
  | [b] => [b]
  | b :: rest => if b == 33 then rest else b :: rest
  | [] => []

/-- Tags that start with a mark are local. Their name is what follows it, and one more mark there
does not count. -/
def localTag? (tag : Option (List UInt8)) : Option String :=
  match tag with
  | some bs =>
    if isLocal tag then String.fromUTF8? ⟨(withoutMark (withoutMark bs)).toArray⟩ else none
  | none => none

def coreTag (name : String) : Option (List UInt8) :=
  some (Event.bytesOf ("tag:yaml.org,2002:" ++ name))

/-- A scalar whose tag has no local name. Core tags of types must fit the text; otherwise it is a
text if it is not plain or has a tag that is not local. -/
def scalar? (tag : Option (List UInt8)) (text : List Char) (plain : Bool) : Option Value :=
  if tag == coreTag "bool" then (Plain.bool? text).map .bool
  else if tag == coreTag "int" then
    match (Plain.integer? text).map fun i => (i, Plain.size i) with
    | some (i, .machine) => some (.integer i)
    | _ => none
  else if tag == coreTag "float" then (Plain.real? text).map .real
  else if tag == coreTag "null" then if Plain.isNull text then some .null else none
  else if (tag.isNone || isLocal tag) && plain then Plain.resolve? text
  else some (.string (String.ofList text))

structure Budget where
  depth : Nat
  jumps : Nat

def withTag (tag : Option (List UInt8)) (v : Value) : Value :=
  match localTag? tag with
  | some name => .tagged name v
  | none => v

mutual

def readValue (targets : List (Nat × List LinkedEvent)) :
    Nat → Budget → List LinkedEvent → Option (Value × Nat × List LinkedEvent)
  | 0, _, _ => none
  | fuel + 1, b, events =>
    match events with
    | .aliasTo id :: rest =>
      match b.jumps with
      | 0 => none
      | jumps + 1 => do
        let target ← targets.lookup id
        let (v, jumps, _) ← readValue targets fuel ⟨b.depth, jumps⟩ target
        pure (v, jumps, rest)
    | .scalar tag text plain :: rest => do
      let v ←
        if (localTag? tag).isSome then scalar? none text plain else scalar? tag text plain
      pure (withTag tag v, b.jumps, rest)
    | .sequenceStart tag :: rest =>
      match b.depth with
      | 0 => none
      | depth + 1 => do
        let (items, jumps, rest) ← readItems targets fuel ⟨depth, b.jumps⟩ rest
        pure (withTag tag (.sequence items), jumps, rest)
    | .mappingStart tag :: rest =>
      match b.depth with
      | 0 => none
      | depth + 1 => do
        let (entries, jumps, rest) ← readEntries targets fuel ⟨depth, b.jumps⟩ [] rest
        pure (withTag tag (.mapping entries), jumps, rest)
    | _ => none

def readItems (targets : List (Nat × List LinkedEvent)) :
    Nat → Budget → List LinkedEvent → Option (List Value × Nat × List LinkedEvent)
  | 0, _, _ => none
  | fuel + 1, b, events =>
    match events with
    | .sequenceEnd :: rest => some ([], b.jumps, rest)
    | events => do
      let (v, jumps, rest) ← readValue targets fuel b events
      let (vs, jumps, rest) ← readItems targets fuel ⟨b.depth, jumps⟩ rest
      pure (v :: vs, jumps, rest)

/-- Reads entries after some others, last one first; a key that is there already is refused. -/
def readEntries (targets : List (Nat × List LinkedEvent)) :
    Nat → Budget → List (Value × Value) → List LinkedEvent →
    Option (List (Value × Value) × Nat × List LinkedEvent)
  | 0, _, _, _ => none
  | fuel + 1, b, seen, events =>
    match events with
    | .mappingEnd :: rest => some (seen.reverse, b.jumps, rest)
    | events => do
      let (k, jumps, rest) ← readValue targets fuel b events
      if seen.any fun (l, _) => l.same k then none
      else
        let (v, jumps, rest) ← readValue targets fuel ⟨b.depth, jumps⟩ rest
        readEntries targets fuel ⟨b.depth, jumps⟩ ((k, v) :: seen) rest

end

def maxDepth : Nat := 128

/-- The value of a document; a text without one has none, that is null. -/
def Value.ofEvents? (events : List Event) : Option Value :=
  match events with
  | [] => some .null
  | events => do
    let linked ← link? events
    let n := events.length
    let (v, _, _) ←
      readValue linked.targets ((maxDepth + 2) * (2 * n + 4)) ⟨maxDepth, 100 * n⟩ linked.events
    pure v

def Value.parse? (text : String) : Option Value := do
  let tokens ← Token.scan? text.toList
  let events ← Event.ofTokens? tokens
  Value.ofEvents? events

end PayloadSchema.Yaml
