import PayloadSchema.Yaml.Token

/-!
The structure of a document as a sequence of events: scalars, aliases, and the starts and ends of
collections. What is left out, such as the value of a key, is an empty plain scalar.
-/
namespace PayloadSchema.Yaml

structure Properties where
  anchor : Option (List Char)
  tag : Option (List UInt8)
  deriving DecidableEq, Repr

def Properties.none : Properties := ⟨.none, .none⟩

inductive Event where
  | aliasTo (name : List Char)
  | scalar (properties : Properties) (text : List Char) (plain : Bool)
  | sequenceStart (properties : Properties)
  | sequenceEnd
  | mappingStart (properties : Properties)
  | mappingEnd
  deriving DecidableEq, Repr

namespace Event

def empty : Event := scalar .none [] true

abbrev Handles := List (List Char × List UInt8)

def bytesOf (s : String) : List UInt8 := s.toUTF8.toList

def defaultHandles : Handles :=
  [(['!'], bytesOf "!"), (['!', '!'], bytesOf "tag:yaml.org,2002:")]

def resolveTag (handles : Handles) (handle : List Char) (suffix : List UInt8) :
    Option (List UInt8) :=
  if handle.isEmpty then some suffix else (handles.lookup handle).map (· ++ suffix)

def readProperties (handles : Handles) : List Token → Option (Properties × List Token)
  | .anchor a :: .tag h s :: rest => do
    let tag ← resolveTag handles h s
    pure (⟨some a, some tag⟩, rest)
  | .tag h s :: .anchor a :: rest => do
    let tag ← resolveTag handles h s
    pure (⟨some a, some tag⟩, rest)
  | .anchor a :: rest => some (⟨some a, none⟩, rest)
  | .tag h s :: rest => do
    let tag ← resolveTag handles h s
    pure (⟨none, some tag⟩, rest)
  | rest => some (.none, rest)

def isNext (tokens : List Token) (ts : List Token) : Bool := tokens.head?.any ts.contains

mutual

/-- Reads a node, with events so far, last one first. Block collections are read only in a block,
and block entries without a deeper indentation only as a value or a key of a block mapping. -/
def readNode (handles : Handles) (block bare : Bool) :
    Nat → List Event → List Token → Option (List Event × List Token)
  | 0, _, _ => none
  | fuel + 1, es, tokens =>
    match tokens with
    | .aliasTo name :: rest => some (aliasTo name :: es, rest)
    | tokens => do
      let (p, tokens) ← readProperties handles tokens
      if bare && isNext tokens [.blockEntry] then
        readBareEntries handles fuel (sequenceStart p :: es) tokens
      else
        match tokens with
        | .scalar text plain :: rest => some (scalar p text plain :: es, rest)
        | .flowSequenceStart :: rest =>
          readFlowItems handles true fuel (sequenceStart p :: es) rest
        | .flowMappingStart :: rest => readFlowPairs handles true fuel (mappingStart p :: es) rest
        | .blockSequenceStart :: rest =>
          if block then readBlockEntries handles fuel (sequenceStart p :: es) rest else none
        | .blockMappingStart :: rest =>
          if block then readBlockPairs handles fuel (mappingStart p :: es) rest else none
        | rest => if p == .none then none else some (scalar p [] true :: es, rest)

def readNodeUnless (handles : Handles) (block bare : Bool) (ends : List Token) :
    Nat → List Event → List Token → Option (List Event × List Token)
  | 0, _, _ => none
  | fuel + 1, es, tokens =>
    if isNext tokens ends then some (empty :: es, tokens)
    else readNode handles block bare fuel es tokens

def readValue (handles : Handles) (block : Bool) (ends : List Token) :
    Nat → List Event → List Token → Option (List Event × List Token)
  | 0, _, _ => none
  | fuel + 1, es, tokens =>
    match tokens with
    | .value :: rest => readNodeUnless handles block block ends fuel es rest
    | rest => some (empty :: es, rest)

def readBlockEntries (handles : Handles) :
    Nat → List Event → List Token → Option (List Event × List Token)
  | 0, _, _ => none
  | fuel + 1, es, tokens =>
    match tokens with
    | .blockEntry :: rest => do
      let (es, rest) ←
        readNodeUnless handles true false [.blockEntry, .blockEnd] fuel es rest
      readBlockEntries handles fuel es rest
    | .blockEnd :: rest => some (sequenceEnd :: es, rest)
    | _ => none

/-- Reads entries that stand at the indentation of the mapping around them. -/
def readBareEntries (handles : Handles) :
    Nat → List Event → List Token → Option (List Event × List Token)
  | 0, _, _ => none
  | fuel + 1, es, tokens =>
    match tokens with
    | .blockEntry :: rest => do
      let (es, rest) ←
        readNodeUnless handles true false [.blockEntry, .key, .value, .blockEnd] fuel es rest
      readBareEntries handles fuel es rest
    | rest => some (sequenceEnd :: es, rest)

def readBlockPairs (handles : Handles) :
    Nat → List Event → List Token → Option (List Event × List Token)
  | 0, _, _ => none
  | fuel + 1, es, tokens =>
    match tokens with
    | .key :: rest => do
      let ends := [.key, .value, .blockEnd]
      let (es, rest) ← readNodeUnless handles true true ends fuel es rest
      let (es, rest) ← readValue handles true ends fuel es rest
      readBlockPairs handles fuel es rest
    | .blockEnd :: rest => some (mappingEnd :: es, rest)
    | _ => none

/-- Reads items up to the closing bracket; commas divide them. A single pair is a mapping of its
own. -/
def readFlowItems (handles : Handles) (first : Bool) :
    Nat → List Event → List Token → Option (List Event × List Token)
  | 0, _, _ => none
  | fuel + 1, es, tokens =>
    match tokens with
    | .flowSequenceEnd :: rest => some (sequenceEnd :: es, rest)
    | tokens => do
      let tokens ← match first, tokens with
        | true, tokens => some tokens
        | false, .flowEntry :: rest => some rest
        | false, _ => none
      match tokens with
      | .key :: rest =>
        let (es, rest) ← readFlowKey handles fuel (mappingStart .none :: es) rest
        let (es, rest) ← readValue handles false [.flowEntry, .flowSequenceEnd] fuel es rest
        readFlowItems handles false fuel (mappingEnd :: es) rest
      | .flowSequenceEnd :: rest => some (sequenceEnd :: es, rest)
      | tokens =>
        let (es, rest) ← readNode handles false false fuel es tokens
        readFlowItems handles false fuel es rest

/-- Reads the key of a single pair. Where it is left out, the token after it is passed over. -/
def readFlowKey (handles : Handles) :
    Nat → List Event → List Token → Option (List Event × List Token)
  | 0, _, _ => none
  | fuel + 1, es, tokens =>
    if isNext tokens [.value, .flowEntry, .flowSequenceEnd] then some (empty :: es, tokens.drop 1)
    else readNode handles false false fuel es tokens

def readFlowPairs (handles : Handles) (first : Bool) :
    Nat → List Event → List Token → Option (List Event × List Token)
  | 0, _, _ => none
  | fuel + 1, es, tokens =>
    match tokens with
    | .flowMappingEnd :: rest => some (mappingEnd :: es, rest)
    | tokens => do
      let tokens ← match first, tokens with
        | true, tokens => some tokens
        | false, .flowEntry :: rest => some rest
        | false, _ => none
      match tokens with
      | .key :: rest =>
        let (es, rest) ←
          readNodeUnless handles false false [.value, .flowEntry, .flowMappingEnd] fuel es rest
        let (es, rest) ← readValue handles false [.flowEntry, .flowMappingEnd] fuel es rest
        readFlowPairs handles false fuel es rest
      | .flowMappingEnd :: rest => some (mappingEnd :: es, rest)
      | tokens =>
        let (es, rest) ← readNode handles false false fuel es tokens
        readFlowPairs handles false fuel (empty :: es) rest

end

/-- The directives before a document: at most one version, which is 1.1 or 1.2, and each handle at
most once. -/
def readDirectives (versioned : Bool) (handles : Handles) :
    List Token → Option (Handles × List Token)
  | .version major minor :: rest =>
    if versioned || major != 1 || !(minor == 1 || minor == 2) then none
    else readDirectives true handles rest
  | .tagHandle handle stem :: rest =>
    if (handles.lookup handle).isSome then none
    else readDirectives versioned (handles ++ [(handle, stem)]) rest
  | rest => some (handles, rest)

def isFinished : List Token → Bool
  | .documentEnd :: rest => isFinished rest
  | [.streamEnd] => true
  | _ => false

def startsExplicitly : List Token → Bool
  | .version _ _ :: _ => true
  | .tagHandle _ _ :: _ => true
  | .documentStart :: _ => true
  | _ => false

def endsExplicitly (tokens : List Token) : Bool :=
  startsExplicitly tokens || isNext tokens [.documentEnd, .streamEnd]

def ofTokens? (tokens : List Token) : Option (List Event) :=
  let fuel := 4 * tokens.length + 4
  match tokens with
  | [.streamEnd] => some []
  | tokens => do
    let (es, rest) ←
      if startsExplicitly tokens then do
        let (handles, tokens) ← readDirectives false [] tokens
        match tokens with
        | .documentStart :: rest =>
          if endsExplicitly rest then pure ([empty], rest)
          else readNode (handles ++ defaultHandles) true false fuel [] rest
        | _ => none
      else readNode defaultHandles true false fuel [] tokens
    if isFinished rest then some es.reverse else none

end Event
end PayloadSchema.Yaml
