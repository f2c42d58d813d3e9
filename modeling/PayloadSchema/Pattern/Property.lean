import PayloadSchema.Pattern.Property.Age
import PayloadSchema.Pattern.Property.Binary
import PayloadSchema.Pattern.Property.Category
import PayloadSchema.Pattern.Property.Extension
import PayloadSchema.Pattern.Property.Letter
import PayloadSchema.Pattern.Property.Script

/-!
Properties of characters by name: general categories, scripts, binary properties, ages, and the
classes that cut a text into graphemes, words and sentences. Where the standard builds one property
from others, so does this module.
-/
namespace PayloadSchema.Pattern.Property
open CharSet

def find? (tables : List (List String × String)) (name : String) : Option CharSet :=
  (tables.find? fun (names, _) => names.contains name).map fun (_, text) => ofText text

def binaryTable (name : String) : CharSet := (find? binaryTables name).getD empty

def whiteSpace : CharSet := ofSpans Text.blankSpans

def lowercase : CharSet := (categories ["ll"]).union (binaryTable "otherlowercase")

def uppercase : CharSet := (categories ["lu"]).union (binaryTable "otheruppercase")

def cased : CharSet := unionAll [lowercase, uppercase, categories ["lt"]]

def alphabetic : CharSet :=
  unionAll [categories ["lu", "ll", "lt", "lm", "lo", "nl"], binaryTable "otheralphabetic"]

def digit : CharSet := categories ["nd"]

/-- Word characters: what is alphabetic, marks, digits, connectors and joiners. -/
def word : CharSet :=
  unionAll [alphabetic, categories ["mn", "mc", "me", "nd", "pc"], binaryTable "joincontrol"]

def graphemeExtend : CharSet :=
  (categories ["mn", "me"]).union (binaryTable "othergraphemeextend")

def graphemeBase : CharSet :=
  (unionAll [categories ["cc", "cf", "co", "zl", "zp"], unassigned, range 0xD800 0xDFFF,
    graphemeExtend]).compl

def patternSigns : CharSet :=
  (binaryTable "patternsyntax").union (binaryTable "patternwhitespace")

def idStart : CharSet :=
  (unionAll [categories ["lu", "ll", "lt", "lm", "lo", "nl"], binaryTable "otheridstart"]).diff
    patternSigns

def idContinue : CharSet :=
  (unionAll [idStart, categories ["mn", "mc", "nd", "pc"], binaryTable "otheridcontinue"]).diff
    patternSigns

def unstable : CharSet :=
  ofText "37A 309B-309C FC5E-FC63 FDFA-FDFB FE70-FE7E:2"

def defaultIgnorable : CharSet :=
  (unionAll [binaryTable "otherdefaultignorablecodepoint", categories ["cf"],
    binaryTable "variationselector"]).diff
    (unionAll [whiteSpace, ofText "FFF9-FFFB 13430-13440",
      binaryTable "prependedconcatenationmark"])

def midLetters : CharSet :=
  ofText "27 2E 3A B7 387 55F 5F4 2018-2019 2024 2027 FE13 FE52 FE55 FF07 FF0E FF1A"

def derived? : String → Option CharSet
  | "alphabetic" | "alpha" => some alphabetic
  | "caseignorable" | "ci" => some ((categories ["mn", "me", "cf", "lm", "sk"]).union midLetters)
  | "cased" => some cased
  | "changeswhencasemapped" | "cwcm" =>
    some (unionAll [binaryTable "cwl", binaryTable "cwu", binaryTable "cwt"])
  | "defaultignorablecodepoint" | "di" => some defaultIgnorable
  | "graphemebase" | "grbase" => some graphemeBase
  | "graphemeextend" | "grext" => some graphemeExtend
  | "idcontinue" | "idc" => some idContinue
  | "idstart" | "ids" => some idStart
  | "lowercase" | "lower" => some lowercase
  | "math" => some ((categories ["sm"]).union (binaryTable "othermath"))
  | "uppercase" | "upper" => some uppercase
  | "whitespace" | "wspace" | "space" => some whiteSpace
  | "xidcontinue" | "xidc" => some (idContinue.diff unstable)
  | "xidstart" | "xids" => some (idStart.diff (unstable.union (ofText "E33 EB3 FF9E-FF9F")))
  | _ => none

def binary? (name : String) : Option CharSet := (derived? name).or (find? binaryTables name)

def script? (name : String) : Option CharSet := find? scriptTables name

def extended : CharSet := unionAll (extensionTables.map fun (_, text) => ofText text)

/-- A script with what it uses of others. What several scripts use is no longer common to all. -/
def scriptExtension? (name : String) : Option CharSet :=
  (scriptTables.find? fun (names, _) => names.contains name).map fun (names, text) =>
    if names.contains "common" || names.contains "inherited" then (ofText text).diff extended
    else
      match extensionTables.find? fun (long, _) => names.contains long with
      | some (_, more) => (ofText text).union (ofText more)
      | none => ofText text

def age? (name : String) : Option CharSet :=
  (ageTables.findIdx? fun (names, _) => names.contains name).map fun i =>
    unionAll ((ageTables.take (i + 1)).map fun (_, text) => ofText text)

def openSyllables : CharSet := ofText "AC00-D788:1C"

def joiner : CharSet := single 0x200D

def prepended : CharSet :=
  (binaryTable "prependedconcatenationmark").union
    (ofText "D4E 111C2-111C3 113D1 1193F 11941 11A3A 11A84-11A89 11D46 11F02")

def graphemeBreak? : String → Option CharSet
  | "cn" | "control" =>
    some ((unionAll [categories ["zl", "zp", "cc", "cf"], unassigned.inter defaultIgnorable]).diff
      (unionAll [graphemeExtend, binaryTable "prependedconcatenationmark", joiner,
        ofText "A D"]))
  | "cr" => some (single 0xD)
  | "ex" | "extend" => some (graphemeExtend.union (binaryTable "emojimodifier"))
  | "l" => some (ofText "1100-115F A960-A97C")
  | "lf" => some (single 0xA)
  | "lv" => some openSyllables
  | "lvt" => some ((range 0xAC00 0xD7A3).diff openSyllables)
  | "pp" | "prepend" => some prepended
  | "ri" | "regionalindicator" => find? binaryTables "ri"
  | "sm" | "spacingmark" =>
    some (((categories ["mc"]).diff (unionAll [graphemeExtend, ofText ("102B-102C 1038 1062-1064 "
      ++ "1067-106D 1083 1087-108C 108F 109A-109C 1A61 1A63-1A64 AA7B AA7D 11720-11721")])).union
      (ofText "E33 EB3"))
  | "t" => some (ofText "11A8-11FF D7CB-D7FB")
  | "v" => some (ofText "1160-11A7 D7B0-D7C6 16D63 16D67-16D6A")
  | "zwj" => some joiner
  | _ => none

def wordBreak? : String → Option CharSet
  | "aletter" | "le" => some (ofText wordLetter)
  | "cr" => some (single 0xD)
  | "dq" | "doublequote" => some (single 0x22)
  | "extend" =>
    some (unionAll [graphemeExtend, categories ["mc"], binaryTable "emojimodifier"])
  | "ex" | "extendnumlet" => some ((categories ["pc"]).union (single 0x202F))
  | "fo" | "format" =>
    some ((categories ["cf"]).diff (unionAll [graphemeExtend, joiner, single 0x200B]))
  | "hl" | "hebrewletter" =>
    some (ofText "5D0-5EA 5EF-5F2 FB1D FB1F-FB28 FB2A-FB36 FB38-FB3C FB3E FB40-FB41 FB43-FB44
      FB46-FB4F")
  | "ka" | "katakana" =>
    some (ofText "3031-3035 309B-309C 30A0-30FA 30FC-30FF 31F0-31FF 32D0-32FE 3300-3357
      FF66-FF9D 1AFF0-1AFF3 1AFF5-1AFFB 1AFFD-1AFFE 1B000 1B120-1B122 1B155 1B164-1B167")
  | "lf" => some (single 0xA)
  | "ml" | "midletter" => some (ofText "3A B7 387 55F 5F4 2027 FE13 FE55 FF1A")
  | "mn" | "midnum" =>
    some (ofText "2C 3B 37E 589 60C-60D 66C 7F8 2044 FE10 FE14 FE50 FE54 FF0C FF1B")
  | "mb" | "midnumlet" => some (ofText "2E 2018-2019 2024 FE52 FF07 FF0E")
  | "nl" | "newline" => some (ofText "B-C 85 2028-2029")
  | "nu" | "numeric" => some (digit.union (single 0x66B))
  | "ri" | "regionalindicator" => find? binaryTables "ri"
  | "sq" | "singlequote" => some (single 0x27)
  | "wsegspace" => some (ofText "20 1680 2000-2006 2008-200A 205F 3000")
  | "zwj" => some joiner
  | _ => none

def sentenceExtend : CharSet := unionAll [graphemeExtend, categories ["mc"], joiner]

def sentenceLower : CharSet :=
  lowercase.diff (graphemeExtend.union (ofText "10D0-10FA 10FD-10FF"))

def sentenceUpper : CharSet :=
  (uppercase.union (categories ["lt"])).diff (ofText "1C90-1CBA 1CBD-1CBF")

def fullStops : CharSet := ofText "2E 2024 FE52 FF0E"

def sentenceBreak? : String → Option CharSet
  | "at" | "aterm" => some fullStops
  | "cl" | "close" =>
    some ((unionAll [categories ["ps", "pe", "pi", "pf"], binaryTable "quotationmark",
      ofText "275B-2760 2E00-2E01 2E06-2E08 2E0B 1F676-1F678"]).diff (ofText "FF02 FF07"))
  | "cr" => some (single 0xD)
  | "ex" | "extend" => some sentenceExtend
  | "fo" | "format" => some ((categories ["cf"]).diff (graphemeExtend.union joiner))
  | "le" | "oletter" =>
    some ((alphabetic.union (single 0x5F3)).diff
      (unionAll [sentenceExtend, sentenceLower, sentenceUpper]))
  | "lf" => some (single 0xA)
  | "lo" | "lower" => some sentenceLower
  | "nu" | "numeric" => some (digit.union (ofText "66B-66C"))
  | "sc" | "scontinue" =>
    some (ofText "2C-2D 3A-3B 37E 55D 60C-60D 7F8 1802 1808 2013-2014 3001 FE10-FE11 FE13-FE14
      FE31-FE32 FE50-FE51 FE54-FE55 FE58 FE63 FF0C-FF0D FF1A-FF1B FF64")
  | "se" | "sep" => some (ofText "85 2028-2029")
  | "sp" => some (whiteSpace.diff (ofText "A D 85 2028-2029"))
  | "st" | "sterm" => some ((binaryTable "sentenceterminal").diff fullStops)
  | "up" | "upper" => some sentenceUpper
  | _ => none

/-- Names are compared without case, blanks, hyphens, underscores and a leading `is`. -/
def normalize (name : List Char) : String :=
  let simple := fun cs : List Char =>
    ((cs.map Char.toLower).filter fun c => !(c == ' ' || c == '_' || c == '-') && c.toNat < 128)
  match name with
  | c :: d :: rest =>
    if c.toLower = 'i' ∧ d.toLower = 's' then
      if simple rest = ['c'] then "isc" else String.ofList (simple rest)
    else String.ofList (simple name)
  | _ => String.ofList (simple name)

def named? (name : List Char) : Option CharSet :=
  let key := normalize name
  (binary? key).or ((category? key).or (script? key))

def valued? (property value : List Char) : Option CharSet :=
  let value := normalize value
  match normalize property with
  | "gc" | "generalcategory" => category? value
  | "sc" | "script" => script? value
  | "scx" | "scriptextensions" => scriptExtension? value
  | "age" => age? value
  | "gcb" | "graphemeclusterbreak" => graphemeBreak? value
  | "wb" | "wordbreak" => wordBreak? value
  | "sb" | "sentencebreak" => sentenceBreak? value
  | _ => none

end PayloadSchema.Pattern.Property
