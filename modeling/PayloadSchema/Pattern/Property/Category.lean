import PayloadSchema.Pattern.CharSet
import PayloadSchema.Text.Category

/-!
General categories as patterns know them. Patterns follow version 16.0 of the standard: characters
of version 17.0 are unassigned to them.
-/
namespace PayloadSchema.Pattern.Property
open Text

def laterCharacters : CharSet := CharSet.ofText "
88F C5C CDC 1ACF-1ADD 1AE0-1AEB 20C1 2B96 A7CE-A7CF A7D2 A7D4 A7F1 FBC3-FBD2 FD90-FD91 FDC8-FDCE
10940-10959 10EC5-10EC7 10ED0-10ED8 10EFA-10EFB 11B60-11B67 11DB0-11DDB 11DE0-11DE9 16EA0-16EB8
16EBB-16ED3 16FF2-16FF6 187F8-187FF 18D09-18D1E 18D80-18DF2 1CCFA-1CCFC 1CEBA-1CED0 1CEE0-1CEF0
1E6C0-1E6DE 1E6E0-1E6F5 1E6FE-1E6FF 1F6D8 1F777-1F77A 1F8D0-1F8D8 1FA54-1FA57 1FA8A 1FA8E 1FAC8
1FACD 1FAEA 1FAEF 1FBFA 2B73A-2B73F 2CEA2-2CEAD 323B0-33479"

def laterAlphabetic : CharSet :=
  CharSet.ofText "10EFA-10EFB 11B60-11B67 1E6E3 1E6E6 1E6EE-1E6EF 1E6F5"

/-- A letter that was a small one up to version 16.0 and has no case since. -/
def formerSmallLetter : CharSet := CharSet.single 0x295

def ofCategories (shorts : List String) : CharSet :=
  CharSet.ofSpans ((Category.assigned.filter fun (short, _, _) => shorts.contains short).flatMap
    (·.2.2))

def categories (shorts : List String) : CharSet :=
  let now := (ofCategories shorts).diff laterCharacters
  match shorts.contains "ll", shorts.contains "lo" with
  | true, false => now.union formerSmallLetter
  | false, true => now.diff formerSmallLetter
  | _, _ => now

def categoryNames : List String := Category.assigned.map (·.1)

def assigned : CharSet := categories categoryNames

/-- Surrogates are no characters and in no category. -/
def unassigned : CharSet := (assigned.union (CharSet.range 0xD800 0xDFFF)).compl

def groups : List (List String × List String) :=
  [(["l", "letter"], ["lu", "ll", "lt", "lm", "lo"]),
   (["lc", "casedletter"], ["lu", "ll", "lt"]),
   (["m", "mark", "combiningmark"], ["mn", "mc", "me"]),
   (["n", "number"], ["nd", "nl", "no"]),
   (["digit"], ["nd"]),
   (["p", "punctuation", "punct"], ["pc", "pd", "ps", "pe", "pi", "pf", "po"]),
   (["s", "symbol"], ["sm", "sc", "sk", "so"]),
   (["z", "separator"], ["zs", "zl", "zp"]),
   (["cntrl"], ["cc"])]

def category? (name : String) : Option CharSet :=
  match name with
  | "any" => some CharSet.full
  | "ascii" => some (CharSet.range 0 0x7F)
  | "assigned" => some unassigned.compl
  | "cn" | "unassigned" => some unassigned
  | "c" | "other" => some ((categories ["cc", "cf", "co"]).union unassigned)
  | _ =>
    match groups.find? fun (names, _) => names.contains name with
    | some (_, shorts) => some (categories shorts)
    | none =>
      (Category.assigned.find? fun (short, long, _) => short == name || long == name).map
        fun (short, _, _) => categories [short]

end PayloadSchema.Pattern.Property
