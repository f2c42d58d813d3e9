import Mathlib
import PayloadSchema.Proofs.Wrapper.FieldNames

/-!
Struct fields have names that the language of wrappers allows. Whatever the name of a payload field
is, the word that it is folded to gets an underscore or a mark wherever it could not stand as it is.
-/
namespace PayloadSchema.Wrapper

/-- The words that the 2021 edition keeps for itself: those in use, and those for later. -/
def editionWords : List String :=
  ["as", "break", "const", "continue", "crate", "else", "enum", "extern", "false", "fn", "for",
    "if", "impl", "in", "let", "loop", "match", "mod", "move", "mut", "pub", "ref", "return", "self",
    "Self", "static", "struct", "super", "trait", "true", "type", "unsafe", "use", "where", "while",
    "async", "await", "dyn"] ++
  ["abstract", "become", "box", "do", "final", "macro", "override", "priv", "typeof", "unsized",
    "virtual", "yield", "try"]

def unmarkable : List String := ["crate", "self", "super", "Self"]

/-- An identifier or a keyword: a letter, or an underscore with something behind it, and then
letters, digits and underscores. -/
def isWord : List Char → Bool
  | [] => false
  | c :: rest =>
    (c.isAlpha || (c == '_' && !rest.isEmpty)) && rest.all fun d => d.isAlphanum || d == '_'

inductive NamesField : String → Prop
  | word {w : String} (hword : isWord w.toList = true) (hfree : w ∉ editionWords) : NamesField w
  | marked {w : String} (hword : isWord w.toList = true) (hmark : w ∉ unmarkable) :
      NamesField ("r#" ++ w)

structure SmallWord (u : List Char) : Prop where
  ne_nil : u ≠ []
  chars : ∀ c ∈ u, isWordChar c = true
  start : startsWithDigit u = false

structure Plain (w : String) : Prop where
  small : SmallWord w.toList
  not_lone : w ≠ "_"
  not_keyword : w ∉ keywords
  not_reserved : w ∉ ["self", "super", "crate"]

theorem namesField_keyword {w : String} (h : w ∈ keywords) : NamesField ("r#" ++ w) := by
  have hall : ∀ w ∈ keywords, isWord w.toList = true ∧ w ∉ unmarkable := by decide +kernel
  exact .marked (hall w h).1 (hall w h).2

theorem alphanum_or_underscore {c : Char} (h : isWordChar c = true) :
    (c.isAlphanum || c == '_') = true := by
  rw [isWordChar, Bool.or_eq_true, Bool.or_eq_true] at h
  rcases h with (h | h) | h <;> simp [Char.isAlphanum, Char.isAlpha, h]

namespace SmallWord
variable {u : List Char} {w : String}

theorem isWord (h : SmallWord u) (hlone : u ≠ ['_']) : isWord u = true := by
  obtain ⟨c, rest, rfl⟩ := List.exists_cons_of_ne_nil h.ne_nil
  obtain ⟨hc, hrest⟩ := List.forall_mem_cons.1 h.chars
  have hstart : (c.isAlpha || (c == '_' && !rest.isEmpty)) = true := by
    have hdigit : c.isDigit = false := h.start
    have hc := alphanum_or_underscore hc
    rw [Char.isAlphanum, hdigit, Bool.or_false, Bool.or_eq_true] at hc
    rcases hc with hc | hc
    · rw [hc, Bool.true_or]
    · rw [beq_iff_eq] at hc
      subst hc
      simpa using hlone
  rw [Wrapper.isWord, hstart, Bool.true_and, List.all_eq_true]
  exact fun d hd => alphanum_or_underscore (hrest d hd)

theorem ne_self_type (h : SmallWord w.toList) : w ≠ "Self" := by
  rintro rfl
  cases h.chars 'S' (by simp)

/-- A small word is plain if it is on neither list. -/
theorem plain_iff (h : SmallWord w.toList) : Plain w ↔ w ∉ reserved ∧ w ∉ keywords := by
  constructor
  · have hall : ∀ w ∈ reserved, w ∈ ["self", "super", "crate"] ∨ w = "_" ∨ w = "Self" := by decide
    refine fun hplain => ⟨fun hmem => ?_, hplain.not_keyword⟩
    rcases hall w hmem with hw | hw | hw
    · exact hplain.not_reserved hw
    · exact hplain.not_lone hw
    · exact h.ne_self_type hw
  · have hall : ∀ w ∈ ["_", "self", "super", "crate"], w ∈ reserved := by decide
    rintro ⟨hreserved, hkeyword⟩
    refine ⟨h, fun hw => ?_, hkeyword, fun hw => ?_⟩
    · exact hreserved (hall w (hw ▸ List.mem_cons_self))
    · exact hreserved (hall w (List.mem_cons_of_mem _ hw))

/-- With an underscore at its end a small word is on no list, and the underscore is not alone. -/
theorem plain_append_underscore (h : SmallWord w.toList) : Plain (w ++ "_") := by
  have hlisted : ∀ w ∈ keywords ++ ["self", "super", "crate"], '_' ∉ w.toList := by decide +kernel
  have hlast : '_' ∈ (w ++ "_").toList := by simp
  have hsmall : SmallWord (w ++ "_").toList := by
    rw [String.toList_append]
    obtain ⟨hne, hchars, hstart⟩ := h
    obtain ⟨c, rest, hw⟩ := List.exists_cons_of_ne_nil hne
    rw [hw] at hchars hstart ⊢
    exact ⟨by simp, List.forall_mem_append.2 ⟨hchars, by simp [isWordChar]⟩, hstart⟩
  refine ⟨hsmall, fun hlone => h.ne_nil ?_, fun hw => ?_, fun hw => ?_⟩
  · simpa using congrArg String.toList hlone
  · exact hlisted _ (List.mem_append_left _ hw) hlast
  · exact hlisted _ (List.mem_append_right _ hw) hlast

end SmallWord

theorem Plain.namesField {w : String} (h : Plain w) : NamesField w := by
  have hkept : ∀ w ∈ editionWords, w ∈ keywords ∨ w ∈ ["self", "super", "crate"] ∨ w = "Self" := by
    decide +kernel
  refine .word (h.small.isWord fun hlone => h.not_lone (String.toList_inj.1 hlone)) fun hmem => ?_
  rcases hkept w hmem with hw | hw | hw
  · exact h.not_keyword hw
  · exact h.not_reserved hw
  · exact h.small.ne_self_type hw

/-- Folding leaves no other characters, and an underscore stands in front of nothing and of a
digit. -/
theorem smallWord_fieldWord (name : String) : SmallWord (fieldWord name) := by
  have hchars : ∀ c ∈ folded name, isWordChar c = true := fun c => isWordChar_of_mem_folded
  rw [fieldWord, ← folded]
  split
  · exact ⟨by simp, List.forall_mem_cons.2 ⟨rfl, hchars⟩, rfl⟩
  · rename_i h
    rw [Bool.or_eq_true, not_or, List.isEmpty_iff, Bool.not_eq_true] at h
    exact ⟨h.1, hchars, h.2⟩

theorem fieldIdent_cases (name : String) :
    (String.ofList (fieldWord name) ∈ keywords ∧
        fieldIdent name = "r#" ++ String.ofList (fieldWord name)) ∨
      Plain (fieldIdent name) := by
  have hsmall : SmallWord (String.ofList (fieldWord name)).toList := by
    simpa using smallWord_fieldWord name
  simp only [fieldIdent, List.contains_iff_mem]
  split
  · exact .inr hsmall.plain_append_underscore
  · rename_i hreserved
    split
    · rename_i hkeyword
      exact .inl ⟨hkeyword, rfl⟩
    · rename_i hkeyword
      exact .inr (hsmall.plain_iff.2 ⟨hreserved, hkeyword⟩)

theorem not_isUpper_of_isWordChar {c : Char} (h : isWordChar c = true) : ¬c.isUpper = true := by
  rw [isWordChar, Bool.or_eq_true, Bool.or_eq_true] at h
  rcases h with (h | h) | h
  · exact Char.not_isUpper_of_isLower h
  · intro hupper
    simp only [Char.isUpper, decide_eq_true_eq, ge_iff_le, UInt32.le_iff_toNat_le] at hupper
    have hleast : 65 ≤ c.toNat := hupper.1
    have hmost : c.toNat ≤ 57 := (Char.isDigit_iff_toNat.1 h).2
    omega
  · rw [beq_iff_eq.1 h]
    decide

theorem SmallWord.fieldWord_eq {name : String} (h : SmallWord name.toList) :
    fieldWord name = name.toList := by
  have hfolded : folded name = name.toList := by
    refine (List.map_congr_left fun c hc => ?_).trans (List.map_id _)
    have hword := h.chars c hc
    rw [Char.toLower_eq_of_not_isUpper (not_isUpper_of_isWordChar hword)]
    split
    · rfl
    · rename_i halphanum
      have hunder := (Bool.or_eq_true_iff.1 (alphanum_or_underscore hword)).resolve_left halphanum
      exact (beq_iff_eq.1 hunder).symm
  rw [fieldWord, ← folded, hfolded, h.start, List.isEmpty_eq_false_iff.2 h.ne_nil]
  rfl

theorem length_le_fieldWord (name : String) : name.toList.length ≤ (fieldWord name).length := by
  rw [fieldWord, ← folded]
  split <;> simp [folded]

/-- A plain word is its own struct field, and no other name is. -/
theorem fieldIdent_eq_self_iff {name : String} : fieldIdent name = name ↔ Plain name := by
  constructor
  · intro hself
    rcases fieldIdent_cases name with ⟨-, hmarked⟩ | hplain
    · -- the mark would make the name longer than it is
      have hle := length_le_fieldWord name
      have hlength : name.toList.length = (fieldWord name).length + 2 :=
        calc name.toList.length
          _ = ("r#" ++ String.ofList (fieldWord name)).toList.length := by rw [← hmarked, hself]
          _ = (fieldWord name).length + 2 := by simp
      omega
    · rwa [hself] at hplain
  · intro hplain
    obtain ⟨hreserved, hkeyword⟩ := hplain.small.plain_iff.1 hplain
    simp only [fieldIdent, hplain.small.fieldWord_eq, String.ofList_toList, List.contains_iff_mem,
      if_neg hreserved, if_neg hkeyword]

/-- Every name gets a struct field that the language allows: a keyword with a mark, or else a plain
word. A name is left as it is if and only if it is a plain word. -/
theorem fieldIdent_legal (name : String) :
    NamesField (fieldIdent name) ∧
      ((∃ w ∈ keywords, fieldIdent name = "r#" ++ w) ∨ Plain (fieldIdent name)) ∧
      (fieldIdent name = name ↔ Plain name) := by
  refine ⟨?_, ?_, fieldIdent_eq_self_iff⟩
  · rcases fieldIdent_cases name with ⟨hkeyword, hmarked⟩ | hplain
    · exact hmarked ▸ namesField_keyword hkeyword
    · exact hplain.namesField
  · exact (fieldIdent_cases name).imp_left fun h => ⟨_, h.1, h.2⟩

example : ["type", "Self", "2fa", "", "Größe"].map fieldIdent =
    ["r#type", "self_", "_2fa", "__", "gr__e"] := by
  decide

end PayloadSchema.Wrapper
