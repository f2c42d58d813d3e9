import Mathlib
import PayloadSchema.Wrapper
import PayloadSchema.Proofs.Outcome
import PayloadSchema.Proofs.Validation.Reach

/-!
The struct fields of a wrapper. A field name is folded to small letters, digits and underscores, and
the word that results is spelled as an identifier. Two fields get the same identifier if their names
are folded to one word, or if one word is spelled the way the other one is.
-/
namespace PayloadSchema.Wrapper
open Outcome

/-- A name with its letters small, and an underscore for all that is neither a letter nor a digit of
ASCII. -/
def folded (name : String) : List Char :=
  name.toList.map fun c => if c.isAlphanum then c.toLower else '_'

def isWordChar (c : Char) : Bool := c.isLower || c.isDigit || c == '_'

theorem isWordChar_of_mem_folded {name : String} {c : Char} (h : c ∈ folded name) :
    isWordChar c = true := by
  obtain ⟨d, -, rfl⟩ := List.mem_map.1 h
  split
  · rename_i hd
    by_cases halpha : d.isAlpha = true
    · simp [isWordChar, halpha]
    · have hdigit : d.isDigit = true := by simpa [Char.isAlphanum, halpha] using hd
      have hupper : ¬d.isUpper = true := fun h => halpha (by simp [Char.isAlpha, h])
      simp [isWordChar, Char.toLower_eq_of_not_isUpper hupper, hdigit]
  · rfl

theorem folded_ne_nil {name : String} (h : name ≠ "") : folded name ≠ [] := by
  simpa [folded] using h

/-- The identifier for a folded word: an underscore in front of a digit and at the end of a reserved
word, and a mark in front of a keyword. -/
def spell (u : List Char) : List Char :=
  if startsWithDigit u then '_' :: u
  else if String.ofList u ∈ reserved then u ++ ['_']
  else if String.ofList u ∈ keywords then 'r' :: '#' :: u
  else u

def Respelled (u v : List Char) : Prop :=
  (startsWithDigit u = true ∧ v = '_' :: u) ∨ (String.ofList u ∈ reserved ∧ v = u ++ ['_'])

/-- No reserved word or keyword has a digit in its first two places. -/
theorem not_mem_of_digit {u : List Char}
    (h : startsWithDigit u = true ∨ startsWithDigit u.tail = true) :
    String.ofList u ∉ reserved ∧ String.ofList u ∉ keywords := by
  have hall : ∀ w ∈ reserved ++ keywords,
      ¬(startsWithDigit w.toList = true ∨ startsWithDigit w.toList.tail = true) := by
    decide
  refine ⟨fun hmem => ?_, fun hmem => ?_⟩
  · exact hall _ (List.mem_append_left _ hmem) (by simpa using h)
  · exact hall _ (List.mem_append_right _ hmem) (by simpa using h)

theorem fieldIdent_eq_spell {name : String} (h : name ≠ "") :
    fieldIdent name = String.ofList (spell (folded name)) := by
  have hword : fieldWord name =
      if startsWithDigit (folded name) then '_' :: folded name else folded name := by
    rw [fieldWord, ← folded, List.isEmpty_eq_false_iff.2 (folded_ne_nil h), Bool.false_or]
  simp only [fieldIdent, List.contains_iff_mem, hword, spell]
  generalize folded name = u
  by_cases hdigit : startsWithDigit u = true
  · obtain ⟨hreserved, hkeyword⟩ := not_mem_of_digit (u := '_' :: u) (.inr hdigit)
    rw [if_pos hdigit, if_neg hreserved, if_neg hkeyword, if_pos hdigit]
  · rw [if_neg hdigit, if_neg hdigit]
    split
    · rw [String.ofList_append]
    · split
      · exact String.toList_inj.1 (by simp)
      · rfl

theorem spell_cases (u : List Char) :
    spell u = 'r' :: '#' :: u ∨ spell u = u ∨ Respelled u (spell u) := by
  rw [spell]
  split
  · rename_i hdigit
    exact .inr (.inr (.inl ⟨hdigit, rfl⟩))
  · split
    · rename_i hreserved
      exact .inr (.inr (.inr ⟨hreserved, rfl⟩))
    · split
      · exact .inl rfl
      · exact .inr (.inl rfl)

namespace Respelled
variable {u v w : List Char}

/-- A word gets its underscore once: with it the word is left as it is. -/
theorem spell_eq (h : Respelled u v) : spell u = v ∧ spell v = v := by
  rcases h with ⟨hdigit, rfl⟩ | ⟨hreserved, rfl⟩
  · obtain ⟨hreserved, hkeyword⟩ := not_mem_of_digit (u := '_' :: u) (.inr hdigit)
    have hunder : ¬startsWithDigit ('_' :: u) = true := by simp [startsWithDigit]
    exact ⟨if_pos hdigit, by rw [spell, if_neg hunder, if_neg hreserved, if_neg hkeyword]⟩
  · have hall : ∀ w ∈ reserved, spell w.toList = w.toList ++ ['_'] ∧
        spell (w.toList ++ ['_']) = w.toList ++ ['_'] := by
      decide
    simpa using hall _ hreserved

theorem left_unique (hu : Respelled u w) (hv : Respelled v w) : u = v := by
  have hall : ∀ r ∈ reserved, startsWithDigit (r.toList ++ ['_']).tail = false := by decide
  rcases hu with ⟨hu, rfl⟩ | ⟨hu, rfl⟩
  · rcases hv with ⟨-, h⟩ | ⟨hv, h⟩
    · exact (List.cons.inj h).2
    · have := hall _ hv
      rw [String.toList_ofList, ← h, List.tail_cons, hu] at this
      cases this
  · rcases hv with ⟨hv, h⟩ | ⟨-, h⟩
    · have := hall _ hu
      rw [String.toList_ofList, h, List.tail_cons, hv] at this
      cases this
    · exact List.append_cancel_right h

end Respelled

theorem hash_not_mem_folded (name : String) : '#' ∉ folded name := by
  intro h
  cases isWordChar_of_mem_folded h

theorem hash_not_mem_spell {u : List Char} (hu : '#' ∉ u)
    (h : spell u = u ∨ Respelled u (spell u)) : '#' ∉ spell u := by
  rcases h with h | ⟨-, h⟩ | ⟨-, h⟩ <;> rw [h] <;> simp [hu]

/-- Words that get the same identifier are one word, or one of them is the other one respelled. -/
theorem eq_or_respelled_of_spell {u v : List Char} (hu : '#' ∉ u) (hv : '#' ∉ v)
    (h : spell u = spell v) : u = v ∨ Respelled u v ∨ Respelled v u := by
  rcases spell_cases u with hmark | hu'
  · rcases spell_cases v with hmark' | hv'
    · rw [hmark, hmark'] at h
      exact .inl (by simpa using h)
    · exact absurd (by simp [← h, hmark]) (hash_not_mem_spell hv hv')
  · rcases spell_cases v with hmark' | hv'
    · exact absurd (by simp [h, hmark']) (hash_not_mem_spell hu hu')
    · rw [h] at hu'
      rcases hu' with hu' | hu'
      · rcases hv' with hv' | hv'
        · exact .inl (hu'.symm.trans hv')
        · exact .inr (.inr (hu' ▸ hv'))
      · rcases hv' with hv' | hv'
        · exact .inr (.inl (hv' ▸ hu'))
        · exact .inl (hu'.left_unique hv')

/-- Names that give one struct field: they are folded to the same word, or one word is the other one
with the underscore that it gets as an identifier. -/
def Clash (a b : String) : Prop :=
  folded a = folded b ∨ Respelled (folded a) (folded b) ∨ Respelled (folded b) (folded a)

instance (u v : List Char) : Decidable (Respelled u v) := inferInstanceAs (Decidable (_ ∨ _))

instance (a b : String) : Decidable (Clash a b) := inferInstanceAs (Decidable (_ ∨ _))

theorem fieldIdent_eq_iff {a b : String} (ha : a ≠ "") (hb : b ≠ "") :
    fieldIdent a = fieldIdent b ↔ Clash a b := by
  rw [fieldIdent_eq_spell ha, fieldIdent_eq_spell hb, String.ofList_inj]
  constructor
  · exact eq_or_respelled_of_spell (hash_not_mem_folded a) (hash_not_mem_folded b)
  · rintro (h | h | h)
    · rw [h]
    · rw [h.spell_eq.1, h.spell_eq.2]
    · rw [h.spell_eq.1, h.spell_eq.2]

/-- The struct fields of a composite are distinct if and only if no two of its names clash. -/
theorem fieldIdents_nodup_iff {name : String} {description : Option String} {fields : List Field}
    {additional : Policy} {c : Composite}
    (h : Composite.build name description fields additional = .ok c) :
    (c.fields.map fun f => fieldIdent f.name).Nodup ↔
      c.fields.Pairwise fun f g => ¬Clash f.name g.name := by
  have hne : ∀ f ∈ c.fields, f.name ≠ "" := by
    rw [Composite.build] at h
    obtain ⟨n, -, h⟩ := bind_eq_ok.1 h
    split at h
    · cases h
    · rename_i hfault
      cases h
      exact fun f hf => ((Composite.fieldFault?_eq_none hfault).2 f hf).1
  rw [List.Nodup, List.pairwise_map]
  constructor
  · exact fun hpair => hpair.imp_of_mem fun hf hg hident hclash =>
      hident ((fieldIdent_eq_iff (hne _ hf) (hne _ hg)).2 hclash)
  · exact fun hpair => hpair.imp_of_mem fun hf hg hclash hident =>
      hclash ((fieldIdent_eq_iff (hne _ hf) (hne _ hg)).1 hident)

def loginSchema : Composite where
  name := ⟨"Login", by decide⟩
  description := none
  fields :=
    [⟨"user-id", .leaf .string, true, false, none⟩, ⟨"user_id", .leaf .string, true, false, none⟩]
  additional := .any

/-- The names differ, and the struct has the same field twice. -/
theorem loginSchema_field_twice :
    Composite.build "Login" none loginSchema.fields .any = .ok loginSchema ∧
      loginSchema.fields.flatMap structField =
        ["    pub user_id: String,\n", "    pub user_id: String,\n"] ∧
      ¬(loginSchema.fields.map fun f => fieldIdent f.name).Nodup :=
  ⟨rfl, by decide, by decide⟩

def ticketSchema : Composite where
  name := ⟨"Ticket", by decide⟩
  description := none
  fields :=
    ["type", "2fa", "self", "ID", "naïve"].map fun n => ⟨n, .leaf .string, false, false, none⟩
  additional := .forbidden

theorem ticketSchema_fields_distinct :
    Composite.build "Ticket" none ticketSchema.fields .forbidden = .ok ticketSchema ∧
      (ticketSchema.fields.Pairwise fun f g => ¬Clash f.name g.name) ∧
      (ticketSchema.fields.map fun f => fieldIdent f.name) =
        ["r#type", "_2fa", "self_", "id", "na_ve"] ∧
      (ticketSchema.fields.map fun f => fieldIdent f.name).Nodup := by
  have hbuild : Composite.build "Ticket" none ticketSchema.fields .forbidden = .ok ticketSchema :=
    rfl
  have hclash : ticketSchema.fields.Pairwise fun f g => ¬Clash f.name g.name := by decide
  exact ⟨hbuild, hclash, by decide, (fieldIdents_nodup_iff hbuild).2 hclash⟩

end PayloadSchema.Wrapper
