import Mathlib
import PayloadSchema.Wrapper

/-!
Descriptions in the source of a wrapper. They are written into comments, and all other lines of the
source are the same without them if every description stays inside its comment. That of a composite
always does; that of a field does unless it has a line of its own that is no comment.
-/
namespace PayloadSchema

def Field.undescribed (f : Field) : Field := { f with description := none }

def Composite.undescribed (c : Composite) : Composite :=
  { c with description := none, fields := c.fields.map Field.undescribed }

namespace Wrapper

/-- The lines of a text. What follows the last line feed is one of them. -/
def textLines (cs : List Char) : List (List Char) := cs.splitOn '\n'

def isDocLine (line : List Char) : Bool :=
  ['/', '/', '/'].isPrefixOf (line.dropWhile Text.isBlank)

def codeLines (cs : List Char) : List (List Char) := (textLines cs).filter (!isDocLine ·)

/-- All lines of a text but the first one are such comments by themselves. -/
def Contained (text : String) : Prop :=
  ∀ line ∈ (textLines text.toList).tail, isDocLine line = true

instance (text : String) : Decidable (Contained text) :=
  inferInstanceAs (Decidable (∀ line ∈ (textLines text.toList).tail, isDocLine line = true))

section Lines
variable {cs ds : List Char}

theorem textLines_append (cs ds : List Char) :
    textLines (cs ++ '\n' :: ds) = textLines cs ++ textLines ds :=
  List.splitOnP_append_cons cs ds (beq_self_eq_true '\n')

/-- What stands in front of the first line feed only makes the first line longer. -/
theorem textLines_prepend (h : '\n' ∉ cs) :
    ∃ first, textLines (cs ++ ds) = (cs ++ first) :: (textLines ds).tail := by
  induction cs with
  | nil =>
    obtain ⟨first, rest, hlines⟩ := List.exists_cons_of_ne_nil (List.splitOnP_ne_nil (· == '\n') ds)
    exact ⟨first, by simp [textLines, List.splitOn, hlines]⟩
  | cons c cs ih =>
    rw [List.mem_cons, not_or] at h
    obtain ⟨first, hlines⟩ := ih h.2
    refine ⟨first, ?_⟩
    rw [textLines, List.splitOn] at hlines ⊢
    rw [List.cons_append, List.splitOnP_cons_eq_if_modifyHead, hlines,
      if_neg (by simpa using Ne.symm h.1)]
    rfl

theorem codeLines_append (cs ds : List Char) :
    codeLines (cs ++ '\n' :: ds) = codeLines cs ++ codeLines ds := by
  rw [codeLines, textLines_append, List.filter_append]
  rfl

/-- A comment swallows what is written behind it up to the first line feed. -/
theorem codeLines_doc (hbreak : '\n' ∉ cs) (hdoc : ∀ rest, isDocLine (cs ++ rest) = true) :
    codeLines (cs ++ ds) = (textLines ds).tail.filter (!isDocLine ·) := by
  obtain ⟨first, hlines⟩ : ∃ first, textLines (cs ++ ds) = (cs ++ first) :: (textLines ds).tail :=
    textLines_prepend hbreak
  rw [codeLines, hlines, List.filter_cons_of_neg (by simp [hdoc])]

theorem textLines_of_not_mem (h : '\n' ∉ cs) : textLines cs = [cs] :=
  List.splitOnP_eq_singleton fun _ hc => beq_false_of_ne fun heq => h (heq ▸ hc)

end Lines

def EndsLine (s : String) : Prop := s.toList.getLast? = some '\n'

instance : DecidablePred EndsLine := fun s =>
  inferInstanceAs (Decidable (s.toList.getLast? = some '\n'))

/-- The code lines of a text that a line feed ends, without the empty line behind that. -/
def blockLines (s : String) : List (List Char) := codeLines s.toList.dropLast

theorem codeLines_join {blocks : List String} (h : ∀ s ∈ blocks, EndsLine s) :
    codeLines (String.join blocks).toList = blocks.flatMap blockLines ++ [[]] := by
  induction blocks with
  | nil => rfl
  | cons s blocks ih =>
    rw [List.forall_mem_cons] at h
    have hs : s.toList = s.toList.dropLast ++ ['\n'] :=
      (List.dropLast_append_getLast? _ h.1).symm
    rw [String.join_cons, String.toList_append, hs, List.append_assoc, List.singleton_append,
      codeLines_append, ih h.2, List.flatMap_cons, List.append_assoc]
    rfl

theorem isDocLine_slashes (rest : List Char) : isDocLine ('/' :: '/' :: '/' :: rest) = true := by
  have hblank : Text.isBlank '/' = false := by decide
  simp [isDocLine, hblank]

theorem isDocLine_blank (rest : List Char) : isDocLine (' ' :: rest) = isDocLine rest := by
  have hblank : Text.isBlank ' ' = true := by decide
  simp [isDocLine, hblank]

/-- A text that is written behind the start of a comment. -/
theorem blockLines_comment {start : String} (hbreak : '\n' ∉ start.toList)
    (hdoc : ∀ rest, isDocLine (start.toList ++ rest) = true) (text : String) :
    blockLines (start ++ text ++ "\n") = (textLines text.toList).tail.filter (!isDocLine ·) := by
  have hblock : (start ++ text ++ "\n").toList.dropLast = start.toList ++ text.toList := by simp
  rw [blockLines, hblock, codeLines_doc hbreak hdoc]

/-- No line of a description has a line feed. -/
theorem break_not_mem_lines {seen cs : List Char} {line : String} (hseen : '\n' ∉ seen)
    (h : line ∈ lines seen cs) : '\n' ∉ line.toList := by
  induction cs generalizing seen with
  | nil =>
    rw [lines] at h
    split at h
    · cases h
    · rw [List.mem_singleton.1 h]
      simpa using hseen
  | cons c cs ih =>
    rw [lines] at h
    split at h
    · rcases List.mem_cons.1 h with rfl | h
      · rw [String.toList_ofList, dropReturn]
        split
        · exact fun hmem => hseen (List.mem_reverse.1 (List.mem_of_mem_dropLast hmem))
        · simpa using hseen
      · exact ih (by simp) h
    · rename_i hc
      exact ih (by simp [hseen, Ne.symm hc]) h

theorem break_not_mem_name (name : SchemaName) : '\n' ∉ name.text.toList := by
  have hvalid := name.valid
  have hstart : SchemaName.isStart '\n' = false := by decide
  have hrest : SchemaName.isRest '\n' = false := by decide
  intro hmem
  generalize name.text.toList = cs at hvalid hmem
  cases cs with
  | nil => cases hmem
  | cons c cs =>
    rw [SchemaName.fault?] at hvalid
    split at hvalid
    · cases hvalid
    · rename_i hc
      rcases List.mem_cons.1 hmem with rfl | hmem
      · simp [hstart] at hc
      · split at hvalid
        · cases hvalid
        · rename_i hfind
          simpa [hrest] using List.find?_eq_none.1 hfind _ hmem

theorem flatMap_docLines (c : Composite) : (docLines c).flatMap blockLines = [] := by
  have hdoc (rest : List Char) : isDocLine ("/// ".toList ++ rest) = true := by
    simp [isDocLine_slashes]
  have hcomment (line : String) (h : '\n' ∉ line.toList) :
      blockLines ("/// " ++ line ++ "\n") = [] := by
    rw [blockLines_comment (by simp) hdoc, textLines_of_not_mem h]
    rfl
  rw [List.flatMap_eq_nil_iff]
  intro s hs
  rw [docLines] at hs
  split at hs
  · obtain ⟨line, hline, rfl⟩ := List.mem_map.1 hs
    exact hcomment line (break_not_mem_lines (by simp) hline)
  · have hline : "/// Typed view of a validated `" ++ c.name.text ++ "`.\n" =
        "/// " ++ ("Typed view of a validated `" ++ c.name.text ++ "`.") ++ "\n" :=
      String.toList_inj.1 (by simp)
    rw [List.mem_singleton.1 hs, hline]
    exact hcomment _ (by simpa using break_not_mem_name c.name)

/-- The lines of a field's description that are left outside of its comment. -/
def leaked (f : Field) : List (List Char) :=
  match f.description with
  | some text => (textLines text.toList).tail.filter (!isDocLine ·)
  | none => []

theorem leaked_eq_nil_iff {f : Field} :
    leaked f = [] ↔ ∀ text ∈ f.description, Contained text := by
  rw [leaked]
  cases f.description with
  | none => simp
  | some text => simp [Contained]

def fieldCode (f : Field) : List (List Char) := (structField f.undescribed).flatMap blockLines

theorem leaked_undescribed (f : Field) : leaked f.undescribed = [] := rfl

theorem fieldCode_undescribed (f : Field) : fieldCode f.undescribed = fieldCode f := rfl

theorem flatMap_structField (f : Field) :
    (structField f).flatMap blockLines = leaked f ++ fieldCode f := by
  have hdoc (rest : List Char) : isDocLine ("    /// ".toList ++ rest) = true := by
    simp [isDocLine_blank, isDocLine_slashes]
  rw [structField, List.flatMap_append]
  congr 1
  rw [leaked]
  cases f.description with
  | none => rfl
  | some text =>
    rw [List.flatMap_singleton, blockLines_comment (by simp) hdoc]

theorem endsLine_append {a b : String} (h : EndsLine b) : EndsLine (a ++ b) := by
  rw [EndsLine] at *
  simp [h]

theorem endsLine_of_mem_blocks {c : Composite} : ∀ s ∈ blocks c, EndsLine s := by
  have hdoc : ∀ s ∈ docLines c, EndsLine s := by
    intro s hs
    rw [docLines] at hs
    split at hs
    · obtain ⟨line, -, rfl⟩ := List.mem_map.1 hs
      exact endsLine_append rfl
    · rw [List.mem_singleton.1 hs]
      exact endsLine_append rfl
  have hfield (f : Field) : ∀ s ∈ structField f, EndsLine s := by
    intro s hs
    rw [structField] at hs
    rcases List.mem_append.1 hs with hs | hs
    · split at hs
      · rw [List.mem_singleton.1 hs]
        exact endsLine_append rfl
      · cases hs
    · rw [List.mem_singleton.1 hs]
      exact endsLine_append rfl
  have hread (f : Field) : EndsLine (readField f) := endsLine_append rfl
  simp +decide only [blocks, List.forall_mem_append, List.forall_mem_cons, List.forall_mem_map,
    List.forall_mem_flatMap, hread, endsLine_append, implies_true, and_true, true_and]
  exact ⟨hdoc, fun f _ => hfield f⟩

/-- Lists that are put in front of others change nothing only if they are empty. -/
theorem flatMap_append_eq_iff {α β : Type} {g h : α → List β} {xs : List α} :
    (xs.flatMap fun x => g x ++ h x) = xs.flatMap h ↔ ∀ x ∈ xs, g x = [] := by
  constructor
  · intro heq
    have hlength := congrArg List.length heq
    simp only [List.length_flatMap, List.length_append, List.sum_map_add] at hlength
    have hzero : (xs.map fun x => (g x).length).sum = 0 := by omega
    simpa [List.sum_eq_zero_iff] using hzero
  · intro hnil
    exact List.flatMap_congr fun x hx => by rw [hnil x hx, List.nil_append]

/-- Without descriptions the code lines are the same if and only if no field leaks any. -/
theorem codeLines_source_eq_iff (c : Composite) :
    codeLines (source c).toList = codeLines (source c.undescribed).toList ↔
      ∀ f ∈ c.fields, ∀ text ∈ f.description, Contained text := by
  have hname : c.undescribed.name = c.name := rfl
  have hread : c.undescribed.fields.map readField = c.fields.map readField := by
    rw [Composite.undescribed, List.map_map]
    rfl
  have hfields : (c.undescribed.fields.flatMap fun f => leaked f ++ fieldCode f) =
      c.fields.flatMap fieldCode := by
    simp only [Composite.undescribed, List.flatMap_map, leaked_undescribed, fieldCode_undescribed,
      List.nil_append]
  simp only [← leaked_eq_nil_iff, source, codeLines_join endsLine_of_mem_blocks]
  simp only [blocks, List.flatMap_append, flatMap_docLines, List.flatMap_assoc, flatMap_structField,
    hname, hread, hfields, List.append_assoc, List.append_right_inj, List.append_left_inj,
    flatMap_append_eq_iff]

/-- Descriptions of fields that stay inside their comments, and any description of the composite,
leave no trace in the code; every other description of a field does. -/
theorem code_undescribed_iff {c d : Composite} (h : c.undescribed = d.undescribed)
    (hd : ∀ f ∈ d.fields, ∀ text ∈ f.description, Contained text) :
    codeLines (source c).toList = codeLines (source d).toList ↔
      ∀ f ∈ c.fields, ∀ text ∈ f.description, Contained text := by
  rw [(codeLines_source_eq_iff d).2 hd, ← h]
  exact codeLines_source_eq_iff c

def addressSchema (own street : Option String) : Composite where
  name := ⟨"Address", by decide⟩
  description := own
  fields :=
    [⟨"street", .leaf .string, true, false, street⟩,
      ⟨"city", .leaf .string, false, false, some "Where it is."⟩]
  additional := .any

theorem addressSchema_undescribed (own street : Option String) :
    (addressSchema own street).undescribed = (addressSchema none none).undescribed := rfl

theorem forall_mem_addressSchema {own street : Option String} :
    (∀ f ∈ (addressSchema own street).fields, ∀ text ∈ f.description, Contained text) ↔
      ∀ text ∈ street, Contained text := by
  have hcity : Contained "Where it is." := by decide
  simp [addressSchema, hcity]

/-- The second line of a description becomes a line of the code. -/
theorem addressSchema_leaks :
    (addressSchema none (some "Street and number\npub struct Injected;")).undescribed =
        (addressSchema none none).undescribed ∧
      codeLines (source (addressSchema none
          (some "Street and number\npub struct Injected;"))).toList ≠
        codeLines (source (addressSchema none none)).toList := by
  have hleak : ¬Contained "Street and number\npub struct Injected;" := by decide
  refine ⟨addressSchema_undescribed _ _, fun heq => hleak ?_⟩
  have hnone := (codeLines_source_eq_iff (addressSchema none none)).2
    (forall_mem_addressSchema.2 (by simp))
  rw [hnone, ← addressSchema_undescribed none (some _), codeLines_source_eq_iff,
    forall_mem_addressSchema] at heq
  exact heq _ rfl

/-- A description in several lines, and one whose second line is a comment. -/
theorem addressSchema_contained :
    (addressSchema (some "An address.\r\n\npub fn\n")
          (some "Street\n\t/// and number")).undescribed =
        (addressSchema none none).undescribed ∧
      Contained "Street\n\t/// and number" ∧
      codeLines (source (addressSchema (some "An address.\r\n\npub fn\n")
          (some "Street\n\t/// and number"))).toList =
        codeLines (source (addressSchema none none)).toList := by
  have hstreet : Contained "Street\n\t/// and number" := by decide
  refine ⟨addressSchema_undescribed _ _, hstreet, ?_⟩
  rw [code_undescribed_iff (addressSchema_undescribed _ _) (forall_mem_addressSchema.2 (by simp)),
    forall_mem_addressSchema]
  simpa using hstreet

end Wrapper
end PayloadSchema
