import PayloadSchema.Pattern.Program.Compile
import PayloadSchema.Pattern.Reader
import PayloadSchema.Pattern.Search

/-! Patterns that a text can be searched for. A pattern is known by its source. -/
namespace PayloadSchema

def Pattern.program (source : String) : Except Pattern.Fault Pattern.Program :=
  match Pattern.read? source.toList with
  | none => .error .malformed
  | some e =>
    match e.program? with
    | none => .error .tooLarge
    | some p => .ok p

structure Pattern where
  source : String
  search : Pattern.Program
  compiled : Pattern.program source = .ok search

namespace Pattern

def compile (source : String) : Except Fault Pattern :=
  match h : program source with
  | .ok p => .ok ⟨source, p, h⟩
  | .error e => .error e

def compile? (source : String) : Option Pattern := (compile source).toOption

def isFoundIn (p : Pattern) (s : String) : Bool := p.search.isFoundIn s

/-- The source determines the pattern. -/
theorem ext_source {p q : Pattern} (h : p.source = q.source) : p = q := by
  obtain ⟨s, e, hp⟩ := p
  obtain ⟨t, d, hq⟩ := q
  subst h
  simp only [hp, Except.ok.injEq] at hq
  subst hq
  rfl

instance : DecidableEq Pattern := fun p q =>
  if h : p.source = q.source then .isTrue (ext_source h)
  else .isFalse fun e => h (congrArg source e)

end Pattern
end PayloadSchema
