import Mathlib
import PayloadSchema.Command
import PayloadSchema.Proofs.Registry.Folder
import PayloadSchema.Proofs.Validation.Conformance

/-!
Payloads in files. Declarations that are loaded add schemas with distinct field names only, to a
registry that starts with such schemas, and no file holds a key twice. So what the command prints
for a valid file conforms to its schema, whatever files there are.
-/
namespace PayloadSchema
open Outcome

namespace Registry
variable {r : Registry}

theorem isNamed_registerAll {es : List (SchemaName × Schema)} (hr : r.IsNamed)
    (hes : ∀ e ∈ es, e.2.IsNamed) : (r.registerAll es).1.IsNamed := by
  rcases registerAll_cases r es with ⟨r', hrun, hadds⟩ | ⟨r', text, hrun, hstops⟩
  · rw [hrun]
    intro e he
    exact ((hadds.mem_iff e).1 he).elim (hes e) (hr e)
  · obtain ⟨before, clash, after, rfl, -, hadds, -⟩ := hstops
    rw [hrun]
    intro e he
    exact ((hadds.mem_iff e).1 he).elim (fun he => hes e (List.mem_append_left _ he)) (hr e)

theorem isNamed_loadFile (hr : r.IsNamed) (path : String) (content : Option (List UInt8)) :
    (r.loadFile path content).1.IsNamed := by
  have hperform := perform_eq r (.loadFile path content)
  have hentries := Operation.delivers_loadFile path content
  cases hes : Operation.entries (.loadFile path content) with
  | error e =>
    rw [hes] at hperform
    rw [show (r.loadFile path content).1 = r from congrArg Prod.fst hperform]
    exact hr
  | ok es =>
    rw [hes] at hperform hentries
    rw [show (r.loadFile path content).1 = (r.registerAll es).1 from congrArg Prod.fst hperform]
    exact isNamed_registerAll hr hentries.result

theorem isNamed_loadFiles {folder : String} {total : Nat} {files : List FolderEntry}
    (hr : r.IsNamed) : (r.loadFiles folder total files).1.IsNamed := by
  induction files generalizing r total with
  | nil => exact hr
  | cons f files ih =>
    have hfile := isNamed_loadFile hr (f.path folder) f.content
    rw [loadFiles_cons]
    generalize r.loadFile (f.path folder) f.content = attempt at hfile ⊢
    obtain ⟨r₁, outcome⟩ := attempt
    cases outcome with
    | ok n => exact ih hfile
    | error e => exact hfile

theorem isNamed_loadFolder (hr : r.IsNamed) (folder : String)
    (entries : Option (List FolderEntry)) : (r.loadFolder folder entries).1.IsNamed := by
  cases entries with
  | none => exact hr
  | some entries => exact isNamed_loadFiles hr

theorem isNamed_models : Models.registry.IsNamed := by
  have hempty : Registry.empty.IsNamed := fun e he => by cases he
  have hentries : ∀ e ∈ Models.entries, e.2.all Schema.isWellNamed = true := by decide
  exact isNamed_registerAll hempty hentries

/-- A payload that is taken from a file conforms to the schema that it is validated against. -/
theorem validateDocument_conforms {name path : String} {content : Option (List UInt8)}
    {i : Instance} (hr : r.IsNamed) (h : r.validateDocument name path content = .ok i) :
    ∃ s, r.get? name = some s ∧ Conforms (Validator.new r) s i := by
  obtain ⟨-, -, h⟩ := bind_eq_ok.1 h
  obtain ⟨raw, hraw, h⟩ := bind_eq_ok.1 h
  have hdistinct : raw.DistinctKeys := by
    have hdelivers := Document.delivers_parse path content
    rw [mapError_eq_ok.1 hraw] at hdelivers
    exact hdelivers.result
  have hnamed := mapError_eq_ok.1 h
  rw [Validator.validateNamed] at hnamed
  split at hnamed
  · rename_i s hget
    obtain ⟨e, he, -, rfl⟩ := mem_of_get? hget
    exact ⟨e.2, hget, Validator.runConforms_of_apply hnamed (Nat.le_refl _)
      (hr.wellNamed (hr e he)) hdistinct⟩
  · cases hnamed

end Registry

namespace Command

theorem isNamed_of_loadRegistry {folder : Option (String × Option (List FolderEntry))}
    {r : Registry} (h : loadRegistry folder = .ok r) : r.IsNamed := by
  unfold loadRegistry at h
  split at h
  · cases h
    exact Registry.isNamed_models
  · rename_i path entries
    have hnamed := Registry.isNamed_loadFolder Registry.isNamed_models path entries
    generalize Models.registry.loadFolder path entries = attempt at h hnamed
    obtain ⟨r₁, outcome⟩ := attempt
    cases outcome with
    | ok n =>
      cases h
      exact hnamed
    | error e => cases h

/-- The command accepts a file only if it has an instance that conforms to the schema, and prints
the JSON form of that instance. -/
theorem conforms_of_validate {folder : Option (String × Option (List FolderEntry))} {r : Registry}
    {name path out : String} {content : Option (List UInt8)} {json : Bool}
    (hload : loadRegistry folder = .ok r)
    (h : validate r name path content json = .ok (true, out)) :
    ∃ s i, r.get? name = some s ∧ Conforms (Validator.new r) s i ∧
      out = i.encode.pretty ++ "\n" := by
  unfold validate at h
  split at h
  · rename_i i hvalid
    cases h
    obtain ⟨s, hget, hconforms⟩ :=
      Registry.validateDocument_conforms (isNamed_of_loadRegistry hload) hvalid
    exact ⟨s, i, hget, hconforms, rfl⟩
  all_goals cases h

end Command
end PayloadSchema
