import Mathlib
import PayloadSchema.Proofs.Registry.Operations

/-!
Folders of declaration files. The files are registered in the order of their names, so that it does
not matter in which order the folder lists them: neither for the outcome nor for what is registered
before a failure. If there is none, the registry grows by the declarations of all the files.
-/
namespace PayloadSchema
open Outcome

namespace Registry
variable {r r' : Registry} {name : SchemaName} {s : Schema} {es : List (SchemaName × Schema)}

theorem length_place (name : SchemaName) (s : Schema) (es : List (SchemaName × Schema)) :
    (place name s es).length = es.length + 1 := by
  induction es with
  | nil => rfl
  | cons e es ih =>
    rw [place]
    split
    · rfl
    · rw [List.length_cons, ih, List.length_cons]

theorem size_register (h : r.register name s = .ok r') : r'.size = r.size + 1 := by
  unfold register at h
  split at h
  · cases h
  · cases h
    exact length_place name s r.entries

theorem size_registerAll (h : r.registerAll es = (r', none)) : r'.size = r.size + es.length := by
  induction es generalizing r with
  | nil =>
    cases h
    rfl
  | cons e es ih =>
    obtain ⟨name, s⟩ := e
    rw [registerAll] at h
    cases hr : r.register name s with
    | error e =>
      rw [hr] at h
      cases h
    | ok r₁ =>
      rw [hr] at h
      rw [ih h, size_register hr, List.length_cons]
      omega

structure TakesIn (r : Registry) (es : List (SchemaName × Schema)) (r' : Registry) : Prop where
  size : r'.size = r.size + es.length
  mem_iff : ∀ e, e ∈ r'.entries ↔ e ∈ es ∨ e ∈ r.entries

theorem takesIn_of_registerAll (h : r.registerAll es = (r', none)) : r.TakesIn es r' := by
  rcases registerAll_cases r es with ⟨r₁, hrun, hadds⟩ | ⟨r₁, text, hrun, -⟩
  · cases hrun.symm.trans h
    exact ⟨size_registerAll h, hadds.mem_iff⟩
  · cases hrun.symm.trans h

theorem takesIn_of_loadFile {path : String} {content : Option (List UInt8)} {n : Nat}
    (h : r.loadFile path content = (r', .ok n)) :
    ∃ es, Operation.entries (.loadFile path content) = .ok es ∧ es.length = n ∧
      r.TakesIn es r' := by
  rw [loadFile] at h
  cases hdocument : Document.parse path content with
  | error e =>
    rw [hdocument] at h
    cases h
  | ok document =>
    rw [hdocument] at h
    simp only [load] at h
    cases hes : Declaration.parse document path with
    | error e =>
      rw [hes] at h
      cases h
    | ok es =>
      rw [hes] at h
      simp only at h
      split at h
      · rename_i r₁ hrun
        cases h
        exact ⟨es, by rw [Operation.entries, hdocument, ok_bind, hes], rfl,
          takesIn_of_registerAll hrun⟩
      · cases h

end Registry

def FolderEntry.path (f : FolderEntry) (folder : String) : String :=
  folder ++ (if folder.endsWith "/" then "" else "/") ++ f.name

def FolderEntry.Declares (f : FolderEntry) (folder : String) (e : SchemaName × Schema) : Prop :=
  ∃ es, Registry.Operation.entries (.loadFile (f.path folder) f.content) = .ok es ∧ e ∈ es

namespace Registry
variable {r r' : Registry} {folder : String} {files : List FolderEntry}

theorem loadFiles_cons (f : FolderEntry) (total : Nat) :
    r.loadFiles folder total (f :: files) =
      match r.loadFile (f.path folder) f.content with
      | (r, .ok n) => r.loadFiles folder (total + n) files
      | (r, .error e) => (r, .error e) :=
  rfl

/-- Files that are all registered add what they declare, and are counted. -/
theorem loadFiles_eq_ok {total n : Nat} (h : r.loadFiles folder total files = (r', .ok n)) :
    r'.size + total = r.size + n ∧
      ∀ e, e ∈ r'.entries ↔ e ∈ r.entries ∨ ∃ f ∈ files, f.Declares folder e := by
  induction files generalizing r total with
  | nil =>
    cases h
    simp
  | cons f files ih =>
    rw [loadFiles_cons] at h
    split at h
    · rename_i r₁ m hfile
      obtain ⟨es, hes, rfl, htakes⟩ := takesIn_of_loadFile hfile
      obtain ⟨hsize, hmem⟩ := ih h
      have hdeclares (e : SchemaName × Schema) : f.Declares folder e ↔ e ∈ es := by
        constructor
        · rintro ⟨es', hes', he⟩
          cases hes.symm.trans hes'
          exact he
        · exact fun he => ⟨es, hes, he⟩
      refine ⟨by have := htakes.size; omega, fun e => ?_⟩
      rw [hmem, htakes.mem_iff]
      simp only [List.exists_mem_cons_iff, hdeclares]
      tauto
    · cases h

theorem byName_trans (a b c : FolderEntry) (hab : decide (a.name ≤ b.name) = true)
    (hbc : decide (b.name ≤ c.name) = true) : decide (a.name ≤ c.name) = true :=
  decide_eq_true (le_trans (of_decide_eq_true hab) (of_decide_eq_true hbc))

theorem byName_total (a b : FolderEntry) :
    (decide (a.name ≤ b.name) || decide (b.name ≤ a.name)) = true := by
  simpa using le_total a.name b.name

/-- Entries with different names can be sorted in one way only. -/
theorem mergeSort_eq_of_perm {listing entries : List FolderEntry} (hperm : listing.Perm entries)
    (hnames : (entries.map (·.name)).Nodup) :
    (listing.mergeSort fun a b => decide (a.name ≤ b.name)) =
      entries.mergeSort fun a b => decide (a.name ≤ b.name) := by
  have hsorted := List.pairwise_mergeSort byName_trans byName_total
  have hsort (fs : List FolderEntry) := List.mergeSort_perm fs fun a b => decide (a.name ≤ b.name)
  refine List.Perm.eq_of_pairwise ?_ (hsorted listing) (hsorted entries)
    ((hsort listing).trans (hperm.trans (hsort entries).symm))
  intro a b ha hb hab hba
  have hname : a.name = b.name := le_antisymm (of_decide_eq_true hab) (of_decide_eq_true hba)
  have hin : a ∈ entries := hperm.mem_iff.1 ((hsort listing).mem_iff.1 ha)
  exact List.inj_on_of_nodup_map hnames hin ((hsort entries).mem_iff.1 hb) hname

/-- It does not matter in which order a folder lists its entries, whether all files can be
registered or not. If they can, the count says by how many schemas the registry has grown, and
these are the ones that the declaration files declare. -/
theorem loadFolder_ignores_order {listing entries : List FolderEntry}
    (hperm : listing.Perm entries) (hnames : (entries.map (·.name)).Nodup) (r : Registry)
    (folder : String) :
    r.loadFolder folder (some listing) = r.loadFolder folder (some entries) ∧
      ∀ r' n, r.loadFolder folder (some entries) = (r', .ok n) →
        r'.size = r.size + n ∧
          ∀ e, e ∈ r'.entries ↔ e ∈ r.entries ∨
            ∃ f ∈ entries, isDeclarationFile f = true ∧ f.Declares folder e := by
  have hfiles := hperm.filter isDeclarationFile
  have hnames' : ((entries.filter isDeclarationFile).map (·.name)).Nodup :=
    hnames.sublist (List.filter_sublist.map _)
  constructor
  · exact congrArg (r.loadFiles folder 0) (mergeSort_eq_of_perm hfiles hnames')
  · intro r' n h
    obtain ⟨hsize, hmem⟩ := loadFiles_eq_ok h
    refine ⟨by omega, fun e => ?_⟩
    rw [hmem]
    simp only [List.mem_mergeSort, List.mem_filter, and_assoc]

def amountFile : FolderEntry :=
  ⟨"amount.schema.json", true,
    some "\x7b\"name\": \"Amount\", \"type\": \"number\"\x7d".toUTF8.data.toList⟩

def textFile : FolderEntry :=
  ⟨"text.schema.json", true,
    some "\x7b\"name\": \"Text\", \"type\": \"string\"\x7d".toUTF8.data.toList⟩

def unitFiles : List FolderEntry := [amountFile, ⟨"notes.txt", true, some []⟩, textFile]

theorem loadFolder_unitFiles (r : Registry) :
    r.loadFolder "units" (some unitFiles) = r.loadFiles "units" 0 [amountFile, textFile] := by
  have hfilter : unitFiles.filter isDeclarationFile = [amountFile, textFile] := by cbv
  rw [loadFolder, hfilter]
  exact congrArg (r.loadFiles "units" 0) (List.mergeSort_of_pairwise (by decide +kernel))

/-- The name in the second file is taken, so that only the first one is registered, however the
files are listed. Without the clash both are. -/
theorem unitFiles_ignore_order :
    unitFiles.reverse.Perm unitFiles ∧ (unitFiles.map (·.name)).Nodup ∧
      failure? (textRegistry.loadFolder "units" (some unitFiles.reverse)).2 =
        some (.duplicate "Text") ∧
      (textRegistry.loadFolder "units" (some unitFiles.reverse)).1.names = ["Amount", "Text"] ∧
      ∃ r, empty.loadFolder "units" (some unitFiles.reverse) = (r, .ok 2) ∧
        r.size = empty.size + 2 := by
  have hperm : unitFiles.reverse.Perm unitFiles := List.reverse_perm _
  have hnames : (unitFiles.map (·.name)).Nodup := by decide +kernel
  have hclash := (loadFolder_ignores_order hperm hnames textRegistry "units").1
  obtain ⟨horder, hgrown⟩ := loadFolder_ignores_order hperm hnames empty "units"
  rw [hclash, horder]
  have hcount : (empty.loadFolder "units" (some unitFiles)).2 = .ok 2 := by
    rw [loadFolder_unitFiles]
    decide +kernel
  refine ⟨hperm, hnames, ?_, ?_, _, Prod.ext rfl hcount, (hgrown _ _ (Prod.ext rfl hcount)).1⟩
  · rw [loadFolder_unitFiles]
    decide +kernel
  · rw [loadFolder_unitFiles]
    decide +kernel

end Registry
end PayloadSchema
