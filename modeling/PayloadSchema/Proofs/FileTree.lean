import Mathlib.Tactic.Common
import PayloadSchema.Command.Run

/-!
Files that are written into a tree. A command reads the file that it names and the declarations in
its folder, so that a file which is written anywhere else changes nothing that the command prints.
-/
namespace PayloadSchema

namespace FileTree
variable {t : FileTree} {children : List (String × FileTree)} {name : String}
  {place other dir rest : List String} {bytes : List UInt8}

def Plain (place : List String) : Prop := ∀ name ∈ place, name ≠ "" ∧ name ≠ "." ∧ name ≠ ".."

def at? : FileTree → List String → Option FileTree
  | t, [] => some t
  | file _, _ :: _ => none
  | folder children, name :: rest => (children.lookup name).bind fun t => t.at? rest

def contentAt? (t : FileTree) (place : List String) : Option (List UInt8) :=
  match t.at? place with
  | some (file content) => some content
  | _ => none

theorem walk_eq (outer : List FileTree) (h : Plain place) : walk outer t place = t.at? place := by
  induction place generalizing t outer with
  | nil => cases t <;> rfl
  | cons name rest ih =>
    obtain ⟨⟨hempty, hhere, hup⟩, hrest⟩ := List.forall_mem_cons.1 h
    cases t with
    | file content => rfl
    | folder children =>
      simp only [walk, hempty, hhere, hup, or_self, if_false, at?]
      cases children.lookup name with
      | none => rfl
      | some u => exact ih _ hrest

theorem find?_eq {path : String} (h : Plain (parts path)) : t.find? path = t.at? (parts path) :=
  walk_eq [] h

theorem content?_eq {path : String} (h : Plain (parts path)) :
    t.content? path = t.contentAt? (parts path) := by
  rw [content?, find?_eq h]
  rfl

theorem entries?_eq_some {path : String} {listing : List FolderEntry} (h : Plain (parts path)) :
    t.entries? path = some listing ↔
      ∃ children, t.at? (parts path) = some (folder children) ∧ children.map entry = listing := by
  rw [entries?, find?_eq h]
  cases t.at? (parts path) with
  | none => simp
  | some u => cases u <;> simp

/-- A file may be written at the place: only folders stand on the way, and none at its end. -/
inductive Free : FileTree → List String → Prop
  | file (content : List UInt8) : Free (.file content) []
  | folder {children : List (String × FileTree)} {name : String} {rest : List String}
      (h : ∀ t, children.lookup name = some t → Free t rest) :
      Free (.folder children) (name :: rest)

theorem lookup_cons_of_ne {n : String} (h : name ≠ n) (u : FileTree) :
    ((n, u) :: children).lookup name = children.lookup name := by
  rw [List.lookup_cons, beq_eq_false_iff_ne.2 h]

theorem lookup_setChild (children : List (String × FileTree)) (name other : String)
    (new : FileTree) : (setChild children name new).lookup other =
      if other = name then some new else children.lookup other := by
  induction children with
  | nil =>
    by_cases hother : other = name
    · simp [setChild, hother]
    · simp [setChild, lookup_cons_of_ne hother, hother]
  | cons child children ih =>
    obtain ⟨n, u⟩ := child
    rw [setChild]
    by_cases hname : n = name
    · subst hname
      by_cases hother : other = n
      · simp [hother]
      · simp [lookup_cons_of_ne hother, hother]
    · by_cases hother : other = n
      · subst hother
        simp [hname]
      · simp [lookup_cons_of_ne hother, hname, ih]

theorem contentAt?_folder (children : List (String × FileTree)) (name : String)
    (rest : List String) : (folder children).contentAt? (name :: rest) =
      (children.lookup name).bind fun t => t.contentAt? rest := by
  rw [contentAt?, at?]
  cases children.lookup name <;> rfl

/-- A file that stands alone, with the folders on the way. -/
theorem contentAt?_put_empty (place other : List String) :
    (empty.put place (.file bytes)).contentAt? other =
      if other = place then some bytes else none := by
  induction place generalizing other with
  | nil => cases other <;> rfl
  | cons name rest ih =>
    cases other with
    | nil => rfl
    | cons n other =>
      rw [empty, put, contentAt?_folder, lookup_setChild]
      by_cases hn : n = name
      · simpa [hn, empty] using ih other
      · simp [hn]

theorem contentAt?_put (h : t.Free place) (other : List String) :
    (t.put place (.file bytes)).contentAt? other =
      if other = place then some bytes else t.contentAt? other := by
  induction h generalizing other with
  | file content => cases other <;> rfl
  | @folder children name rest h ih =>
    cases other with
    | nil => rfl
    | cons n other =>
      rw [put, contentAt?_folder, lookup_setChild, contentAt?_folder]
      by_cases hn : n = name
      · subst hn
        cases hlookup : children.lookup n with
        | none => simpa using contentAt?_put_empty rest other
        | some u => simpa using ih u hlookup other
      · simp [hn]

theorem isFile_put (t : FileTree) (name : String) (rest : List String) (new : FileTree) :
    (t.put (name :: rest) new).isFile = t.isFile := by
  cases t <;> rfl

theorem Free.isFile_eq_false (h : t.Free (name :: rest)) : t.isFile = false := by
  cases h
  rfl

def declarations (children : List (String × FileTree)) : List FolderEntry :=
  (children.map entry).filter Registry.isDeclarationFile

theorem isDeclarationFile_entry (name : String) (t : FileTree) :
    Registry.isDeclarationFile (entry (name, t)) =
      (t.isFile && Registry.isDeclarationName name) := by
  cases t <;> rfl

theorem declarations_setChild {new : FileTree}
    (hnew : Registry.isDeclarationFile (entry (name, new)) = false)
    (hold : ∀ t, children.lookup name = some t →
      Registry.isDeclarationFile (entry (name, t)) = false) :
    declarations (setChild children name new) = declarations children := by
  induction children with
  | nil => simp [declarations, setChild, hnew]
  | cons child children ih =>
    obtain ⟨n, u⟩ := child
    rw [setChild]
    by_cases hn : n = name
    · subst hn
      simp [declarations, hnew, hold u List.lookup_cons_self]
    · have hrest : declarations (setChild children name new) = declarations children :=
        ih fun t ht => hold t (by rwa [lookup_cons_of_ne (Ne.symm hn)])
      simp only [declarations] at hrest
      simp [declarations, hn, List.filter_cons, hrest]

/-- A folder keeps its declarations when a file is written that is none of them. -/
theorem declarations_put (h : t.Free place) (hdir : t.at? dir = some (folder children))
    (hplace : ∀ name, Registry.isDeclarationName name = true → place ≠ dir ++ [name]) :
    ∃ children', (t.put place (.file bytes)).at? dir = some (folder children') ∧
      declarations children' = declarations children := by
  induction h generalizing dir with
  | file content => cases dir <;> cases hdir
  | @folder siblings name rest h ih =>
    cases dir with
    | nil =>
      cases hdir
      refine ⟨_, rfl, ?_⟩
      -- The entry in this folder is the file itself, or a folder on the way to it.
      cases rest with
      | nil =>
        have hname : Registry.isDeclarationName name = false :=
          Bool.eq_false_iff.2 fun hname => hplace name hname rfl
        have hentry (u : FileTree) : Registry.isDeclarationFile (entry (name, u)) = false := by
          rw [isDeclarationFile_entry, hname, Bool.and_false]
        exact declarations_setChild (hentry _) fun u _ => hentry u
      | cons m rest =>
        have hentry {u : FileTree} (hu : u.isFile = false) :
            Registry.isDeclarationFile (entry (name, u)) = false := by
          rw [isDeclarationFile_entry, hu, Bool.false_and]
        refine declarations_setChild (hentry ?_) fun u hu => hentry (h u hu).isFile_eq_false
        rw [isFile_put]
        cases hlookup : children.lookup name with
        | none => rfl
        | some u => exact (h u hlookup).isFile_eq_false
    | cons n dir =>
      rw [put, at?, lookup_setChild]
      rw [at?] at hdir
      by_cases hn : n = name
      · subst hn
        obtain ⟨u, hlookup, hu⟩ := Option.bind_eq_some_iff.1 hdir
        obtain ⟨children', hat, hsame⟩ :=
          ih u hlookup hu fun name hname hrest => hplace name hname (by rw [hrest]; rfl)
        exact ⟨children', by simpa [hlookup] using hat, hsame⟩
      · exact ⟨children, by simpa [hn] using hdir, rfl⟩

end FileTree

namespace Command
open FileTree
variable {t : FileTree} {place : List String} {bytes : List UInt8} {line : Line}

/-- Nothing that the command reads is at the place: the command names another file, and no
declaration in its folder has that place. -/
structure PassesOver (t : FileTree) (place : List String) (line : Line) : Prop where
  file (model path : String) (json : Bool) (h : line.request = .validate model path json) :
    Plain (parts path) ∧ parts path ≠ place
  folder (path : String) (h : line.schemas = some path) :
    Plain (parts path) ∧ (t.entries? path).isSome = true ∧
      ∀ name, Registry.isDeclarationName name = true → place ≠ parts path ++ [name]

theorem loadFolder_entries (r : Registry) (path : String) (children : List (String × FileTree)) :
    r.loadFolder path (some (children.map entry)) =
      r.loadFiles path 0 ((declarations children).mergeSort fun a b => decide (a.name ≤ b.name)) :=
  rfl

theorem registryFor_put (h : t.Free place) (hpass : PassesOver t place line) :
    registryFor (t.put place (.file bytes)).fileSystem line.schemas =
      registryFor t.fileSystem line.schemas := by
  cases hfolder : line.schemas with
  | none => rfl
  | some path =>
    obtain ⟨hplain, hentries, hplace⟩ := hpass.folder path hfolder
    obtain ⟨listing, hlisting⟩ := Option.isSome_iff_exists.1 hentries
    obtain ⟨children, hat, rfl⟩ := (entries?_eq_some hplain).1 hlisting
    obtain ⟨children', hat', hsame⟩ := declarations_put h hat hplace
    have hlisting' := (entries?_eq_some hplain).2 ⟨children', hat', rfl⟩
    change loadRegistry (some (path, (t.put place (.file bytes)).entries? path)) =
      loadRegistry (some (path, t.entries? path))
    rw [hlisting, hlisting', loadRegistry, loadRegistry, loadFolder_entries, loadFolder_entries,
      hsame]

theorem answer_put (h : t.Free place) (hpass : PassesOver t place line) (r : Registry) :
    answer (t.put place (.file bytes)).fileSystem r line.request =
      answer t.fileSystem r line.request := by
  cases hrequest : line.request with
  | validate model path json =>
    obtain ⟨hplain, hne⟩ := hpass.file model path json hrequest
    have hcontent : (t.put place (.file bytes)).content? path = t.content? path := by
      rw [content?_eq hplain, content?_eq hplain, contentAt?_put h, if_neg hne]
    exact congrArg (fun content => validate r model path content json) hcontent
  | _ => rfl

/-- A payload that is written to a file is the one that is validated. -/
theorem answer_put_self {model path : String} {json : Bool} (hplain : Plain (parts path))
    (h : t.Free (parts path)) (r : Registry) :
    answer (t.put (parts path) (.file bytes)).fileSystem r (.validate model path json) =
      validate r model path (some bytes) json := by
  have hcontent : (t.put (parts path) (.file bytes)).content? path = some bytes := by
    rw [content?_eq hplain, contentAt?_put h, if_pos rfl]
  exact congrArg (fun content => validate r model path content json) hcontent

/-- A command prints the same after a file is written that it does not read. -/
theorem run_put (h : t.Free place) (hpass : PassesOver t place line) :
    run (t.put place (.file bytes)).fileSystem line = run t.fileSystem line := by
  unfold run
  rw [registryFor_put h hpass]
  simp only [answer_put h hpass]

end Command
end PayloadSchema
