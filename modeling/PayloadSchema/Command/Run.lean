import PayloadSchema.Command
import PayloadSchema.Command.Line
import PayloadSchema.FileTree

/-!
Command lines that are run. How files and folders are read is left open: a command runs on a disk
and on files in memory alike.
-/
namespace PayloadSchema

structure FileSystem (m : Type → Type) where
  content? (path : String) : m (Option (List UInt8))
  entries? (path : String) : m (Option (List FolderEntry))

def FileTree.fileSystem (t : FileTree) : FileSystem Id := ⟨t.content?, t.entries?⟩

namespace Command

structure Exit where
  out : String
  err : String
  status : UInt32

def Exit.failed (f : Failure) : Exit := ⟨"", f.text ++ "\n", 1⟩

variable {m : Type → Type} [Monad m] (files : FileSystem m)

def registryFor : Option String → m (Except Failure Registry)
  | none => pure (loadRegistry none)
  | some path => do pure (loadRegistry (some (path, ← files.entries? path)))

def answer (r : Registry) : Request → m (Except Failure (Bool × String))
  | .validate model file json => do pure (validate r model file (← files.content? file) json)
  | .list => pure (.ok (true, list r))
  | .describe model => pure ((describe r model).map fun out => (true, out))
  | .generate model => pure ((generate r model).map fun out => (true, out))
  | .help => pure (.ok (true, Line.usage))

def run (line : Line) : m Exit := do
  match ← registryFor files line.schemas with
  | .error f => pure (.failed f)
  | .ok r =>
    match ← answer files r line.request with
    | .error f => pure (.failed f)
    | .ok (valid, out) => pure ⟨out, "", if valid then 0 else 1⟩

end Command
end PayloadSchema
