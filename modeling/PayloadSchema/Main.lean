import PayloadSchema.Command.Run

/-! The program: reads files and folders, runs a command on what they hold, and prints. -/
namespace PayloadSchema.Main

def readFile (path : String) : IO (Option (List UInt8)) := do
  try
    let bytes ← IO.FS.readBinFile path
    pure (some bytes.toList)
  catch _ => pure none

def readEntry (entry : IO.FS.DirEntry) : IO FolderEntry := do
  let data ← entry.path.metadata
  match data.type with
  | .file => pure ⟨entry.fileName, true, ← readFile entry.path.toString⟩
  | _ => pure ⟨entry.fileName, false, none⟩

def readFolder (path : String) : IO (Option (List FolderEntry)) := do
  try
    let folder := (← IO.currentDir) / path
    let entries ← folder.readDir
    pure (some (← entries.toList.mapM readEntry))
  catch _ => pure none

def disk : FileSystem IO := ⟨readFile, readFolder⟩

end PayloadSchema.Main

def main (args : List String) : IO UInt32 := do
  match PayloadSchema.Command.Line.parse (← IO.getEnv "DJS_SCHEMA_DIR") args with
  | .error message =>
    IO.eprintln ("error: " ++ message ++ "\n\n" ++ PayloadSchema.Command.Line.usage)
    pure 2
  | .ok line =>
    let exit ← PayloadSchema.Command.run PayloadSchema.Main.disk line
    IO.print exit.out
    IO.eprint exit.err
    pure exit.status
