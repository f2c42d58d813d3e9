import PayloadSchema.Document

/-! Files and folders held in memory, found by paths as a file system finds them. -/
namespace PayloadSchema

inductive FileTree where
  | file (content : List UInt8)
  | folder (children : List (String × FileTree))

namespace FileTree

def empty : FileTree := folder []

def isFile : FileTree → Bool
  | file _ => true
  | folder _ => false

def parts (path : String) : List String := path.splitOn "/"

def setChild : List (String × FileTree) → String → FileTree → List (String × FileTree)
  | [], name, t => [(name, t)]
  | (n, u) :: rest, name, t =>
    if n = name then (n, t) :: rest else (n, u) :: setChild rest name t

/-- Puts a tree in at a place; the folders on the way are made. -/
def put (t : FileTree) : List String → FileTree → FileTree
  | [], new => new
  | name :: rest, new =>
    match t with
    | folder children =>
      folder (setChild children name (((children.lookup name).getD empty).put rest new))
    | file content => file content

def putFolder (t : FileTree) : List String → FileTree
  | [] => t
  | name :: rest =>
    match t with
    | folder children =>
      folder (setChild children name (((children.lookup name).getD empty).putFolder rest))
    | file content => file content

/-- Follows the parts of a path; `outer` holds the folders around. Above the top are empty folders
only. -/
def walk (outer : List FileTree) : FileTree → List String → Option FileTree
  | t, [] => some t
  | file _, _ :: _ => none
  | folder children, name :: rest =>
    if name = "" ∨ name = "." then walk outer (folder children) rest
    else if name = ".." then
      match outer with
      | [] => walk [] empty rest
      | t :: outer => walk outer t rest
    else
      match children.lookup name with
      | some t => walk (folder children :: outer) t rest
      | none => none

def find? (t : FileTree) (path : String) : Option FileTree := walk [] t (parts path)

def content? (t : FileTree) (path : String) : Option (List UInt8) :=
  match t.find? path with
  | some (file content) => some content
  | _ => none

def entry : String × FileTree → FolderEntry
  | (name, file content) => ⟨name, true, some content⟩
  | (name, folder _) => ⟨name, false, none⟩

def entries? (t : FileTree) (path : String) : Option (List FolderEntry) :=
  match t.find? path with
  | some (folder children) => some (children.map entry)
  | _ => none

end FileTree
end PayloadSchema
