/-!
# Trees of files

Content is read from a tree of files and folders. A path is a list of names
separated by slashes; a single point stands for the folder itself and two points
for the folder above. Where a path leads through something that is no folder, or
to nothing, reading fails with the error that an operating system would report.
-/
set_option autoImplicit false
namespace SkillScript

def pathNames (path : String) : List String :=
  (path.toList.splitOn '/').map String.ofList

inductive FileTree where
  | file (bytes : ByteArray)
  | folder (entries : List (String × FileTree))
deriving Inhabited

inductive FileError where
  | notFound
  | isFolder
  | notFolder
  /-- The bytes are not UTF-8. -/
  | notText
deriving DecidableEq, Repr

def FileError.message : FileError → String
  | notFound => "No such file or directory (os error 2)"
  | isFolder => "Is a directory (os error 21)"
  | notFolder => "Not a directory (os error 20)"
  | notText => "stream did not contain valid UTF-8"

namespace FileTree

def empty : FileTree := folder []

def child (t : FileTree) (name : String) : Except FileError FileTree :=
  match t with
  | file _ => .error .notFolder
  | folder entries =>
    match entries.find? fun e => e.1 = name with
    | some e => .ok e.2
    | none => .error .notFound

/-- Follows the names of a path. `above` holds the folders on the way, the nearest first. -/
def walk : List FileTree → FileTree → List String → Except FileError FileTree
  | _, here, [] => .ok here
  | above, here, name :: path =>
    match here with
    | file _ => .error .notFolder
    | folder entries =>
      if name = "" || name = "." then walk above here path
      else if name = ".." then
        match above with
        | [] => .error .notFound
        | parent :: above => walk above parent path
      else do walk (here :: above) (← (folder entries).child name) path

def resolve (t : FileTree) (path : String) : Except FileError FileTree :=
  walk [] t (pathNames path)

def exists? (t : FileTree) (path : String) : Bool :=
  (t.resolve path).isOk

def readText (t : FileTree) (path : String) : Except FileError String := do
  match ← t.resolve path with
  | folder _ => throw .isFolder
  | file bytes =>
    match String.fromUTF8? bytes with
    | some text => return text
    | none => throw .notText

def names (t : FileTree) (path : String) : Except FileError (List String) := do
  match ← t.resolve path with
  | folder entries => return entries.map Prod.fst
  | file _ => throw .notFolder

def putIn (name : String) (t : FileTree) : List (String × FileTree) → List (String × FileTree)
  | [] => [(name, t)]
  | e :: rest => if e.1 = name then (name, t) :: rest else e :: putIn name t rest

/-- Puts a tree at a path; folders on the way are made where there are none. A folder that is
already there is kept. -/
def put (t : FileTree) (path : List String) (new : FileTree) : FileTree :=
  match path with
  | [] =>
    match new, t with
    | folder [], folder entries => folder entries
    | new, _ => new
  | name :: path =>
    match t with
    | file _ => folder [(name, put empty path new)]
    | folder entries =>
      let old := match entries.find? fun e => e.1 = name with
        | some e => e.2
        | none => empty
      folder (putIn name (put old path new) entries)

end FileTree

def isPathName (name : String) : Bool :=
  name ≠ "" && name ≠ "."

/-- The last name of a path, unless the path ends by going up. -/
def fileName? (path : String) : Option String :=
  match (pathNames path).filter isPathName |>.getLast? with
  | some ".." => none
  | last => last

/-- The parts of a file name before and after its last point. A point at the very start does not
count. -/
def splitExtension (name : String) : String × Option String :=
  match name.toList.reverse.span (· ≠ '.') with
  | (_, []) => (name, none)
  | (_, [_]) => (name, none)
  | (extension, _ :: stem) =>
    (String.ofList stem.reverse, some (String.ofList extension.reverse))

end SkillScript
