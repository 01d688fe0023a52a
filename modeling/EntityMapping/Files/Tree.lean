import EntityMapping.Assoc
import EntityMapping.Files.Path

/-!
# A file system

A file system is a list of locations, each with the folder or file that is there.  A path is
followed name by name from the working folder or the root.  Each operation gives the error that the
system reports, and the writing ones give the file system afterwards.
-/

namespace EntityMapping

open Text

/-- Why the system refuses an operation on a path. -/
inductive Errno where
  /-- Nothing is there. -/
  | notFound
  /-- Something is there already. -/
  | alreadyThere
  /-- A name leads through what is no folder. -/
  | notFolder
  /-- A folder is there. -/
  | isFolder
  /-- A name or the path is too long. -/
  | nameTooLong
deriving DecidableEq, Repr

namespace Errno

/-- The number of a system error. -/
def number : Errno → Nat
  | .notFound => 2
  | .alreadyThere => 17
  | .notFolder => 20
  | .isFolder => 21
  | .nameTooLong => 36

/-- The text of a system error. -/
def describe : Errno → String
  | .notFound => "No such file or directory"
  | .alreadyThere => "File exists"
  | .notFolder => "Not a directory"
  | .isFolder => "Is a directory"
  | .nameTooLong => "File name too long"

end Errno

/-- Why an operation on a path failed. -/
inductive FileError where
  /-- The system refuses it. -/
  | system (errno : Errno) (path : Path)
  /-- The path holds half of a pair alone. -/
  | halfInPath
  /-- The path holds the character U+0000. -/
  | nullInPath
  /-- The path leads through too many folders that are not there yet. -/
  | tooDeep
deriving DecidableEq, Repr

/-- The text of a failed operation. -/
def FileError.message : FileError → String
  | .system errno path =>
    "[Errno " ++ toString errno.number ++ "] " ++ errno.describe ++ ": " ++ quotedText path.text
  | .halfInPath => "surrogates not allowed"
  | .nullInPath => "embedded null byte"
  | .tooDeep => "maximum recursion depth exceeded"

/-- What makes a path one that leads nowhere in any file system. -/
def Path.flaw? (p : Path) : Option FileError :=
  if p.hasHalf then some .halfInPath else if p.hasNull then some .nullInPath else none

/-- The names that lead from the root to a file or folder. -/
abbrev Location := List String

/-- What is at a location. -/
inductive Node where
  /-- A folder. -/
  | folder
  /-- A file and its contents. -/
  | file (content : Utf8.Octets)
deriving DecidableEq, Repr

/-- A file system. -/
structure FileSystem where
  /-- What is where; the root is always a folder. -/
  nodes : List (Location × Node)
  /-- The working folder, where paths start that do not start at the root. -/
  here : Location
deriving DecidableEq, Repr

namespace FileSystem

/-- What is at a location. -/
def at? (fs : FileSystem) (l : Location) : Option Node :=
  if l = [] then some .folder else Assoc.get? l fs.nodes

/-- The file system with something else at a location. -/
def put (fs : FileSystem) (l : Location) (node : Node) : FileSystem :=
  { fs with nodes := Assoc.set l node fs.nodes }

theorem at?_put_same (fs : FileSystem) {l : Location} (node : Node) (h : l ≠ []) :
    (fs.put l node).at? l = some node := by
  simp [at?, put, h]

theorem at?_put_of_ne (fs : FileSystem) {l k : Location} (node : Node) (h : k ≠ l) :
    (fs.put l node).at? k = fs.at? k := by
  simp [at?, put, Assoc.get?_set_of_ne node fs.nodes h]

/-- The greatest length of a name in octets. -/
def maxName : Nat := 255

/-- The least length of a path in octets that is refused. -/
def maxPath : Nat := 4096

/-- Where names lead from a location as far as there is something: the last location, and the names
that are left, of which the first leads to nothing. -/
def explore (fs : FileSystem) (l : Location) : List String → Except Errno (Location × List String)
  | [] => .ok (l, [])
  | name :: r =>
    match fs.at? l with
    | some .folder =>
      if name = ".." then explore fs l.dropLast r
      else if maxName < Path.octetCount name then .error .nameTooLong
      else if (fs.at? (l ++ [name])).isSome then explore fs (l ++ [name]) r
      else .ok (l, name :: r)
    | some (.file _) => .error .notFolder
    | none => .ok (l, name :: r)

/-- Where names lead from a location. -/
def walk (fs : FileSystem) (l : Location) (names : List String) : Except Errno Location :=
  match fs.explore l names with
  | .ok (l, []) => .ok l
  | .ok (_, _ :: _) => .error .notFound
  | .error e => .error e

/-- Where the names of a path start. -/
def start (fs : FileSystem) (p : Path) : Location := if p.isAbsolute then [] else fs.here

/-- Puts the path to a system error. -/
def onPath {α : Type} (p : Path) : Except Errno α → Except FileError α
  | .ok a => .ok a
  | .error e => .error (.system e p)

/-- The location that a path leads to. -/
def locate (fs : FileSystem) (p : Path) : Except Errno Location :=
  if maxPath ≤ Path.octetCount p.text then .error .nameTooLong else fs.walk (fs.start p) p.parts

/-- What a path leads to; a path with a flaw leads to nothing, and so does one through a file. -/
def look (fs : FileSystem) (p : Path) : Except FileError (Option Node) :=
  match p.flaw? with
  | some _ => .ok none
  | none =>
    match fs.locate p with
    | .ok l => .ok (fs.at? l)
    | .error .notFound | .error .notFolder => .ok none
    | .error e => .error (.system e p)

/-- Whether a path leads to anything. -/
def exists? (fs : FileSystem) (p : Path) : Except FileError Bool :=
  (fs.look p).map (·.isSome)

/-- Whether a path leads to a folder. -/
def isFolder (fs : FileSystem) (p : Path) : Except FileError Bool :=
  (fs.look p).map (· == some .folder)

/-- Whether a path leads to a file. -/
def isFile (fs : FileSystem) (p : Path) : Except FileError Bool :=
  (fs.look p).map fun
    | some (.file _) => true
    | _ => false

/-- The contents of the file that a path leads to. -/
def read (fs : FileSystem) (p : Path) : Except FileError Utf8.Octets :=
  match p.flaw? with
  | some e => .error e
  | none =>
    onPath p do
      let l ← fs.locate p
      match fs.at? l with
      | some (.file content) => .ok content
      | some .folder => .error .isFolder
      | none => .error .notFound

/-- The location of a file to be written: its folder has to be there, and no folder may be at the
location itself. -/
def target (fs : FileSystem) (p : Path) : Except Errno Location :=
  if maxPath ≤ Path.octetCount p.text then .error .nameTooLong
  else
    match p.parts.getLast? with
    | none => .error .isFolder
    | some name => do
      let l ← fs.walk (fs.start p) p.parts.dropLast
      match fs.at? l with
      | some .folder =>
        if name = ".." then .error .isFolder
        else if maxName < Path.octetCount name then .error .nameTooLong
        else if fs.at? (l ++ [name]) = some .folder then .error .isFolder
        else .ok (l ++ [name])
      | some (.file _) => .error .notFolder
      | none => .error .notFound

/-- Writes a file. -/
def write (fs : FileSystem) (p : Path) (content : Utf8.Octets) : Except FileError FileSystem :=
  match p.flaw? with
  | some e => .error e
  | none =>
    match fs.target p with
    | .ok l => .ok (fs.put l (.file content))
    | .error e => .error (.system e p)

/-- Writes at the end of a file, which is made if it is not there. -/
def append (fs : FileSystem) (p : Path) (content : Utf8.Octets) : Except FileError FileSystem :=
  match p.flaw? with
  | some e => .error e
  | none =>
    match fs.target p with
    | .ok l =>
      let old := match fs.at? l with
        | some (.file old) => old
        | _ => []
      .ok (fs.put l (.file (old ++ content)))
    | .error e => .error (.system e p)

/-- Makes folders of the names that lead on from a folder, one in the other, where `p` is the path
to that folder; the file system afterwards, and the error if there was one. -/
def makeFolders (fs : FileSystem) (p : Path) (l : Location) :
    List String → FileSystem × Option FileError
  | [] => (fs, none)
  | name :: r =>
    let p := { p with parts := p.parts ++ [name] }
    if name = ".." then makeFolders fs p l.dropLast r
    else if maxName < Path.octetCount name then (fs, some (.system .nameTooLong p))
    else
      match fs.at? (l ++ [name]) with
      | some .folder => makeFolders fs p (l ++ [name]) r
      | some (.file _) => (fs, some (.system .alreadyThere p))
      | none => makeFolders (fs.put (l ++ [name]) .folder) p (l ++ [name]) r

/-- The greatest number of folders that are made in each other at once. -/
def maxFolders : Nat := 985

/-- Makes a path a folder, with the folders above it. -/
def ensureFolder (fs : FileSystem) (p : Path) : FileSystem × Option FileError :=
  match p.flaw? with
  | some e => (fs, some e)
  | none =>
    if maxPath ≤ Path.octetCount p.text then (fs, some (.system .nameTooLong p))
    else
      match fs.explore (fs.start p) p.parts with
      | .error e => (fs, some (.system e p))
      | .ok (l, []) =>
        (fs, if fs.at? l = some .folder then none else some (.system .alreadyThere p))
      | .ok (l, missing) =>
        if maxFolders < missing.length then (fs, some .tooDeep)
        else
          let above := p.parts.take (p.parts.length - missing.length)
          fs.makeFolders { p with parts := above } l missing

/-- The name and kind of what lies directly in a location. -/
def entriesAt (fs : FileSystem) (l : Location) : List (String × Node) :=
  fs.nodes.filterMap fun (k, node) =>
    match k.getLast? with
    | some name => if k.dropLast = l then some (name, node) else none
    | none => none

/-- Everything below a location, with the names that lead there from it. -/
def below (fs : FileSystem) (l : Location) : List (Location × Node) :=
  fs.nodes.filterMap fun (k, node) =>
    if l.isPrefixOf k ∧ k ≠ l then some (k.drop l.length, node) else none

/-- Puts a node at a location and makes folders of the locations above it. -/
def place (fs : FileSystem) (l : Location) (node : Node) : FileSystem :=
  let above := (List.range l.length).map fun n => l.take n
  let fs := above.foldl (fun fs k => if (fs.at? k).isSome then fs else fs.put k .folder) fs
  fs.put l node

/-- The file system with one empty working folder. -/
def empty (here : Location) : FileSystem :=
  (FileSystem.mk [] here).place here .folder

end FileSystem

end EntityMapping
