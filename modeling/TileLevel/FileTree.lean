import TileLevel.FileSystem
import TileLevel.Text.Split

/-!
# File Trees

A file system that is a finite tree of directories and files without links. A path is followed name
by name, from the root if it begins with `/` and else from the working directory; empty names and
`.` stay where they are, and `..` leads to the parent. The system may refuse to open an entry, for
whatever reason, and it may run out of room in the middle of a file.

## Main definitions

- `FileTree`: the entries by their names from the root
- `FileTree.read`, `FileTree.write`: whole files by path
-/

namespace TileLevel

/-! ## §1 Errors -/

namespace FileError

def notFound : FileError where
  message := "No such file or directory (os error 2)"

def notADirectory : FileError where
  message := "Not a directory (os error 20)"

def isADirectory : FileError where
  message := "Is a directory (os error 21)"

def noSpace : FileError where
  message := "No space left on device (os error 28)"

def nameTooLong : FileError where
  message := "File name too long (os error 36)"

def nulInName : FileError where
  message := "file name contained an unexpected NUL byte"

end FileError

/-! ## §2 Entries -/

/-- A file with its bytes, or a directory. -/
inductive Entry where
  | file (bytes : ByteArray)
  | directory

instance : DecidableEq Entry
  | .file a, .file b =>
    match ByteArray.instDecidableEq a b with
    | .isTrue h => .isTrue (congrArg _ h)
    | .isFalse h => .isFalse fun e => h (Entry.file.inj e)
  | .directory, .directory => .isTrue rfl
  | .file _, .directory => .isFalse nofun
  | .directory, .file _ => .isFalse nofun

structure FileTree where
  /-- The entries below the root by the names that lead to them. A later one of the same names is not
      seen. -/
  entries : List (List String × Entry) := []
  /-- Where paths begin that do not begin at the root -/
  workingDirectory : List String := []
  /-- What the system refuses to open, whether it is there or would be new, and its reason. A
      directory among them is not gone through. -/
  refusals : List (List String × FileError) := []
  /-- How many bytes a file can have, if there is a bound -/
  room : Option Nat := none
deriving DecidableEq

namespace FileTree

/-- The entry at the end of a way down. The root is always there. -/
def find? (tree : FileTree) (place : List String) : Option Entry :=
  if place = [] then some .directory else tree.entries.lookup place

/-- Puts an entry at the end of a way down, in place of what was there. -/
def put (tree : FileTree) (place : List String) (entry : Entry) : FileTree :=
  { tree with entries := (place, entry) :: tree.entries.filter (·.1 != place) }

def refusal? (tree : FileTree) (place : List String) : Option FileError :=
  tree.refusals.lookup place

/-- Why there is no way through a place, `none` if there is one. -/
def obstacle? (tree : FileTree) (place : List String) : Option FileError :=
  match tree.find? place with
  | none => some .notFound
  | some (.file _) => some .notADirectory
  | some .directory => tree.refusal? place

/-! ## §3 Paths -/

/-- The longest name of an entry, in bytes. -/
def nameLimit : Nat := 255

/-- The first path length that is too long, in bytes. -/
def pathLimit : Nat := 4096

/-- The names in a path, empty ones included. -/
def pathNames (path : String) : List String :=
  (Text.splitOn ['/'] path.toList).map String.ofList

/-- Where a path begins. -/
def origin (tree : FileTree) (path : String) : List String :=
  if path.toList.head? = some '/' then [] else tree.workingDirectory

/-- The names that mean a directory and not an entry of it. -/
def directoryNames : List String :=
  ["", ".", ".."]

/-- Where a name leads. The root is its own parent. -/
def placeOf (here : List String) (name : String) : List String :=
  if name = ".." then here.dropLast
  else if name ∈ directoryNames then here
  else here ++ [name]

/-- Follows names from `here` on. The last one need not lead to an entry. -/
def follow (tree : FileTree) (here : List String) : List String → Except FileError (List String)
  | [] => .ok here
  | name :: rest =>
    match tree.obstacle? here with
    | some fault => .error fault
    | none =>
      if nameLimit < name.utf8ByteSize then .error .nameTooLong
      else tree.follow (placeOf here name) rest

/-- What is wrong with a path, whatever the tree holds. -/
def pathFault? (path : String) : Option FileError :=
  if '\x00' ∈ path.toList then some .nulInName
  else if path = "" then some .notFound
  else if pathLimit ≤ path.utf8ByteSize then some .nameTooLong
  else none

/-! ## §4 Reading and writing -/

def readPlace (tree : FileTree) (place : List String) : Except FileError ByteArray :=
  match tree.find? place, tree.refusal? place with
  | none, _ => .error .notFound
  | some _, some fault => .error fault
  | some .directory, none => .error .isADirectory
  | some (.file bytes), none => .ok bytes

def read (tree : FileTree) (path : String) : Except FileError ByteArray :=
  match pathFault? path with
  | some fault => .error fault
  | none =>
    match tree.follow (tree.origin path) (pathNames path) with
    | .error fault => .error fault
    | .ok place => tree.readPlace place

/-- Where a file written to a path goes: a name in a directory that is there. A path that ends in a
    name for a directory cannot be written, whether that is there or not. -/
def target (tree : FileTree) (path : String) : Except FileError (List String) :=
  match pathFault? path with
  | some fault => .error fault
  | none =>
    let names := pathNames path
    -- the name to write is the last one that is not empty
    match names.reverse.dropWhile (· == "") with
    | [] => .error .isADirectory
    | name :: parents =>
      match tree.follow (tree.origin path) parents.reverse with
      | .error fault => .error fault
      | .ok directory =>
        match tree.obstacle? directory with
        | some fault => .error fault
        | none =>
          let place := directory ++ [name]
          if names.getLastD "" ∈ directoryNames then .error .isADirectory
          else if nameLimit < name.utf8ByteSize then .error .nameTooLong
          else if tree.find? place = some .directory then .error .isADirectory
          else match tree.refusal? place with
            | some fault => .error fault
            | none => .ok place

/-- Writes a file, in place of one that is there. Where there is not enough room, the file has been
    opened already and keeps what could be written. -/
def write (tree : FileTree) (path : String) (bytes : ByteArray) :
    Except FileError Unit × FileTree :=
  match tree.target path with
  | .error fault => (.error fault, tree)
  | .ok place =>
    match tree.room with
    | none => (.ok (), tree.put place (.file bytes))
    | some room =>
      if bytes.size ≤ room then (.ok (), tree.put place (.file bytes))
      else (.error .noSpace, tree.put place (.file (bytes.extract 0 room)))

instance : FileSystem FileTree where
  read := FileTree.read
  write := FileTree.write

end FileTree

end TileLevel
