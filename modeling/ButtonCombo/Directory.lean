/-!
# Files in a directory

The program reads its configuration and its scripts from a directory.  A path is
followed component by component: nothing and a single point stay where they are, two
points go up, and a name goes down into what has that name there.  Only a directory can
be gone down into, and only a file can be read as a text.

Little is known about what lies outside the directory: the usual directories below the
root of the file system are there, and the null device, which is always empty.
-/

namespace ButtonCombo

/-- What a path leads to. -/
inductive Place
  | file (bytes : List UInt8)
  | directory

/-- Why nothing can be read under a path. -/
inductive ReadError
  | notFound
  | notDirectory
  | isDirectory
  | nameTooLong
  | denied
  | notText
  deriving DecidableEq

namespace ReadError

/-- The reason in the words of the operating system, with its number there; that the
bytes are no text is the program's own finding. -/
def message : ReadError → String
  | notFound => "No such file or directory (os error 2)"
  | notDirectory => "Not a directory (os error 20)"
  | isDirectory => "Is a directory (os error 21)"
  | nameTooLong => "File name too long (os error 36)"
  | denied => "Permission denied (os error 13)"
  | notText => "stream did not contain valid UTF-8"

end ReadError

/-- A way to follow paths. -/
abbrev Files : Type :=
  String → Except ReadError Place

namespace Files

/-- Something is there, even if it must not be read. -/
def holds
    (files : Files)
    (path : String) : Bool :=
  match files path with
  | .ok _ | .error .denied => true
  | .error _ => false

/-- The text of a file. -/
def readText
    (files : Files)
    (path : String) : Except ReadError String :=
  match files path with
  | .error error => .error error
  | .ok .directory => .error .isDirectory
  | .ok (.file bytes) =>
      match String.fromUTF8? ⟨bytes.toArray⟩ with
      | some text => .ok text
      | none => .error .notText

end Files

/-- The files of a directory, by their names. -/
structure Directory where
  files : List (String × List UInt8)

namespace Directory

/-- Where a path has led so far: names below the directory, or below the root of the
file system if the first of them is empty. -/
abbrev Position : Type :=
  List String

/-- The parent of the directory, of which nothing more is known. -/
def outside : Position :=
  [".."]

/-- The names from the directory or from the root to every known file. -/
def known (d : Directory) : List (Position × List UInt8) :=
  (["", "dev", "null"], []) :: d.files.map fun (name, bytes) => (name.splitOn "/", bytes)

/-- The usual directories below the root of the file system. -/
def usual : List Position :=
  ["bin", "boot", "dev", "etc", "home", "lib", "media", "mnt", "opt", "proc", "root", "run",
   "sbin", "srv", "sys", "tmp", "usr", "var"].map fun name => ["", name]

/-- What is at a position. -/
def placeAt?
    (d : Directory)
    (position : Position) : Option Place :=
  match d.known.lookup position with
  | some bytes => some (.file bytes)
  | none =>
      if position = [] ∨ position = outside ∨ position ∈ usual ∨
          d.known.any (fun entry => position.isPrefixOf entry.1) then
        some .directory
      else none

/-- The position above. -/
def parent : Position → Position
  | [] => outside
  | [name] => if name = "" ∨ name = ".." then [name] else []
  | names => names.dropLast

/-- The greatest length of a name in bytes. -/
def longestName : Nat :=
  255

/-- The greatest length of a path in bytes. -/
def longestPath : Nat :=
  4095

/-- Follow the components of a path from a position. -/
def follow
    (d : Directory)
    (position : Position) : List String → Except ReadError Place
  | [] => (d.placeAt? position).elim (.error .notFound) .ok
  | name :: rest =>
      match d.placeAt? position with
      | none => .error .notFound
      | some (.file _) => .error .notDirectory
      | some .directory =>
          if name = "" ∨ name = "." then d.follow position rest
          else if name = ".." then d.follow (parent position) rest
          else if longestName < name.utf8ByteSize then .error .nameTooLong
          else d.follow (position ++ [name]) rest

/-- The files as paths lead to them.  The empty path leads nowhere. -/
def toFiles (d : Directory) : Files := fun path =>
  if path = "" then .error .notFound
  else if longestPath < path.utf8ByteSize then .error .nameTooLong
  else
    match path.splitOn "/" with
    | "" :: names => d.follow [""] names
    | names => d.follow [] names

end Directory
end ButtonCombo
