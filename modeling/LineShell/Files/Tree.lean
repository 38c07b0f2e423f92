import LineShell.Files.Path
import LineShell.Ordered
import LineShell.Text.Utf8

/-!
# File trees

A tree of directories and files, without links, in which a program has a
current directory.  A place is the list of names that leads to it from the
root.  Operations fail as those of the operating system do.
-/

namespace LineShell.Files

open Text (Bytes)

/-- A file or a directory, whose entries are ordered by name. -/
inductive Node where
  | file (content : Bytes)
  | directory (entries : List (String × Node))
  deriving Repr

/-- The names that lead to a node from the root. -/
abbrev Place := List String

/-- Why an operation on files fails. -/
inductive FileError where
  | notFound
  | alreadyExists
  | notADirectory
  | isADirectory
  /-- A name or a path is longer than it can be. -/
  | nameTooLong
  /-- A path holds the character that ends texts in the operating system. -/
  | nulInPath
  deriving DecidableEq, Repr

namespace FileError

def message : FileError → String
  | .notFound => "No such file or directory (os error 2)"
  | .alreadyExists => "File exists (os error 17)"
  | .notADirectory => "Not a directory (os error 20)"
  | .isADirectory => "Is a directory (os error 21)"
  | .nameTooLong => "File name too long (os error 36)"
  | .nulInPath => "file name contained an unexpected NUL byte"

end FileError

namespace Node

def emptyDirectory : Node :=
  .directory []

def at? (node : Node) : Place → Option Node
  | [] => some node
  | name :: rest =>
      match node with
      | .file _ => none
      | .directory entries =>
          match entries.lookup name with
          | none => none
          | some child => child.at? rest

/-- Puts a node at a place, making the directories on the way. -/
def put (new : Node) : Place → Node → Node
  | [], _ => new
  | _ :: _, .file content => .file content
  | name :: rest, .directory entries =>
      .directory (putNamed name
        (put new rest ((entries.lookup name).getD emptyDirectory)) entries)

def isDirectory : Node → Bool
  | .directory _ => true
  | .file _ => false

end Node

/-- The way from the root to a node: the names and the nodes on it, from the
inside to the outside. -/
abbrev Trail := List (String × Node)

namespace Trail

def node (root : Node) : Trail → Node
  | [] => root
  | (_, node) :: _ => node

def place (trail : Trail) : Place :=
  (trail.map Prod.fst).reverse

end Trail

/-- A tree with a current directory. -/
structure FileTree where
  root : Node
  current : Place
  deriving Repr

namespace FileTree

def nameLimit : Nat := 255

/-- A length in bytes that paths stay below. -/
def pathLimit : Nat := 4096

def refusal? (path : String) : Option FileError :=
  if path.toList.contains '\x00' then some .nulInPath
  else if path.isEmpty then some .notFound
  else if pathLimit ≤ path.utf8ByteSize then some .nameTooLong
  else none

/-- Goes on from the end of a trail along the parts of a path. -/
def follow (root : Node) (trail : Trail) :
    List String → Except FileError Trail
  | [] => .ok trail
  | part :: rest =>
      match trail.node root with
      | .file _ => .error .notADirectory
      | .directory entries =>
          if isIdle part then follow root trail rest
          else if part = ".." then follow root trail.tail rest
          else if nameLimit < part.utf8ByteSize then .error .nameTooLong
          else
            match entries.lookup part with
            | none => .error .notFound
            | some child => follow root ((part, child) :: trail) rest

def origin (tree : FileTree) (path : String) : Place :=
  if path.toList.head? = some '/' then [] else tree.current

def find (tree : FileTree) (path : String) : Except FileError Node :=
  match refusal? path with
  | some error => .error error
  | none =>
      (follow tree.root [] (tree.origin path ++ parts path)).map
        (Trail.node tree.root)

def isDirectory (tree : FileTree) (path : String) : Bool :=
  match tree.find path with
  | .ok node => node.isDirectory
  | .error _ => false

/-- The directory in which the last name of a path lies, that name, and whether
slashes follow it. -/
structure Slot where
  directory : Place
  entries : List (String × Node)
  name : String
  slashes : Bool

def slot (tree : FileTree) (path : String) : Except FileError Slot :=
  match refusal? path with
  | some error => .error error
  | none =>
      let reversed := (parts path).reverse
      let trailing := reversed.takeWhile (· = "")
      match reversed.dropWhile (· = "") with
      | [] => .ok ⟨[], [], ".", true⟩
      | name :: before =>
          match follow tree.root [] (tree.origin path ++ before.reverse) with
          | .error error => .error error
          | .ok trail =>
              match trail.node tree.root with
              | .directory entries =>
                  .ok ⟨trail.place, entries, name, !trailing.isEmpty⟩
              | .file _ => .error .notADirectory

def makeDirectory (tree : FileTree) (path : String) :
    Except FileError FileTree :=
  match tree.slot path with
  | .error error => .error error
  | .ok slot =>
      if slot.name = "." || slot.name = ".." then .error .alreadyExists
      else if nameLimit < slot.name.utf8ByteSize then .error .nameTooLong
      else
        match slot.entries.lookup slot.name with
        | some _ => .error .alreadyExists
        | none =>
            .ok { tree with
              root := Node.put .emptyDirectory
                (slot.directory ++ [slot.name]) tree.root }

/-- What an operation makes of a tree, and whether it succeeds. -/
structure Change (α : Type) where
  tree : FileTree
  result : Except FileError α

/-- Makes the first of some directories, each of which lies in the next, and
those of the others that are missing. -/
def makeInside (tree : FileTree) : List String → Change Unit
  | [] => ⟨tree, .ok ()⟩
  | path :: outer =>
      match tree.makeDirectory path with
      | .ok made => ⟨made, .ok ()⟩
      | .error .notFound =>
          match tree.makeInside outer with
          | ⟨later, .error error⟩ => ⟨later, .error error⟩
          | ⟨later, .ok ()⟩ =>
              match later.makeDirectory path with
              | .ok made => ⟨made, .ok ()⟩
              | .error error =>
                  ⟨later, if later.isDirectory path then .ok ()
                    else .error error⟩
      | .error error =>
          ⟨tree, if tree.isDirectory path then .ok () else .error error⟩

def makeDirectories (tree : FileTree) (path : String) : Change Unit :=
  tree.makeInside (surrounding path)

/-- Makes an empty file, or empties the one that is there.  A name that slashes
follow is that of a directory, however long it is. -/
def createFile (tree : FileTree) (path : String) : Change Place :=
  match tree.slot path with
  | .error error => ⟨tree, .error error⟩
  | .ok slot =>
      let place := slot.directory ++ [slot.name]
      let made : Change Place :=
        ⟨{ tree with root := Node.put (.file []) place tree.root }, .ok place⟩
      if slot.slashes || slot.name = "." || slot.name = ".." then
        ⟨tree, .error .isADirectory⟩
      else if nameLimit < slot.name.utf8ByteSize then
        ⟨tree, .error .nameTooLong⟩
      else
        match slot.entries.lookup slot.name with
        | some (.directory _) => ⟨tree, .error .isADirectory⟩
        | some (.file _) | none => made

/-- Adds bytes to the end of the file at a place. -/
def append (tree : FileTree) (place : Place) (bytes : Bytes) : FileTree :=
  match tree.root.at? place with
  | some (.file content) =>
      { tree with root := Node.put (.file (content ++ bytes)) place tree.root }
  | some (.directory _) | none => tree

end FileTree

end LineShell.Files
