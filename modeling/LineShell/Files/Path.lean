/-!
# Paths

A path is a text whose parts are separated by slashes.  Empty parts and single
dots after the first part mean nothing; an empty first part stands for the
root.
-/

namespace LineShell.Files

def splitParts : List Char → List (List Char)
  | [] => [[]]
  | c :: rest =>
      if c = '/' then [] :: splitParts rest
      else
        match splitParts rest with
        | [] => [[c]]
        | part :: parts => (c :: part) :: parts

def parts (path : String) : List String :=
  (splitParts path.toList).map String.ofList

/-- A part that leads nowhere. -/
def isIdle (part : String) : Bool :=
  part = "" || part = "."

/-- Drops idle parts from the end, but never the first part. -/
def dropIdle : List String → List String
  | [] => []
  | first :: rest => first :: (rest.reverse.dropWhile isIdle).reverse

def joinParts : List String → String
  | [""] => "/"
  | parts => "/".intercalate parts

/-- The path of the directory that a path's last part lies in.  The root has
none; that of a single part is empty. -/
def parent? (path : String) : Option String :=
  match dropIdle (parts path) with
  | [] => none
  | [first] => if first = "" then none else some ""
  | first :: second :: rest =>
      some (joinParts (dropIdle (first :: second :: rest).dropLast))

/-- A path and the directories around it that have a name, from the inside to
the outside, at most so many. -/
def surroundingUpTo : Nat → String → List String
  | 0, _ => []
  | limit + 1, path =>
      if path.isEmpty then []
      else
        path :: match parent? path with
          | none => []
          | some parent => surroundingUpTo limit parent

/-- A path and the directories around it that have a name, from the inside to
the outside. -/
def surrounding (path : String) : List String :=
  surroundingUpTo (path.length + 1) path

end LineShell.Files
