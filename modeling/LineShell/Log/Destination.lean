import LineShell.Failure
import LineShell.Files.Tree

/-!
# Log files

A log file is emptied, or made together with the directories around it.
-/

namespace LineShell.Log

open Files (FileTree Place)

def directoryFailed (path reason : String) : Failure :=
  .inputOutput ("Could not create log directory " ++ path ++ ": " ++ reason)

def fileFailed (path reason : String) : Failure :=
  .inputOutput ("Could not create log file " ++ path ++ ": " ++ reason)

/-- The directory that has to be there before a file can be made, if it has a
name. -/
def directoryOf? (path : String) : Option String :=
  (Files.parent? path).filter (· ≠ "")

/-- What opening a log file makes of a tree, and the place of the file. -/
structure Opening where
  tree : FileTree
  result : Except Failure Place

def openFile (tree : FileTree) (path : String) : Opening :=
  let created := tree.createFile path
  ⟨created.tree,
    created.result.mapError fun error => fileFailed path error.message⟩

def openLog (tree : FileTree) (path : String) : Opening :=
  match directoryOf? path with
  | none => openFile tree path
  | some directory =>
      match tree.makeDirectories directory with
      | ⟨made, .ok ()⟩ => openFile made path
      | ⟨made, .error error⟩ =>
          ⟨made, .error (directoryFailed directory error.message)⟩

end LineShell.Log
