import LineShell.Log.Destination
import LineShell.Proofs.Files.Frame

/-!
# Opening a log file

Opening a log makes the directories around its place and empties or makes the
file there, so whatever lies apart from that place stays as it is
(`openLog_frame`).  It fails where the directories cannot be made, where there
is a directory in place of the file and where a file is in the way.
-/

namespace LineShell.Log

open Files (Apart Encloses FileTree Place Straight)

variable {tree : FileTree} {path directory : String} {place : Place}

theorem encloses_directoryOf? (around : directoryOf? path = some directory) :
    Encloses directory path := by
  obtain ⟨parent, named⟩ := Option.filter_eq_some_iff.mp around
  exact Files.encloses_parent parent (of_decide_eq_true named)

theorem encloses_of_mem_surrounding {outer : String}
    (around : directoryOf? path = some directory)
    (member : outer ∈ Files.surrounding directory) : Encloses outer path :=
  (Files.encloses_of_mem_surrounding member).trans
    (encloses_directoryOf? around)

section Frame

variable (level : ".." ∉ tree.current) (straight : Straight path)
  (apart : Apart (tree.place path) place)

include level straight apart

theorem openFile_frame :
    tree.SameAt place (openFile tree path).tree ∧
      ∀ log, (openFile tree path).result = .ok log → log = tree.place path := by
  unfold openFile
  rcases FileTree.createFile_cases level straight with
    ⟨error, failed⟩ | ⟨-, created⟩
  · rw [failed]
    exact ⟨.refl place tree, nofun⟩
  · rw [created]
    refine ⟨⟨rfl, Files.Node.at?_put_of_apart apart⟩, ?_⟩
    rintro log opened
    cases opened
    rfl

/-- Opening a log changes nothing apart from its place, and a log that is open
is at its place. -/
theorem openLog_frame :
    tree.SameAt place (openLog tree path).tree ∧
      ∀ log, (openLog tree path).result = .ok log → log = tree.place path := by
  unfold openLog
  cases around : directoryOf? path with
  | none => exact openFile_frame level straight apart
  | some directory =>
      have same : tree.SameAt place (tree.makeDirectories directory).tree :=
        FileTree.sameAt_makeInside level straight
          (fun outer => encloses_of_mem_surrounding around) apart.notBelow
      dsimp only
      split
      · rename_i made shape
        rw [shape] at same
        have place := FileTree.place_congr same.current path
        obtain ⟨later, opened⟩ := openFile_frame (same.current ▸ level)
          straight (place ▸ apart)
        exact ⟨same.trans later, place ▸ opened⟩
      · rename_i made error shape
        rw [shape] at same
        exact ⟨same, nofun⟩

end Frame

section Failing

theorem openFile_error_cases {failure : Failure}
    (failed : (openFile tree path).result = .error failure) :
    ∃ error, failure = fileFailed path (Files.FileError.message error) := by
  unfold openFile at failed
  cases result : (tree.createFile path).result with
  | ok place =>
      simp only [result] at failed
      cases failed
  | error error =>
      simp only [result] at failed
      cases failed
      exact ⟨error, rfl⟩

theorem openLog_error_cases {failure : Failure}
    (failed : (openLog tree path).result = .error failure) :
    (∃ directory error, directoryOf? path = some directory ∧
        failure = directoryFailed directory
          (Files.FileError.message error)) ∨
      ∃ error, failure = fileFailed path (Files.FileError.message error) := by
  unfold openLog at failed
  cases around : directoryOf? path with
  | none =>
      rw [around] at failed
      exact .inr (openFile_error_cases failed)
  | some directory =>
      rw [around] at failed
      dsimp only at failed
      split at failed
      · exact .inr (openFile_error_cases failed)
      · rename_i made error shape
        cases failed
        exact .inl ⟨directory, error, rfl, rfl⟩

theorem openLog_of_directoryFailed {error : Files.FileError}
    (around : directoryOf? path = some directory)
    (failed : (tree.makeDirectories directory).result = .error error) :
    (openLog tree path).result =
      .error (directoryFailed directory error.message) := by
  unfold openLog
  rw [around]
  dsimp only
  split
  · rename_i made shape
    rw [shape] at failed
    cases failed
  · rename_i made error shape
    rw [shape] at failed
    cases failed
    rfl

variable (level : ".." ∉ tree.current) (straight : Straight path)

include level straight

theorem openFile_of_not_accepts (refused : ¬tree.Accepts (tree.place path)) :
    ∃ failure, openFile tree path = ⟨tree, .error failure⟩ := by
  unfold openFile
  rcases FileTree.createFile_cases level straight with
    ⟨error, failed⟩ | ⟨accepts, -⟩
  · rw [failed]
    exact ⟨_, rfl⟩
  · exact absurd accepts refused

/-- If nothing can be put at the place of a log or on the way to it, the log
does not open and everything stays as it is. -/
theorem openLog_of_blocked (refused : ¬tree.Accepts (tree.place path))
    (blocked : ∀ between, between <+: tree.place path →
      tree.root.at? between = none → ¬tree.Accepts between) :
    ∃ failure, openLog tree path = ⟨tree, .error failure⟩ := by
  unfold openLog
  cases around : directoryOf? path with
  | none => exact openFile_of_not_accepts level straight refused
  | some directory =>
      have same : (tree.makeDirectories directory).tree = tree :=
        FileTree.tree_makeInside_of_blocked level straight
          (fun outer => encloses_of_mem_surrounding around) blocked
      dsimp only
      split
      · rename_i made shape
        rw [shape] at same
        cases same
        exact openFile_of_not_accepts level straight refused
      · rename_i made error shape
        rw [shape] at same
        cases same
        exact ⟨_, rfl⟩

theorem openLog_of_directory (directory : tree.isDirectory path = true) :
    ∃ failure, openLog tree path = ⟨tree, .error failure⟩ := by
  unfold FileTree.isDirectory at directory
  split at directory
  · rename_i node found
    have there := FileTree.at?_of_find level straight found
    apply openLog_of_blocked level straight
    · exact fun accepts => accepts.free ⟨node, there, directory⟩
    · rintro between ⟨rest, whole⟩ missing -
      rw [← whole, Files.Node.at?_append, missing] at there
      cases there
  · cases directory

theorem openLog_of_fileAbove {above : Place} (file : tree.Holds above false)
    (below : above <+: tree.place path) (different : above ≠ tree.place path) :
    ∃ failure, openLog tree path = ⟨tree, .error failure⟩ := by
  apply openLog_of_blocked level straight
  · exact fun accepts => accepts.not_holds below different file
  · intro between inside missing accepts
    obtain ⟨node, there, -⟩ := id file
    rcases List.prefix_or_prefix_of_prefix below inside with within | ⟨rest, whole⟩
    · refine accepts.not_holds within ?_ file
      rintro rfl
      cases there.symm.trans missing
    · rw [← whole, Files.Node.at?_append, missing] at there
      cases there

end Failing

end LineShell.Log
