import LineShell.Files.Tree
import Mathlib.Data.List.Basic

/-!
# Paths and the places around them

The names in a path are its parts without the idle ones.  A path that never
goes back leads to the place that its names spell, and the directories that
have to be made for it lie on the way there: their names are a beginning of
its names (`Encloses`).
-/

namespace LineShell.Files

/-- The names among the parts of a path. -/
def names (parts : List String) : List String :=
  parts.filter (!isIdle ·)

/-- A path that never goes back. -/
def Straight (path : String) : Prop :=
  ".." ∉ parts path

instance (path : String) : Decidable (Straight path) :=
  inferInstanceAs (Decidable (".." ∉ parts path))

/-- A path leads to a place on the way to that of another. -/
structure Encloses (outer inner : String) : Prop where
  origin : ∀ tree : FileTree, tree.origin outer = tree.origin inner
  straight : Straight inner → Straight outer
  names : names (parts outer) <+: names (parts inner)

section Splitting

variable {text part : List Char}

theorem splitParts_ne_nil (text : List Char) : splitParts text ≠ [] := by
  cases text with
  | nil => exact List.cons_ne_nil _ _
  | cons c rest =>
      unfold splitParts
      split
      · exact List.cons_ne_nil _ _
      · split <;> exact List.cons_ne_nil _ _

theorem splitParts_of_absent (absent : '/' ∉ part) :
    splitParts part = [part] := by
  induction part with
  | nil => rfl
  | cons c part ih =>
      rw [List.mem_cons, not_or] at absent
      simp only [splitParts, if_neg (Ne.symm absent.1), ih absent.2]

theorem splitParts_append_slash (rest : List Char) (absent : '/' ∉ part) :
    splitParts (part ++ '/' :: rest) = part :: splitParts rest := by
  induction part with
  | nil => simp [splitParts]
  | cons c part ih =>
      rw [List.mem_cons, not_or] at absent
      simp only [List.cons_append, splitParts, if_neg (Ne.symm absent.1),
        ih absent.2]

theorem mem_of_mem_splitParts {c : Char} (member : part ∈ splitParts text)
    (inside : c ∈ part) : c ∈ text ∧ c ≠ '/' := by
  induction text generalizing part with
  | nil =>
      rw [List.mem_singleton.mp member] at inside
      cases inside
  | cons first text ih =>
      by_cases slash : first = '/'
      · rw [splitParts, if_pos slash, List.mem_cons] at member
        rcases member with rfl | later
        · cases inside
        · exact (ih later inside).imp_left (List.mem_cons_of_mem _)
      · cases split : splitParts text with
        | nil => exact absurd split (splitParts_ne_nil text)
        | cons head others =>
            rw [split] at ih
            simp only [splitParts, if_neg slash, split, List.mem_cons]
              at member
            rcases member with rfl | later
            · rcases List.mem_cons.mp inside with rfl | inside
              · exact ⟨List.mem_cons_self, slash⟩
              · exact (ih List.mem_cons_self inside).imp_left
                  (List.mem_cons_of_mem _)
            · exact (ih (List.mem_cons_of_mem _ later) inside).imp_left
                (List.mem_cons_of_mem _)

end Splitting

section Joining

variable {path : String} {pieces : List String}

theorem parts_ne_nil (path : String) : parts path ≠ [] := by
  simp [parts, splitParts_ne_nil]

theorem mem_of_mem_parts {part : String} {c : Char}
    (member : part ∈ parts path) (inside : c ∈ part.toList) :
    c ∈ path.toList ∧ c ≠ '/' := by
  obtain ⟨characters, split, rfl⟩ := List.mem_map.mp member
  rw [String.toList_ofList] at inside
  exact mem_of_mem_splitParts split inside

/-- Pieces that are joined are the parts of the path that they make. -/
theorem parts_intercalate (nonempty : pieces ≠ [])
    (each : ∀ piece ∈ pieces, '/' ∉ piece.toList) :
    parts ("/".intercalate pieces) = pieces := by
  induction pieces with
  | nil => exact absurd rfl nonempty
  | cons piece pieces ih =>
      have first := each piece List.mem_cons_self
      cases pieces with
      | nil => simp [parts, splitParts_of_absent first]
      | cons next later =>
          have others := ih (List.cons_ne_nil _ _) fun part member =>
            each part (List.mem_cons_of_mem _ member)
          have whole : ("/".intercalate (piece :: next :: later)).toList =
              piece.toList ++ '/' :: ("/".intercalate (next :: later)).toList := by
            simp [String.intercalate_cons_cons]
          rw [parts, whole, splitParts_append_slash _ first, List.map_cons,
            String.ofList_toList]
          exact congrArg _ others

theorem head?_toList_eq_slash_iff (named : path ≠ "") :
    path.toList.head? = some '/' ↔ (parts path).head? = some "" := by
  cases characters : path.toList with
  | nil => exact absurd (String.toList_eq_nil_iff.mp characters) named
  | cons c rest =>
      rw [parts, characters]
      by_cases slash : c = '/'
      · simp [slash, splitParts]
      · cases split : splitParts rest <;> simp [splitParts, slash, split]

end Joining

section Parents

variable {path outer : String}

theorem dropIdle_beginning (pieces : List String) : dropIdle pieces <+: pieces := by
  cases pieces with
  | nil => exact List.nil_prefix
  | cons first rest =>
      rw [dropIdle, List.prefix_cons_inj, ← List.reverse_suffix,
        List.reverse_reverse]
      exact List.dropWhile_suffix _

theorem head?_dropIdle (pieces : List String) :
    (dropIdle pieces).head? = pieces.head? := by
  cases pieces <;> rfl

/-- The directory around a path is written with a beginning of its parts. -/
theorem exists_of_parent? (parent : parent? path = some outer)
    (named : outer ≠ "") :
    ∃ pieces, outer = joinParts pieces ∧ pieces <+: parts path ∧
      pieces.head? = (parts path).head? := by
  unfold parent? at parent
  have beginning := dropIdle_beginning (parts path)
  have head := head?_dropIdle (parts path)
  split at parent
  · cases parent
  · split at parent
    · cases parent
    · cases parent
      exact absurd rfl named
  · rename_i first second rest shape
    rw [shape] at beginning head
    cases parent
    refine ⟨_, rfl, ?_, ?_⟩
    · exact (dropIdle_beginning _).trans
        ((List.dropLast_prefix _).trans beginning)
    · rw [head?_dropIdle, ← head]
      rfl

/-- Joined pieces are the parts of what they make, but the root has two empty
parts instead of one. -/
theorem parts_joinParts {pieces : List String} (nonempty : pieces ≠ [])
    (each : ∀ piece ∈ pieces, '/' ∉ piece.toList) :
    parts (joinParts pieces) = pieces ∨
      pieces = [""] ∧ parts (joinParts pieces) = ["", ""] := by
  by_cases root : pieces = [""]
  · subst root
    exact .inr ⟨rfl, by decide⟩
  · have joined : joinParts pieces = "/".intercalate pieces := by
      unfold joinParts
      split
      · exact absurd rfl root
      · rfl
    rw [joined]
    exact .inl (parts_intercalate nonempty each)

theorem Encloses.refl (path : String) : Encloses path path :=
  ⟨fun _ => rfl, id, List.prefix_rfl⟩

theorem Encloses.trans {middle : String} (left : Encloses outer middle)
    (right : Encloses middle path) : Encloses outer path where
  origin tree := (left.origin tree).trans (right.origin tree)
  straight straight := left.straight (right.straight straight)
  names := left.names.trans right.names

theorem encloses_parent (parent : parent? path = some outer)
    (named : outer ≠ "") : Encloses outer path := by
  obtain ⟨pieces, rfl, beginning, head⟩ := exists_of_parent? parent named
  have nonempty : pieces ≠ [] := by
    rintro rfl
    exact parts_ne_nil path (List.head?_eq_none_iff.mp head.symm)
  have inner : path ≠ "" := by
    rintro rfl
    have none : parent? "" = none := by decide
    cases none.symm.trans parent
  have joined := parts_joinParts nonempty fun piece member slash =>
    (mem_of_mem_parts (beginning.subset member) slash).2 rfl
  constructor
  · intro tree
    have heads : (parts (joinParts pieces)).head? = (parts path).head? := by
      rw [← head]
      rcases joined with same | ⟨rfl, root⟩
      · rw [same]
      · rw [root]
        rfl
    unfold FileTree.origin
    simp only [head?_toList_eq_slash_iff named,
      head?_toList_eq_slash_iff inner, heads]
  · intro straight back
    rcases joined with same | ⟨-, root⟩
    · rw [same] at back
      exact straight (beginning.subset back)
    · rw [root] at back
      exact absurd back (by decide)
  · have beginning := beginning.filter (!isIdle ·)
    rcases joined with same | ⟨rfl, root⟩
    · rw [same]
      exact beginning
    · rw [root]
      exact List.nil_prefix

theorem encloses_of_mem_surroundingUpTo {limit : Nat}
    (member : outer ∈ surroundingUpTo limit path) : Encloses outer path := by
  induction limit generalizing path with
  | zero => cases member
  | succ limit ih =>
      unfold surroundingUpTo at member
      split at member
      · cases member
      · rw [List.mem_cons] at member
        rcases member with rfl | around
        · exact .refl _
        · cases parent : parent? path with
          | none =>
              rw [parent] at around
              cases around
          | some directory =>
              rw [parent] at around
              have named : directory ≠ "" := by
                rintro rfl
                cases limit <;> cases around
              exact (ih around).trans (encloses_parent parent named)

theorem encloses_of_mem_surrounding (member : outer ∈ surrounding path) :
    Encloses outer path :=
  encloses_of_mem_surroundingUpTo member

end Parents

end LineShell.Files
