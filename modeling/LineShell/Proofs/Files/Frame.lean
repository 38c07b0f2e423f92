import LineShell.Files.Tree
import LineShell.Proofs.Files.Path

/-!
# What operations on files leave alone

A path that never goes back finds what lies at its place, so what it finds is
the same in all trees that hold the same there (`find_of_sameAt`).  Making a
directory, creating a file and adding to one change nothing at places that lie
neither above nor below; new directories moreover change nothing below them
but what was not there.
-/

namespace LineShell.Files

open Text (Bytes)

/-- Neither of two places lies on the way to the other. -/
structure Apart (place other : Place) : Prop where
  notAbove : ¬place <+: other
  notBelow : ¬other <+: place

instance (place other : Place) : Decidable (Apart place other) :=
  decidable_of_iff (¬place <+: other ∧ ¬other <+: place)
    ⟨fun apart => ⟨apart.1, apart.2⟩, fun apart => ⟨apart.1, apart.2⟩⟩

namespace Node

variable {node new : Node} {place other : Place}

theorem at?_cons_eq_some_iff {name : String} {rest : Place} {found : Node} :
    node.at? (name :: rest) = some found ↔
      ∃ entries child, node = .directory entries ∧
        entries.lookup name = some child ∧ child.at? rest = some found := by
  cases node with
  | file content => simp [at?]
  | directory entries =>
      cases lookup : entries.lookup name <;> simp [at?, lookup]

theorem at?_append (node : Node) (place rest : Place) :
    node.at? (place ++ rest) = (node.at? place).bind (·.at? rest) := by
  induction place generalizing node with
  | nil => rfl
  | cons name place ih =>
      cases node with
      | file content => rfl
      | directory entries =>
          simp only [List.cons_append, at?]
          cases entries.lookup name with
          | none => rfl
          | some child => exact ih child

theorem at?_emptyDirectory (below : place ≠ []) :
    emptyDirectory.at? place = none := by
  cases place with
  | nil => exact absurd rfl below
  | cons name rest => rfl

theorem at?_put_of_apart (apart : Apart place other) :
    (put new place node).at? other = node.at? other := by
  induction place generalizing node other with
  | nil => exact absurd List.nil_prefix apart.notAbove
  | cons name place ih =>
      cases other with
      | nil => exact absurd List.nil_prefix apart.notBelow
      | cons key other =>
          cases node with
          | file content => rfl
          | directory entries =>
              by_cases same : key = name
              · subst same
                have further : Apart place other :=
                  ⟨fun above => apart.notAbove
                      (List.cons_prefix_cons.mpr ⟨rfl, above⟩),
                    fun below => apart.notBelow
                      (List.cons_prefix_cons.mpr ⟨rfl, below⟩)⟩
                simp only [put, at?, lookup_putNamed_self, ih further]
                cases entries.lookup key with
                | some child => rfl
                | none =>
                    apply at?_emptyDirectory
                    rintro rfl
                    exact further.notBelow List.nil_prefix
              · simp only [put, at?, lookup_putNamed_of_ne _ _ same]

theorem eq_of_at?_put {found : Node}
    (there : (put new place node).at? place = some found) : found = new := by
  induction place generalizing node with
  | nil => exact (Option.some.inj there).symm
  | cons name place ih =>
      cases node with
      | file content => cases there
      | directory entries =>
          simp only [put, at?, lookup_putNamed_self] at there
          exact ih there

/-- A new directory where nothing was changes nothing but on the way to it. -/
theorem at?_put_emptyDirectory (missing : node.at? place = none)
    (outside : ¬other <+: place) :
    (put .emptyDirectory place node).at? other = node.at? other := by
  by_cases inside : place <+: other
  · obtain ⟨rest, rfl⟩ := inside
    have below : rest ≠ [] := by
      rintro rfl
      exact outside (by simp)
    rw [at?_append, at?_append, missing]
    cases there : (put emptyDirectory place node).at? place with
    | none => rfl
    | some found =>
        rw [eq_of_at?_put there]
        exact at?_emptyDirectory below
  · exact at?_put_of_apart ⟨inside, outside⟩

end Node

section Following

variable {root other : Node} {trail beside after : Trail} {part : String}
  {rest pieces : List String}

theorem follow_cons_eq_ok_iff (onward : part ≠ "..") :
    FileTree.follow root trail (part :: rest) = .ok after ↔
      ∃ entries, trail.node root = .directory entries ∧
        (isIdle part = true ∧ FileTree.follow root trail rest = .ok after ∨
          isIdle part = false ∧ part.utf8ByteSize ≤ FileTree.nameLimit ∧
            ∃ child, entries.lookup part = some child ∧
              FileTree.follow root ((part, child) :: trail) rest =
                .ok after) := by
  rw [FileTree.follow]
  cases here : trail.node root with
  | file content => simp
  | directory entries =>
      cases idle : isIdle part with
      | true => simp
      | false =>
          by_cases long : FileTree.nameLimit < part.utf8ByteSize
          · simp [onward, long, Nat.not_le.mpr long]
          · cases child : entries.lookup part <;>
              simp [onward, long, Nat.not_lt.mp long, child]

theorem names_cons_of_idle (idle : isIdle part = true) :
    names (part :: rest) = names rest := by
  simp [names, idle]

theorem names_cons_of_not_idle (named : isIdle part = false) :
    names (part :: rest) = part :: names rest := by
  simp [names, named]

/-- Going on along parts leads to the node below, at the names of the parts. -/
theorem at?_of_follow (straight : ".." ∉ pieces)
    (followed : FileTree.follow root trail pieces = .ok after) :
    after.place = trail.place ++ names pieces ∧
      (trail.node root).at? (names pieces) = some (after.node root) := by
  induction pieces generalizing trail with
  | nil =>
      cases followed
      exact ⟨(List.append_nil _).symm, rfl⟩
  | cons part rest ih =>
      rw [List.mem_cons, not_or] at straight
      obtain ⟨entries, here, step⟩ :=
        (follow_cons_eq_ok_iff (Ne.symm straight.1)).mp followed
      rcases step with ⟨idle, on⟩ | ⟨named, -, child, found, on⟩
      · rw [names_cons_of_idle idle]
        exact ih straight.2 on
      · obtain ⟨place, there⟩ := ih straight.2 on
        rw [names_cons_of_not_idle named]
        constructor
        · rw [place]
          simp [Trail.place]
        · rw [here, Node.at?, found]
          exact there

theorem follow_of_at? (straight : ".." ∉ pieces)
    (followed : FileTree.follow root trail pieces = .ok after)
    (there : (beside.node other).at? (names pieces) =
      some (after.node root)) :
    ∃ reached, FileTree.follow other beside pieces = .ok reached ∧
      reached.node other = after.node root := by
  induction pieces generalizing trail beside with
  | nil =>
      cases followed
      exact ⟨beside, rfl, Option.some.inj there⟩
  | cons part rest ih =>
      rw [List.mem_cons, not_or] at straight
      obtain ⟨entries, here, step⟩ :=
        (follow_cons_eq_ok_iff (Ne.symm straight.1)).mp followed
      simp only [follow_cons_eq_ok_iff (Ne.symm straight.1)]
      rcases step with ⟨idle, on⟩ | ⟨named, short, child, found, on⟩
      · rw [names_cons_of_idle idle] at there
        obtain ⟨reached, again, same⟩ := ih straight.2 on there
        cases between : beside.node other with
        | directory others =>
            exact ⟨reached, ⟨others, rfl, .inl ⟨idle, again⟩⟩, same⟩
        | file content =>
            -- Nothing lies below a file, so no names are left and both trails
            -- end at the same node, but one of them at a directory.
            have below := (at?_of_follow straight.2 on).2
            rw [here] at below
            rw [between] at there
            cases left : names rest with
            | nil =>
                rw [left] at there below
                cases there.trans below.symm
            | cons name later =>
                rw [left] at there
                cases there
      · rw [names_cons_of_not_idle named, Node.at?_cons_eq_some_iff] at there
        obtain ⟨others, inner, between, lookup, there⟩ := there
        obtain ⟨reached, again, same⟩ :=
          @ih ((part, child) :: trail) ((part, inner) :: beside) straight.2 on
            there
        exact ⟨reached, ⟨others, between,
          .inr ⟨named, short, inner, lookup, again⟩⟩, same⟩

end Following

namespace FileTree

/-- The place that a path leads to if it never goes back. -/
def place (tree : FileTree) (path : String) : Place :=
  names (tree.origin path ++ parts path)

/-- A tree holds a directory at a place, or else a file. -/
def Holds (tree : FileTree) (place : Place) (directory : Bool) : Prop :=
  ∃ node, tree.root.at? place = some node ∧ node.isDirectory = directory

/-- A node can be put at a place: there is a directory around it, and none at
the place itself. -/
structure Accepts (tree : FileTree) (place : Place) : Prop where
  free : ¬tree.Holds place true
  around : ∃ directory name, directory ++ [name] = place ∧
    tree.Holds directory true

/-- Two trees have the same current directory and hold the same at a place. -/
structure SameAt (place : Place) (before after : FileTree) : Prop where
  current : after.current = before.current
  node : after.root.at? place = before.root.at? place

section SameAt

variable {place : Place} {path : String} {tree next last : FileTree}

theorem SameAt.refl (place : Place) (tree : FileTree) : SameAt place tree tree :=
  ⟨rfl, rfl⟩

theorem SameAt.trans (first : SameAt place tree next)
    (second : SameAt place next last) : SameAt place tree last :=
  ⟨second.current.trans first.current, second.node.trans first.node⟩

theorem origin_congr (current : next.current = tree.current) (path : String) :
    next.origin path = tree.origin path := by
  unfold origin
  rw [current]

theorem place_congr (current : next.current = tree.current) (path : String) :
    next.place path = tree.place path := by
  rw [FileTree.place, origin_congr current, FileTree.place]

theorem straight_origin_append (level : ".." ∉ tree.current)
    (straight : Straight path) : ".." ∉ tree.origin path ++ parts path := by
  rw [List.mem_append, not_or]
  refine ⟨?_, straight⟩
  unfold origin
  split
  · exact List.not_mem_nil
  · exact level

theorem find_eq_ok_iff {node : Node} :
    tree.find path = .ok node ↔
      refusal? path = none ∧
        ∃ trail, follow tree.root [] (tree.origin path ++ parts path) =
            .ok trail ∧ trail.node tree.root = node := by
  unfold find
  cases refusal? path with
  | some error => simp
  | none =>
      cases follow tree.root [] (tree.origin path ++ parts path) <;>
        simp [Except.map]

theorem at?_of_find {node : Node} (level : ".." ∉ tree.current)
    (straight : Straight path) (found : tree.find path = .ok node) :
    tree.root.at? (tree.place path) = some node := by
  obtain ⟨-, trail, followed, rfl⟩ := find_eq_ok_iff.mp found
  exact (at?_of_follow (straight_origin_append level straight) followed).2

theorem find_of_at? {node : Node} (level : ".." ∉ tree.current)
    (straight : Straight path) (current : next.current = tree.current)
    (there : next.root.at? (tree.place path) = some node)
    (found : tree.find path = .ok node) : next.find path = .ok node := by
  obtain ⟨accepted, trail, followed, rfl⟩ := find_eq_ok_iff.mp found
  obtain ⟨reached, again, same⟩ := @follow_of_at? _ _ _ [] _ _
    (straight_origin_append level straight) followed there
  rw [find_eq_ok_iff, origin_congr current]
  exact ⟨accepted, reached, again, same⟩

/-- Trees with the same at the place of a path let it find the same, or
nothing. -/
theorem find_of_sameAt (level : ".." ∉ tree.current)
    (straight : Straight path) (same : SameAt (tree.place path) tree next) :
    (∃ node, tree.find path = .ok node ∧ next.find path = .ok node) ∨
      ∃ error later,
        tree.find path = .error error ∧ next.find path = .error later := by
  cases found : tree.find path with
  | ok node =>
      have there := at?_of_find level straight found
      exact .inl ⟨node, rfl,
        find_of_at? level straight same.current (same.node ▸ there) found⟩
  | error error =>
      cases again : next.find path with
      | error later => exact .inr ⟨error, later, rfl, rfl⟩
      | ok node =>
          have level : ".." ∉ next.current := same.current ▸ level
          have there := at?_of_find level straight again
          rw [place_congr same.current, same.node] at there
          cases found.symm.trans (find_of_at? level straight
            same.current.symm (place_congr same.current path ▸ there) again)

end SameAt

section Slots

variable {path : String} {tree : FileTree}

theorem names_append (pieces rest : List String) :
    names (pieces ++ rest) = names pieces ++ names rest :=
  List.filter_append _ _

theorem exists_trailing {pieces before : List String} {name : String}
    (last : pieces.reverse.dropWhile (· = "") = name :: before) :
    name ≠ "" ∧ ∃ trailing,
      pieces = before.reverse ++ name :: trailing ∧ names trailing = [] := by
  constructor
  · have head := List.head?_dropWhile_not (· = "") pieces.reverse
    rw [last] at head
    simpa using head
  · refine ⟨(pieces.reverse.takeWhile (· = "")).reverse, ?_, ?_⟩
    · have parted := List.takeWhile_append_dropWhile (p := (· = ""))
        (l := pieces.reverse)
      rw [last] at parted
      simpa using (congrArg List.reverse parted).symm
    · rw [names, List.filter_eq_nil_iff]
      intro piece member
      have empty := List.all_eq_true.mp List.all_takeWhile piece
        (List.mem_reverse.mp member)
      simp [isIdle, of_decide_eq_true empty]

/-- The slot of a path that never goes back is at its place, in a directory
that is there. -/
theorem at?_of_slot {slot : Slot} (level : ".." ∉ tree.current)
    (straight : Straight path) (found : tree.slot path = .ok slot)
    (named : slot.name ≠ ".") :
    slot.directory ++ [slot.name] = tree.place path ∧
      tree.root.at? slot.directory = some (.directory slot.entries) := by
  have straight := straight_origin_append level straight
  unfold FileTree.slot at found
  split at found
  · cases found
  · dsimp only at found
    split at found
    · cases found
      exact absurd rfl named
    · rename_i name before last
      obtain ⟨filled, trailing, whole, idle⟩ := exists_trailing last
      rw [whole, ← List.append_assoc, List.mem_append, not_or] at straight
      split at found
      · cases found
      · rename_i trail followed
        obtain ⟨directory, there⟩ := at?_of_follow straight.1 followed
        split at found
        · rename_i entries here
          cases found
          rw [here] at there
          have place : trail.place =
              names (tree.origin path ++ before.reverse) := directory
          have ending : names (name :: trailing) = [name] := by
            rw [names_cons_of_not_idle, idle]
            simp [isIdle, filled, named]
          constructor
          · rw [FileTree.place, whole, ← List.append_assoc, names_append,
              ending]
            exact congrArg (· ++ [name]) place
          · exact place ▸ there
        · cases found

end Slots

section Operations

variable {path : String} {place : Place} {tree after : FileTree}

theorem Accepts.not_holds {above : Place} (accepts : tree.Accepts place)
    (below : above <+: place) (different : above ≠ place) :
    ¬tree.Holds above false := by
  rintro ⟨node, there, kind⟩
  obtain ⟨directory, name, rfl, inner, found, isDirectory⟩ := accepts.around
  obtain ⟨rest, same⟩ : above <+: directory := by
    rcases List.prefix_concat_iff.mp below with whole | inside
    · exact absurd whole different
    · exact inside
  rw [← same, Node.at?_append, there] at found
  cases rest with
  | nil =>
      cases found
      exact absurd (kind.symm.trans isDirectory) Bool.false_ne_true
  | cons name rest =>
      cases node with
      | file content => cases found
      | directory entries => cases kind

theorem exists_of_makeDirectory (level : ".." ∉ tree.current)
    (straight : Straight path) (made : tree.makeDirectory path = .ok after) :
    tree.root.at? (tree.place path) = none ∧
      tree.Accepts (tree.place path) ∧
      after = { tree with
        root := Node.put .emptyDirectory (tree.place path) tree.root } := by
  unfold makeDirectory at made
  split at made
  · cases made
  · rename_i slot found
    split at made
    · cases made
    · rename_i named
      split at made
      · cases made
      · split at made
        · cases made
        · rename_i missing
          rw [Bool.or_eq_true, not_or, decide_eq_true_iff] at named
          obtain ⟨same, directory⟩ :=
            at?_of_slot level straight found named.1
          rw [same] at made
          cases made
          have nothing : tree.root.at? (tree.place path) = none := by
            rw [← same, Node.at?_append, directory]
            simp [Node.at?, missing]
          exact ⟨nothing, ⟨by simp [Holds, nothing],
            slot.directory, slot.name, same, _, directory, rfl⟩, rfl⟩

/-- What making a directory keeps is kept when several are made. -/
theorem makeInside_induction {motive : FileTree → Prop} {paths : List String}
    (step : ∀ path ∈ paths, ∀ before after, motive before →
      before.makeDirectory path = .ok after → motive after)
    (start : motive tree) : motive (tree.makeInside paths).tree := by
  induction paths with
  | nil => exact start
  | cons path outer ih =>
      have inside := ih fun path member =>
        step path (List.mem_cons_of_mem _ member)
      have first := step path List.mem_cons_self
      unfold makeInside
      split
      · rename_i made success
        exact first tree made start success
      · split
        · rename_i later error shape
          rw [shape] at inside
          exact inside
        · rename_i later shape
          rw [shape] at inside
          split
          · rename_i made success
            exact first later made inside success
          · exact inside
      · exact start

theorem sameAt_makeDirectory (level : ".." ∉ tree.current)
    (straight : Straight path) (outside : ¬place <+: tree.place path)
    (made : tree.makeDirectory path = .ok after) :
    SameAt place tree after := by
  obtain ⟨missing, -, rfl⟩ := exists_of_makeDirectory level straight made
  exact ⟨rfl, Node.at?_put_emptyDirectory missing outside⟩

theorem place_of_encloses {outer : String} (encloses : Encloses outer path)
    (tree : FileTree) : tree.place outer <+: tree.place path := by
  rw [FileTree.place, FileTree.place, names_append, names_append,
    encloses.origin, List.prefix_append_right_inj]
  exact encloses.names

/-- Making directories around a path changes nothing but on the way to it. -/
theorem sameAt_makeInside {paths : List String} (level : ".." ∉ tree.current)
    (straight : Straight path)
    (around : ∀ outer ∈ paths, Encloses outer path)
    (outside : ¬place <+: tree.place path) :
    SameAt place tree (tree.makeInside paths).tree := by
  apply makeInside_induction _ (SameAt.refl place tree)
  intro outer member before after same made
  have encloses := around outer member
  have level : ".." ∉ before.current := same.current ▸ level
  apply same.trans
  apply sameAt_makeDirectory level (encloses.straight straight) _ made
  intro inside
  rw [place_congr same.current] at inside
  exact outside (inside.trans (place_of_encloses encloses tree))

theorem tree_makeInside_of_blocked {paths : List String}
    (level : ".." ∉ tree.current) (straight : Straight path)
    (around : ∀ outer ∈ paths, Encloses outer path)
    (blocked : ∀ between, between <+: tree.place path →
      tree.root.at? between = none → ¬tree.Accepts between) :
    (tree.makeInside paths).tree = tree := by
  apply @makeInside_induction tree (· = tree)
  · rintro outer member _ after rfl made
    have encloses := around outer member
    obtain ⟨missing, accepts, -⟩ :=
      exists_of_makeDirectory level (encloses.straight straight) made
    exact absurd accepts
      (blocked _ (place_of_encloses encloses _) missing)
  · rfl

/-- A file is created at the place of its path, or nothing happens. -/
theorem createFile_cases (level : ".." ∉ tree.current)
    (straight : Straight path) :
    (∃ error, tree.createFile path = ⟨tree, .error error⟩) ∨
      tree.Accepts (tree.place path) ∧
        tree.createFile path =
          ⟨{ tree with
              root := Node.put (.file []) (tree.place path) tree.root },
            .ok (tree.place path)⟩ := by
  unfold createFile
  cases found : tree.slot path with
  | error error => exact .inl ⟨error, rfl⟩
  | ok slot =>
      dsimp only
      split
      · exact .inl ⟨_, rfl⟩
      · rename_i named
        split
        · exact .inl ⟨_, rfl⟩
        · simp only [Bool.or_eq_true, not_or, decide_eq_true_iff] at named
          obtain ⟨same, directory⟩ :=
            at?_of_slot level straight found named.1.2
          have there : tree.root.at? (tree.place path) =
              slot.entries.lookup slot.name := by
            rw [← same, Node.at?_append, directory]
            cases lookup : slot.entries.lookup slot.name <;>
              simp [Node.at?, lookup]
          have around : ∃ directory name,
              directory ++ [name] = tree.place path ∧
                tree.Holds directory true :=
            ⟨slot.directory, slot.name, same, _, directory, rfl⟩
          rw [same]
          cases lookup : slot.entries.lookup slot.name with
          | none =>
              rw [lookup] at there
              exact .inr ⟨⟨by simp [Holds, there], around⟩, rfl⟩
          | some node =>
              rw [lookup] at there
              cases node with
              | file content =>
                  refine .inr ⟨⟨?_, around⟩, rfl⟩
                  simp [Holds, there, Node.isDirectory]
              | directory entries => exact .inl ⟨_, rfl⟩

theorem sameAt_append (bytes : Bytes) {log : Place} (apart : Apart log place) :
    SameAt place tree (tree.append log bytes) := by
  unfold append
  split
  · exact ⟨rfl, Node.at?_put_of_apart apart⟩
  · exact .refl place tree
  · exact .refl place tree

end Operations

end FileTree

end LineShell.Files
