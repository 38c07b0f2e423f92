import LineShell.Toml.Document

/-!
# The tables of a document

Expressions are entered into a tree of tables one after the other.  A table
can be written in parts only as far as TOML allows: each header once, no key
twice, and dotted keys only reach tables that came about by dotted keys or as
the surroundings of another table.
-/

namespace LineShell.Toml

/-- How a table came about. -/
inductive Origin where
  | header
  /-- As the surroundings of a table with a header. -/
  | surroundings
  | dottedKey
  deriving DecidableEq, Repr

/-- What a key of a document stands for while the document is put together. -/
inductive Node where
  | value (content : Value)
  /-- A table that may grow. -/
  | table (origin : Origin) (entries : List (String × Node))
  /-- An array of tables, the last of which may grow. -/
  | elements (earlier : List (List (String × Node)))
      (last : List (String × Node))
  deriving Repr

/-- The keys of a table with what they stand for. -/
abbrev Entries := List (String × Node)

def replaceEntry (name : String) (node : Node) (entries : Entries) : Entries :=
  entries.map fun entry => if entry.1 = name then (name, node) else entry

/-- Changes the table that a path leads to, making tables of the given origin
where the path leads to none.  A dotted key cannot enter a table with a header
of its own. -/
def changeAt (origin : Origin) (change : Origin → Entries → Option Entries) :
    Origin → List String → Entries → Option Entries
  | own, [], entries => change own entries
  | _, name :: path, entries =>
      match entries.lookup name with
      | none => do
          let inner ← changeAt origin change origin path []
          pure (entries ++ [(name, .table origin inner)])
      | some (.value _) => none
      | some (.table own inner) =>
          if origin = .dottedKey ∧ own = .header then none
          else do
            let changed ← changeAt origin change own path inner
            pure (replaceEntry name (.table own changed) entries)
      | some (.elements earlier last) => do
          let changed ← changeAt origin change .header path last
          pure (replaceEntry name (.elements earlier changed) entries)

def enterValue (dotted : Bool) (name : String) (value : Value)
    (own : Origin) (entries : Entries) : Option Entries :=
  if dotted ∧ own ≠ .dottedKey then none
  else
    match entries.lookup name with
    | some _ => none
    | none => some (entries ++ [(name, .value value)])

def enterKeyValue (path : List String) (name : String) (value : Value)
    (entries : Entries) : Option Entries :=
  changeAt .dottedKey (enterValue (!path.isEmpty) name value) .header path
    entries

/-- Opens a table by its header.  It may already surround other tables. -/
def openTable (name : String) (entries : Entries) : Option Entries :=
  match entries.lookup name with
  | none => some (entries ++ [(name, .table .header [])])
  | some (.table .surroundings inner) =>
      some (replaceEntry name (.table .header inner) entries)
  | some _ => none

def openElement (name : String) (entries : Entries) : Option Entries :=
  match entries.lookup name with
  | none => some (entries ++ [(name, .elements [] [])])
  | some (.elements earlier last) =>
      some (replaceEntry name (.elements (earlier ++ [last]) []) entries)
  | some _ => none

/-- The tables of a document and the path of the table that is open. -/
structure Tree where
  entries : Entries
  current : List String
  deriving Repr

namespace Tree

def empty : Tree :=
  ⟨[], []⟩

def enter (tree : Tree) : Expression → Option Tree
  | .keyValue path name value => do
      let entries ← changeAt .surroundings
        (fun _ => enterKeyValue path name value) .header tree.current
        tree.entries
      pure { tree with entries }
  | .tableHeader path name => do
      let entries ← changeAt .surroundings (fun _ => openTable name) .header
        path tree.entries
      pure ⟨entries, path ++ [name]⟩
  | .elementHeader path name => do
      let entries ← changeAt .surroundings (fun _ => openElement name) .header
        path tree.entries
      pure ⟨entries, path ++ [name]⟩

end Tree

mutual

def Node.toValue : Node → Value
  | .value content => content
  | .table _ entries => .table (Node.toEntries entries)
  | .elements earlier last =>
      .array (Node.toTables earlier ++ [.table (Node.toEntries last)])

def Node.toEntries : List (String × Node) → List (String × Value)
  | [] => []
  | (name, node) :: rest => (name, node.toValue) :: Node.toEntries rest

/-- The values of the elements of an array of tables. -/
def Node.toTables : List (List (String × Node)) → List Value
  | [] => []
  | entries :: rest => .table (Node.toEntries entries) :: Node.toTables rest

end

def assembleInline (entries : List InlineEntry) : Option Value := do
  let tree ← entries.foldlM (fun tree entry =>
    enterKeyValue entry.1 entry.2.1 entry.2.2 tree) []
  pure (.table (Node.toEntries tree))

def parse? (text : String) : Option (List (String × Value)) := do
  let value := valueWithin assembleInline (nestingLimit - 1)
  let expressions ← (document value).all? text
  let tree ← expressions.foldlM Tree.enter .empty
  pure (Node.toEntries tree.entries)

end LineShell.Toml
