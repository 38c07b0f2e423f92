import LineShell.Command.Handler
import LineShell.Command.Name
import LineShell.Event
import LineShell.Ordered

/-!
# The command table

A table maps names to commands.  Its entries stand in strictly ascending order
of their names and every name is valid, so the list of entries is determined by
what each name is mapped to.
-/

namespace LineShell.Command

/-- A registered command. -/
structure Entry where
  handler : Handler
  descriptor : Option Descriptor

namespace Entry

/-- The least number of arguments of a call; none are needed without a
descriptor. -/
def minArguments (entry : Entry) : Nat :=
  match entry.descriptor with
  | some descriptor => descriptor.minArguments
  | none => 0

end Entry

/-- A map from valid names to commands. -/
structure Table where
  entries : List (String × Entry)
  ordered : (entries.map Prod.fst).Pairwise (· < ·)
  named : ∀ name ∈ entries.map Prod.fst, isName name = true

namespace Table

def empty : Table :=
  ⟨[], by simp, by simp⟩

def names (table : Table) : List String :=
  table.entries.map Prod.fst

def size (table : Table) : Nat :=
  table.entries.length

def isEmpty (table : Table) : Bool :=
  table.entries.isEmpty

def find? (table : Table) (name : String) : Option Entry :=
  table.entries.lookup name

def contains (table : Table) (name : String) : Bool :=
  (table.find? name).isSome

def catalogue (table : Table) : Catalogue :=
  table.entries.map fun entry => (entry.1, entry.2.descriptor)

theorem names_catalogue (table : Table) :
    table.catalogue.map Prod.fst = table.names := by
  unfold catalogue names
  rw [List.map_map]
  rfl

/-- The catalogue knows the descriptor of exactly the registered names. -/
theorem lookup_catalogue (table : Table) (name : String) :
    table.catalogue.lookup name = (table.find? name).map Entry.descriptor := by
  unfold catalogue find?
  induction table.entries with
  | nil => rfl
  | cons head rest induction =>
      obtain ⟨key, entry⟩ := head
      cases same : name == key <;>
        simp [List.lookup_cons, same, induction]

def put (table : Table) (name : String) (entry : Entry)
    (valid : isName name = true) : Table where
  entries := putNamed name entry table.entries
  ordered := ordered_putNamed table.ordered
  named := by
    intro key member
    rcases mem_keys_putNamed.mp member with same | old
    · exact same ▸ valid
    · exact table.named key old

/-- The result of a registration. -/
structure Registration where
  table : Table
  overridden : Bool
  event : Event

/-- Registers a command.  A name that no line can spell changes nothing. -/
def register (table : Table) (name : String) (entry : Entry) : Registration :=
  if valid : isName name = true then
    { table := table.put name entry valid
      overridden := table.contains name
      event := if table.contains name then .overridden name
        else .registered name }
  else
    { table := table, overridden := false, event := .nameRejected name }

end Table

end LineShell.Command
