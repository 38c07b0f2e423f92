/-!
# Lists ordered by name

A list of named values whose names strictly ascend maps each name to one value.
Putting a value under a name keeps the order.
-/

namespace LineShell

/-- Puts a value under a name, in the place of another one if there is one. -/
def putNamed {α : Type} (name : String) (value : α) :
    List (String × α) → List (String × α)
  | [] => [(name, value)]
  | (other, kept) :: rest =>
      if name < other then (name, value) :: (other, kept) :: rest
      else if name = other then (name, value) :: rest
      else (other, kept) :: putNamed name value rest

theorem mem_keys_putNamed {α : Type} {name key : String} {value : α}
    {entries : List (String × α)} :
    key ∈ (putNamed name value entries).map Prod.fst ↔
      key = name ∨ key ∈ entries.map Prod.fst := by
  induction entries with
  | nil => simp [putNamed]
  | cons head rest induction =>
      obtain ⟨other, kept⟩ := head
      unfold putNamed
      split
      · simp
      · split
        · rename_i _ same
          simp [same]
        · simp only [List.map_cons, List.mem_cons, induction]
          grind

theorem ordered_putNamed {α : Type} {name : String} {value : α}
    {entries : List (String × α)}
    (ordered : (entries.map Prod.fst).Pairwise (· < ·)) :
    ((putNamed name value entries).map Prod.fst).Pairwise (· < ·) := by
  induction entries with
  | nil => simp [putNamed]
  | cons head rest induction =>
      obtain ⟨other, kept⟩ := head
      rw [List.map_cons, List.pairwise_cons] at ordered
      unfold putNamed
      split
      · rename_i below
        simp only [List.map_cons, List.pairwise_cons, List.mem_cons,
          forall_eq_or_imp]
        exact ⟨⟨below, fun key member =>
          String.lt_trans below (ordered.1 key member)⟩, ordered⟩
      · split
        · rename_i _ same
          subst same
          simpa using ordered
        · rename_i notBelow different
          rw [List.map_cons, List.pairwise_cons]
          refine ⟨fun key member => ?_, induction ordered.2⟩
          rcases mem_keys_putNamed.mp member with same | old
          · subst same
            refine Decidable.byContradiction fun notAbove => different ?_
            exact String.le_antisymm (String.not_lt.mp notAbove)
              (String.not_lt.mp notBelow)
          · exact ordered.1 key old

theorem lookup_putNamed_self {α : Type} (name : String) (value : α)
    (entries : List (String × α)) :
    (putNamed name value entries).lookup name = some value := by
  induction entries with
  | nil => simp [putNamed]
  | cons head rest induction =>
      obtain ⟨other, kept⟩ := head
      unfold putNamed
      split
      · simp
      · split
        · simp
        · rename_i _ different
          simp [List.lookup_cons, beq_false_of_ne different, induction]

theorem lookup_putNamed_of_ne {α : Type} {name key : String} (value : α)
    (entries : List (String × α)) (different : key ≠ name) :
    (putNamed name value entries).lookup key = entries.lookup key := by
  have unequal : (key == name) = false := beq_false_of_ne different
  induction entries with
  | nil => simp [putNamed, List.lookup_cons, unequal]
  | cons head rest induction =>
      obtain ⟨other, kept⟩ := head
      unfold putNamed
      split
      · simp [List.lookup_cons, unequal]
      · split
        · rename_i _ same
          subst same
          simp [List.lookup_cons, unequal]
        · simp [List.lookup_cons, induction]

end LineShell
