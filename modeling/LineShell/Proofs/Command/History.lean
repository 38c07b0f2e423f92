import Mathlib.Data.List.Induction
import LineShell.Command.Installation
import LineShell.Proofs.Command.Names

/-!
# Histories of registrations

A table is filled by registrations, one after the other.  What it holds in the
end can be told from the list of requests without running them: a name that a
line can spell is mapped to the entry of the last request for it, and nothing
else is.  `find?_replay_eq_some_iff` says so, and since tables are determined
by their look-ups (`Table.eq_of_find?_eq`), histories that agree on the last
requests lead to the same table.
-/

namespace LineShell.Command

/-- A request to register a command, with or without a descriptor. -/
structure Request where
  name : String
  entry : Entry

/-- The last request for a name asks for an entry. -/
def LastRequest (history : List Request) (name : String) (entry : Entry) :
    Prop :=
  ∃ earlier later, history = earlier ++ ⟨name, entry⟩ :: later ∧
    ∀ request ∈ later, request.name ≠ name

namespace Table

/-- The table after all requests. -/
def replay (table : Table) : List Request → Table
  | [] => table
  | request :: later =>
      (table.register request.name request.entry).table.replay later

/-- What each request is told: whether it took the place of a command. -/
def answers (table : Table) : List Request → List Bool
  | [] => []
  | request :: later =>
      let registration := table.register request.name request.entry
      registration.overridden :: registration.table.answers later

end Table

section Requests

variable {history : List Request} {request : Request} {name : String}
  {entry : Entry}

theorem lastRequest_concat_iff :
    LastRequest (history ++ [request]) name entry ↔
      (request.name = name ∧ request.entry = entry) ∨
        (request.name ≠ name ∧ LastRequest history name entry) := by
  constructor
  · rintro ⟨earlier, later, whole, others⟩
    rcases later.eq_nil_or_concat with rfl | ⟨later, last, rfl⟩
    · obtain ⟨-, same⟩ := List.append_inj' whole rfl
      rw [List.cons.injEq] at same
      rw [same.1]
      exact .inl ⟨rfl, rfl⟩
    · rw [List.concat_eq_append, ← List.cons_append, ← List.append_assoc]
        at whole
      obtain ⟨rfl, same⟩ := List.append_inj' whole rfl
      rw [List.cons.injEq] at same
      refine .inr ⟨?_, earlier, later, rfl, ?_⟩
      · rw [same.1]
        exact others last (by simp)
      · intro other member
        exact others other (by simp [member])
  · rintro (⟨rfl, rfl⟩ | ⟨different, earlier, later, rfl, others⟩)
    · exact ⟨history, [], rfl, nofun⟩
    · refine ⟨earlier, later ++ [request], by simp, ?_⟩
      intro other member
      rcases List.mem_append.mp member with old | last
      · exact others other old
      · rw [List.mem_singleton.mp last]
        exact different

theorem exists_lastRequest_iff :
    (∃ entry, LastRequest history name entry) ↔
      ∃ request ∈ history, request.name = name := by
  constructor
  · rintro ⟨entry, earlier, later, rfl, -⟩
    exact ⟨⟨name, entry⟩, by simp, rfl⟩
  · induction history using List.reverseRecOn with
    | nil => rintro ⟨request, member, -⟩; cases member
    | append_singleton history last induction =>
        rintro ⟨request, member, named⟩
        by_cases same : last.name = name
        · exact ⟨last.entry, lastRequest_concat_iff.mpr (.inl ⟨same, rfl⟩)⟩
        · have old : request ∈ history := by
            rcases List.mem_append.mp member with old | isLast
            · exact old
            · rw [List.mem_singleton.mp isLast] at named
              exact absurd named same
          obtain ⟨entry, last⟩ := induction ⟨request, old, named⟩
          exact ⟨entry, lastRequest_concat_iff.mpr (.inr ⟨same, last⟩)⟩

end Requests

section Lookups

variable {α : Type}

theorem lookup_eq_none_of_below {entries : List (String × α)} {key : String}
    (below : ∀ name ∈ entries.map Prod.fst, key < name) :
    entries.lookup key = none := by
  rw [List.lookup_eq_none_iff]
  intro entry member
  have less := below entry.1 (List.mem_map_of_mem member)
  rw [bne_iff_ne]
  rintro rfl
  exact String.lt_irrefl _ less

theorem length_putNamed {name : String} {value : α}
    {entries : List (String × α)}
    (ordered : (entries.map Prod.fst).Pairwise (· < ·)) :
    (putNamed name value entries).length =
      entries.length + if (entries.lookup name).isSome then 0 else 1 := by
  induction entries with
  | nil => rfl
  | cons head rest induction =>
      obtain ⟨other, kept⟩ := head
      rw [List.map_cons, List.pairwise_cons] at ordered
      unfold putNamed
      split
      · rename_i below
        have absent : ((other, kept) :: rest).lookup name = none := by
          apply lookup_eq_none_of_below
          intro key member
          rcases List.mem_cons.mp member with rfl | later
          · exact below
          · exact String.lt_trans below (ordered.1 key later)
        simp [absent]
      · split
        · rename_i _ same
          simp [same]
        · rename_i _ different
          simp only [List.length_cons, List.lookup_cons,
            beq_false_of_ne different, induction ordered.2]
          omega

theorem not_below_of_lookup_eq {name other : String} {value : α}
    {entries others : List (String × α)}
    (ordered : ((other :: others.map Prod.fst)).Pairwise (· < ·))
    {kept : α}
    (agree : ((name, value) :: entries).lookup name =
      ((other, kept) :: others).lookup name) :
    ¬name < other := by
  intro less
  rw [List.pairwise_cons] at ordered
  have absent : ((other, kept) :: others).lookup name = none := by
    apply lookup_eq_none_of_below
    intro key member
    rcases List.mem_cons.mp member with rfl | later
    · exact less
    · exact String.lt_trans less (ordered.1 key later)
  rw [absent, List.lookup_cons_self] at agree
  cases agree

/-- An ordered list is determined by its look-ups. -/
theorem eq_of_lookup_eq {entries others : List (String × α)}
    (ordered : (entries.map Prod.fst).Pairwise (· < ·))
    (othersOrdered : (others.map Prod.fst).Pairwise (· < ·))
    (agree : ∀ key, entries.lookup key = others.lookup key) :
    entries = others := by
  induction entries generalizing others with
  | nil =>
      cases others with
      | nil => rfl
      | cons head rest =>
          have found := agree head.1
          rw [List.lookup_cons_self] at found
          cases found
  | cons head entries induction =>
      obtain ⟨name, value⟩ := head
      cases others with
      | nil =>
          have found := agree name
          rw [List.lookup_cons_self] at found
          cases found
      | cons head others =>
          obtain ⟨other, kept⟩ := head
          -- Were one of the first names below the other, only its own list
          -- would find it.
          have same : name = other :=
            String.le_antisymm
              (String.not_lt.mp
                (not_below_of_lookup_eq ordered (agree other).symm))
              (String.not_lt.mp
                (not_below_of_lookup_eq othersOrdered (agree name)))
          subst same
          have values := agree name
          rw [List.lookup_cons_self, List.lookup_cons_self,
            Option.some.injEq] at values
          rw [List.map_cons, List.pairwise_cons] at ordered othersOrdered
          rw [values, induction ordered.2 othersOrdered.2 ?_]
          intro key
          by_cases first : key = name
          · rw [first, lookup_eq_none_of_below ordered.1,
              lookup_eq_none_of_below othersOrdered.1]
          · have tails := agree key
            simpa [List.lookup_cons, beq_false_of_ne first] using tails

end Lookups

namespace Table

theorem eq_of_find?_eq {table other : Table}
    (agree : ∀ name, table.find? name = other.find? name) : table = other := by
  obtain ⟨entries, ordered, named⟩ := table
  obtain ⟨others, othersOrdered, othersNamed⟩ := other
  have same : entries = others := eq_of_lookup_eq ordered othersOrdered agree
  subst same
  rfl

section Registration

variable (table : Table) (name : String) (entry : Entry)

theorem find?_register_self (spellable : Spellable name) :
    (table.register name entry).table.find? name = some entry := by
  rw [register, dif_pos (isName_iff_spellable.mpr spellable)]
  exact lookup_putNamed_self name entry table.entries

variable {name} in
theorem find?_register_of_ne {key : String} (different : key ≠ name) :
    (table.register name entry).table.find? key = table.find? key := by
  unfold register
  split
  · exact lookup_putNamed_of_ne entry table.entries different
  · rfl

variable {name} in
theorem register_of_not_spellable (unspellable : ¬Spellable name) :
    (table.register name entry).table = table := by
  have invalid : ¬isName name = true := by rwa [isName_iff_spellable]
  rw [register, dif_neg invalid]

variable {name} in
theorem spellable_of_contains (known : table.contains name = true) :
    Spellable name := by
  rw [contains, find?, List.lookup_isSome_iff] at known
  obtain ⟨named, member, same⟩ := known
  rw [eq_of_beq same, ← isName_iff_spellable]
  exact table.named named.1 (List.mem_map_of_mem member)

variable {table name entry} in
theorem spellable_of_find? (found : table.find? name = some entry) :
    Spellable name := by
  apply spellable_of_contains table
  rw [contains, found]
  rfl

theorem overridden_register :
    (table.register name entry).overridden = table.contains name := by
  by_cases spellable : Spellable name
  · rw [register, dif_pos (isName_iff_spellable.mpr spellable)]
  · have invalid : ¬isName name = true := by rwa [isName_iff_spellable]
    have absent : table.contains name = false := by
      rw [← Bool.not_eq_true]
      intro known
      exact spellable (spellable_of_contains table known)
    rw [register, dif_neg invalid, absent]

end Registration

section Replay

theorem replay_append (table : Table) (earlier later : List Request) :
    table.replay (earlier ++ later) = (table.replay earlier).replay later := by
  induction earlier generalizing table with
  | nil => rfl
  | cons request earlier induction => exact induction _

theorem find?_replay_of_absent {table : Table} {history : List Request}
    {name : String} (absent : ∀ request ∈ history, request.name ≠ name) :
    (table.replay history).find? name = table.find? name := by
  induction history generalizing table with
  | nil => rfl
  | cons request later ih =>
      have different := (absent request List.mem_cons_self).symm
      rw [replay, ih fun other member =>
        absent other (List.mem_cons_of_mem _ member)]
      exact find?_register_of_ne table request.entry different

/-- The last request for a name decides its entry in every table. -/
theorem find?_replay_of_lastRequest {table : Table} {history : List Request}
    {name : String} {entry : Entry} (spellable : Spellable name)
    (last : LastRequest history name entry) :
    (table.replay history).find? name = some entry := by
  obtain ⟨earlier, later, rfl, others⟩ := last
  rw [replay_append, replay, find?_replay_of_absent others]
  exact find?_register_self _ _ _ spellable

variable (history : List Request)

theorem replay_concat (table : Table) (request : Request) :
    table.replay (history ++ [request]) =
      ((table.replay history).register request.name request.entry).table :=
  replay_append table history [request]

/-- A table holds the last request for each name that a line can spell. -/
theorem find?_replay_eq_some_iff {name : String} {entry : Entry} :
    (empty.replay history).find? name = some entry ↔
      Spellable name ∧ LastRequest history name entry := by
  induction history using List.reverseRecOn with
  | nil =>
      constructor
      · nofun
      · rintro ⟨-, earlier, later, whole, -⟩
        exact absurd whole (by simp)
  | append_singleton history request induction =>
      -- The last request settles its own name and leaves the others alone,
      -- and it does neither if its name cannot be spelled.
      rw [replay_concat, lastRequest_concat_iff]
      by_cases same : request.name = name
      · subst same
        by_cases spellable : Spellable request.name
        · rw [find?_register_self _ _ _ spellable]
          simp [spellable]
        · rw [register_of_not_spellable _ _ spellable, induction]
          simp [spellable]
      · rw [find?_register_of_ne _ _ (Ne.symm same), induction]
        simp [same]

theorem find?_replay_eq_none_iff {name : String} :
    (empty.replay history).find? name = none ↔
      ¬Spellable name ∨ ∀ request ∈ history, request.name ≠ name := by
  rw [Option.eq_none_iff_forall_ne_some]
  constructor
  · intro absent
    by_cases spellable : Spellable name
    · right
      intro request member same
      obtain ⟨entry, last⟩ :=
        exists_lastRequest_iff.mpr ⟨request, member, same⟩
      exact absent entry
        ((find?_replay_eq_some_iff history).mpr ⟨spellable, last⟩)
    · exact .inl spellable
  · intro missing entry found
    obtain ⟨spellable, last⟩ := (find?_replay_eq_some_iff history).mp found
    obtain ⟨request, member, same⟩ := exists_lastRequest_iff.mp ⟨entry, last⟩
    rcases missing with unspellable | others
    · exact unspellable spellable
    · exact others request member same

theorem contains_replay_iff {name : String} :
    (empty.replay history).contains name = true ↔
      Spellable name ∧ ∃ request ∈ history, request.name = name := by
  rw [contains, Option.isSome_iff_ne_none, ne_eq, find?_replay_eq_none_iff]
  simp

theorem mem_names_iff (table : Table) {name : String} :
    name ∈ table.names ↔ table.contains name = true := by
  rw [contains, find?, List.lookup_isSome_iff, names, List.mem_map]
  constructor
  · rintro ⟨named, member, rfl⟩
    exact ⟨named, member, beq_self_eq_true _⟩
  · rintro ⟨named, member, same⟩
    exact ⟨named, member, (eq_of_beq same).symm⟩

theorem names_ordered (table : Table) :
    (table.names.map Text.encode).Pairwise (· < ·) := by
  rw [List.pairwise_map]
  refine table.ordered.imp_of_mem ?_
  intro left right leftMember rightMember below
  exact Spellable.encode_lt_encode
    (isName_iff_spellable.mp (table.named left leftMember))
    (isName_iff_spellable.mp (table.named right rightMember)) below

theorem length_answers (table : Table) :
    (table.answers history).length = history.length := by
  induction history generalizing table with
  | nil => rfl
  | cons request later induction => exact congrArg (· + 1) (induction _)

/-- A request is told whether the requests before it have filled its name. -/
theorem getElem?_answers (table : Table) (position : Nat) :
    (table.answers history)[position]? =
      history[position]?.map fun request =>
        (table.replay (history.take position)).contains request.name := by
  induction history generalizing table position with
  | nil => rfl
  | cons request later induction =>
      cases position with
      | zero => simp [answers, replay, overridden_register]
      | succ position => simp [answers, replay, induction]

end Replay

/-- Histories that agree on the last request for each name that a line can
spell lead to the same table. -/
theorem replay_eq_replay {history other : List Request}
    (agree : ∀ name entry, Spellable name →
      (LastRequest history name entry ↔ LastRequest other name entry)) :
    empty.replay history = empty.replay other := by
  apply eq_of_find?_eq
  intro name
  apply Option.ext
  intro entry
  rw [find?_replay_eq_some_iff, find?_replay_eq_some_iff]
  exact and_congr_right (agree name entry)

/-- A table holds what the last request for each name asked for, under the
names that a line can spell and no others; its names ascend byte by byte, each
request is told whether it took the place of an earlier one, and nothing but
the last requests plays a part. -/
theorem registration_history (history : List Request) :
    (∀ name, (empty.replay history).find? name = none ↔
      ¬Spellable name ∨ ∀ request ∈ history, request.name ≠ name) ∧
      (∀ name entry, (empty.replay history).find? name = some entry ↔
        Spellable name ∧ LastRequest history name entry) ∧
      (∀ name, ∀ c ∈ name.toList, c = '\n' ∨ 128 ≤ c.toNat →
        (empty.replay history).find? name = none) ∧
      (∀ name handler, Spellable name →
        ∃ entry, (empty.replay (history ++ [⟨name, handler, none⟩])).find?
            name = some entry ∧
          entry.handler = handler ∧ entry.descriptor = none ∧
            entry.minArguments = 0) ∧
      (empty.answers history).length = history.length ∧
      (∀ position, (empty.answers history)[position]? = some true ↔
        ∃ request, history[position]? = some request ∧
          Spellable request.name ∧
            ∃ earlier ∈ history.take position, earlier.name = request.name) ∧
      (∀ request, ¬Spellable request.name →
        empty.replay (history ++ [request]) = empty.replay history) ∧
      ((empty.replay history).names.map Text.encode).Pairwise (· < ·) ∧
      (∀ name, name ∈ (empty.replay history).names ↔
        Spellable name ∧ ∃ request ∈ history, request.name = name) ∧
      (empty.replay history).size = (empty.replay history).names.length ∧
      ((empty.replay history).isEmpty = true ↔
        (empty.replay history).names = []) ∧
      ∀ other, (∀ name entry, Spellable name →
          (LastRequest history name entry ↔ LastRequest other name entry)) →
        empty.replay history = empty.replay other := by
  refine ⟨fun name => find?_replay_eq_none_iff history,
    fun name entry => find?_replay_eq_some_iff history, ?_, ?_,
    length_answers history empty, ?_, ?_, names_ordered _, ?_,
    (List.length_map _).symm, ?_, fun other => replay_eq_replay⟩
  · intro name c member strange
    rw [find?_replay_eq_none_iff]
    left
    intro spellable
    have printable := spellable.printable c member
    rcases strange with rfl | wide
    · exact absurd printable.1 (by decide)
    · omega
  · intro name handler spellable
    rw [replay_concat]
    exact ⟨⟨handler, none⟩, find?_register_self _ _ _ spellable, rfl, rfl, rfl⟩
  · intro position
    rw [getElem?_answers]
    simp [contains_replay_iff]
  · intro request unspellable
    rw [replay_concat, register_of_not_spellable _ _ unspellable]
  · intro name
    rw [mem_names_iff, contains_replay_iff]
  · simp [isEmpty, names]

theorem registration_history_replaced :
    ¬Spellable "add\n" ∧
      (empty.replay [⟨"add", Installable.add.entry⟩]).find? "add\n" = none ∧
      empty.replay [⟨"add", Installable.add.entry⟩,
          ⟨"add\n", Installable.exit.entry⟩] =
        empty.replay [⟨"add", Installable.add.entry⟩] ∧
      (∃ entry, (empty.replay [⟨"add", Installable.add.entry⟩,
          ⟨"add", Builtin.leave.run, none⟩]).find? "add" = some entry ∧
        entry.handler = Builtin.leave.run ∧ entry.descriptor = none ∧
          entry.minArguments = 0) ∧
      empty.replay [⟨"add", Installable.add.entry⟩] =
        empty.replay [⟨"add", Installable.exit.entry⟩,
          ⟨"add", Installable.add.entry⟩] := by
  have spellable : Spellable "add" := isName_iff_spellable.mp (by decide)
  have unspellable : ¬Spellable "add\n" := by
    rw [← isName_iff_spellable]
    decide
  obtain ⟨-, -, strange, undescribed, -, -, unchanged, -, -, -, -, same⟩ :=
    registration_history [⟨"add", Installable.add.entry⟩]
  refine ⟨unspellable, strange "add\n" '\n' (by decide) (.inl rfl),
    unchanged _ unspellable, undescribed "add" _ spellable, same _ ?_⟩
  intro name entry _
  change LastRequest ([] ++ [_]) name entry ↔
    LastRequest ([_] ++ [_]) name entry
  rw [lastRequest_concat_iff, lastRequest_concat_iff]
  by_cases named : "add" = name
  · simp [named]
  · have earlier : LastRequest ([] ++ [⟨"add", Installable.exit.entry⟩]) name
        entry ↔ LastRequest [] name entry := by
      rw [lastRequest_concat_iff]
      simp [named]
    simpa [named] using earlier.symm

end Table

end LineShell.Command
