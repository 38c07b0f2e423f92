import LineShell.Proofs.Command.Installed
import LineShell.Proofs.Command.Sums
import LineShell.Proofs.Input.Rounds
import LineShell.Proofs.Statement.Language

/-!
# How a session with the shell's own commands ends

A session ends before its input at the first line that stops it: a call that
leaves, or under one of the policies a call that fails.  Of the commands that
come with the shell two leave and one can fail, so the lines that stop a session
can be told without running it (`FailingSum`, `Leaving`), and so can the way in
which it ends.
-/

namespace LineShell

open Command (BuiltinSwitches FirstSumFault Installable Table shipped)
open Text (Bytes)

/-- A line asks for a sum that fails. -/
def FailingSum (sigil : Char) (line : String) (failure : Failure) : Prop :=
  ∃ arguments position, Calls sigil line "add" arguments ∧
    2 ≤ arguments.length ∧ FirstSumFault 0 arguments position failure

/-- A line calls a command that leaves, and that is switched on. -/
inductive Leaving (switches : BuiltinSwitches) (sigil : Char) (line : String) :
    Prop where
  | exit {arguments : List String} :
      switches.exit = true →
      Calls sigil line "exit" arguments →
      Leaving switches sigil line
  | quit {arguments : List String} :
      switches.quit = true →
      Calls sigil line "quit" arguments →
      Leaving switches sigil line

theorem FailingSum.kind {sigil : Char} {line : String} {failure : Failure}
    (failing : FailingSum sigil line failure) : failure.kind = .command := by
  obtain ⟨_, _, -, -, ⟨fault, -⟩⟩ := failing
  cases fault with
  | notAnInteger | overflow => rfl

theorem FailingSum.ne_delimiterMissing {sigil : Char} {line : String}
    {failure : Failure} (failing : FailingSum sigil line failure) :
    failure ≠ Command.delimiterMissing := by
  obtain ⟨_, _, -, -, ⟨fault, -⟩⟩ := failing
  cases fault with
  | notAnInteger =>
      intro same
      have messages := congrArg (fun failure => failure.message.toList) same
      simp [Failure.command, Command.delimiterMissing] at messages
  | overflow => decide

namespace Shell

open Input

section Endings

variable (shell : Shell)

theorem stops_iff {line : Bytes} {ending : Except Failure Outcome} :
    (shell.verdict line).ending? = some ending ↔
      ∃ text, textOf? line = some text ∧
        (shell.executeLine text = .ok .leave ∧ ending = .ok .exitRequested ∨
          ∃ failure, shell.executeLine text = .error failure ∧
            shell.policy = .abort ∧ ending = .error failure) := by
  unfold verdict
  cases decoded : textOf? line with
  | none => simp [Verdict.ending?]
  | some text =>
      cases result : shell.executeLine text with
      | ok reply =>
          cases reply <;>
            simp [verdictOfResult, Verdict.ending?, result, eq_comm]
      | error failure =>
          cases policy : shell.policy <;>
            simp [verdictOfResult, Verdict.ending?, result, eq_comm]

/-- A session ends before its input exactly if one of the lines that it
processes stops it in that way. -/
theorem ending_eq_iff {lines : List Bytes} {ending : Except Failure Outcome}
    (early : ending ≠ .ok .endOfInput) :
    shell.ending lines = ending ↔
      ∃ line ∈ shell.processed lines,
        (shell.verdict line).ending? = some ending := by
  induction lines with
  | nil => simpa [processed, Shell.ending] using early.symm
  | cons line rest ih =>
      rw [ending_cons, processed_cons, goesOn_eq_isNone]
      cases stop : (shell.verdict line).ending? with
      | none => simpa [stop] using ih
      | some other => simp [stop]

/-- A session fails exactly if a line that fails it comes before every line
that leaves. -/
theorem ending_eq_error_iff {lines : List Bytes} :
    (∃ failure, shell.ending lines = .error failure) ↔
      ∃ before line later failure, lines = before ++ line :: later ∧
        (shell.verdict line).ending? = some (.error failure) ∧
        ∀ other ∈ before,
          (shell.verdict other).ending? ≠ some (.ok .exitRequested) := by
  constructor
  · rintro ⟨failure, failed⟩
    unfold ending at failed
    cases stop : lines.findSome? fun line => (shell.verdict line).ending? with
    | none =>
        rw [stop] at failed
        cases failed
    | some ending =>
        rw [stop] at failed
        cases failed
        obtain ⟨before, line, later, whole, stopped, goOn⟩ :=
          List.findSome?_eq_some_iff.mp stop
        refine ⟨before, line, later, failure, whole, stopped, ?_⟩
        intro other member
        rw [goOn other member]
        nofun
  · rintro ⟨before, line, later, failure, rfl, stopped, noneLeaves⟩
    induction before with
    | nil =>
        rw [List.nil_append, ending_cons, stopped]
        exact ⟨failure, rfl⟩
    | cons first before ih =>
        have rest := ih fun other member =>
          noneLeaves other (List.mem_cons_of_mem _ member)
        rw [List.cons_append, ending_cons]
        cases stop : (shell.verdict first).ending? with
        | none => exact rest
        | some ending =>
            cases ending with
            | error failure => exact ⟨failure, rfl⟩
            | ok outcome =>
                cases outcome with
                | endOfInput =>
                    exact absurd stop (shell.ending?_ne_endOfInput first)
                | exitRequested =>
                    exact absurd stop (noneLeaves first List.mem_cons_self)

end Endings

/-- A shell with the commands that come with it. -/
def ofSwitches (switches : BuiltinSwitches) (sigil : Char)
    (policy : FailurePolicy) : Shell :=
  ⟨Table.installed switches, sigil, policy⟩

section Shipped

variable {switches : BuiltinSwitches} {sigil : Char} {policy : FailurePolicy}

@[simp]
theorem table_ofSwitches :
    (ofSwitches switches sigil policy).table = Table.installed switches :=
  rfl

theorem executeLine_ofSwitches_eq_iff {line : String}
    {result : Except Failure Command.Reply}
    (noText : ∀ message, result ≠ .ok (.text message)) :
    (ofSwitches switches sigil policy).executeLine line = result ↔
      ∃ item ∈ shipped switches, ∃ arguments,
        Calls sigil line item.name arguments ∧
          item.descriptor.minArguments ≤ arguments.length ∧
          item.command.run (ofSwitches switches sigil policy).context
            arguments = result := by
  simp only [executeLine_eq_iff noText, table_ofSwitches,
    Command.find?_installed_eq_some_iff]
  constructor
  · rintro ⟨-, -, arguments, calls, ⟨item, member, rfl, rfl⟩, enough, ran⟩
    exact ⟨item, member, arguments, calls, enough, ran⟩
  · rintro ⟨item, member, arguments, calls, enough, ran⟩
    exact ⟨item.name, item.entry, arguments, calls, ⟨item, member, rfl, rfl⟩,
      enough, ran⟩

theorem executeLine_eq_error_iff {line : String} {failure : Failure} :
    (ofSwitches switches sigil policy).executeLine line = .error failure ↔
      FailingSum sigil line failure := by
  rw [executeLine_ofSwitches_eq_iff (by simp)]
  constructor
  · rintro ⟨item, member, arguments, calls, enough, failed⟩
    obtain ⟨rfl, sum⟩ :=
      (Command.run_shipped_eq_error_iff member enough).mp failed
    obtain ⟨position, first⟩ := Command.addArguments_eq_error_iff.mp sum
    exact ⟨arguments, position, calls, enough, first⟩
  · rintro ⟨arguments, position, calls, enough, first⟩
    have member : Installable.add ∈ shipped switches :=
      Command.mem_shipped_iff.mpr (.inr (by decide))
    refine ⟨.add, member, arguments, calls, enough, ?_⟩
    rw [Command.run_shipped_eq_error_iff member enough]
    exact ⟨rfl, Command.addArguments_eq_error_iff.mpr ⟨position, first⟩⟩

theorem executeLine_eq_leave_iff {line : String} :
    (ofSwitches switches sigil policy).executeLine line = .ok .leave ↔
      Leaving switches sigil line := by
  rw [executeLine_ofSwitches_eq_iff (by simp)]
  constructor
  · rintro ⟨item, member, arguments, calls, -, left⟩
    rcases (Command.run_shipped_eq_leave_iff member).mp left with rfl | rfl
    · exact .exit (Command.exit_mem_shipped_iff.mp member) calls
    · exact .quit (Command.quit_mem_shipped_iff.mp member) calls
  · intro leaving
    cases leaving with
    | exit switched calls =>
        exact ⟨.exit, Command.exit_mem_shipped_iff.mpr switched, _, calls,
          Nat.zero_le _, rfl⟩
    | quit switched calls =>
        exact ⟨.quit, Command.quit_mem_shipped_iff.mpr switched, _, calls,
          Nat.zero_le _, rfl⟩

theorem stops_with_error_iff {line : Bytes} {failure : Failure} :
    ((ofSwitches switches sigil policy).verdict line).ending? =
        some (.error failure) ↔
      policy = .abort ∧
        ∃ text, textOf? line = some text ∧ FailingSum sigil text failure := by
  rw [stops_iff]
  constructor
  · rintro ⟨text, decoded, ⟨-, other⟩ | ⟨_, failed, abort, same⟩⟩
    · cases other
    · cases same
      exact ⟨abort, text, decoded, executeLine_eq_error_iff.mp failed⟩
  · rintro ⟨rfl, text, decoded, failing⟩
    exact ⟨text, decoded,
      .inr ⟨failure, executeLine_eq_error_iff.mpr failing, rfl, rfl⟩⟩

theorem stops_on_request_iff {line : Bytes} :
    ((ofSwitches switches sigil policy).verdict line).ending? =
        some (.ok .exitRequested) ↔
      ∃ text, textOf? line = some text ∧ Leaving switches sigil text := by
  rw [stops_iff]
  constructor
  · rintro ⟨text, decoded, ⟨left, -⟩ | ⟨_, -, -, other⟩⟩
    · exact ⟨text, decoded, executeLine_eq_leave_iff.mp left⟩
    · cases other
  · rintro ⟨text, decoded, leaving⟩
    exact ⟨text, decoded, .inl ⟨executeLine_eq_leave_iff.mpr leaving, rfl⟩⟩

variable {bytes : Bytes}

/-- A session fails exactly if it is to stop at failures and a sum that fails
is asked for before any line leaves. -/
theorem ofSwitches_fails_iff :
    (∃ failure, ((ofSwitches switches sigil policy).run bytes).ending =
        .error failure) ↔
      policy = .abort ∧
        ∃ before line later, linesOf bytes = before ++ line :: later ∧
          (∃ text failure, textOf? line = some text ∧
            FailingSum sigil text failure) ∧
          ∀ other ∈ before, ¬∃ text, textOf? other = some text ∧
            Leaving switches sigil text := by
  simp only [run_ending, ending_eq_error_iff, stops_with_error_iff, ne_eq,
    stops_on_request_iff]
  constructor
  · rintro ⟨before, line, later, failure, whole, ⟨abort, text, decoded,
      failing⟩, noneLeaves⟩
    exact ⟨abort, before, line, later, whole,
      ⟨text, failure, decoded, failing⟩, noneLeaves⟩
  · rintro ⟨abort, before, line, later, whole, ⟨text, failure, decoded,
      failing⟩, noneLeaves⟩
    exact ⟨before, line, later, failure, whole, ⟨abort, text, decoded, failing⟩,
      noneLeaves⟩

theorem ofSwitches_leaves_iff :
    ((ofSwitches switches sigil policy).run bytes).ending =
        .ok .exitRequested ↔
      ∃ line ∈ (ofSwitches switches sigil policy).processed (linesOf bytes),
        ∃ text, textOf? line = some text ∧ Leaving switches sigil text := by
  rw [run_ending, ending_eq_iff _ (by decide)]
  simp only [stops_on_request_iff]

end Shipped

end Shell

end LineShell
