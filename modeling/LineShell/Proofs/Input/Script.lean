import LineShell.Proofs.Argument.Writing
import LineShell.Proofs.Command.History
import LineShell.Proofs.Input.OneLine

/-!
# Scripts

A script writes calls down, one in a line, each argument in a form that
expresses it.  A session over a script runs the commands with just these
arguments, as long as none of them ends the session (`run_script`).  No input
whatever brings a command an argument that a script could not write.
-/

namespace LineShell

open Text (Bytes)

namespace Argument

/-- The form that an argument is written in: quotes, unless its last backslash
would take the closing quote for itself. -/
def formOf (value : List Char) : Form :=
  if value.getLast? = some '\\' then .plain else .quoted

theorem formOf_expresses {value : List Char}
    (expressible : ¬Inexpressible value) :
    (formOf value).Expresses value := by
  unfold formOf
  split
  · rename_i final
    constructor
    · rintro rfl
      simp at final
    · intro character member
      rw [← Bool.not_eq_true]
      intro white
      exact expressible ⟨⟨character, member, white⟩, final⟩
  · assumption

/-- The token by which an argument is written down. -/
def tokenOf (argument : String) : Token :=
  ⟨formOf argument.toList, argument.toList⟩

/-- Arguments, each with a space in front of it. -/
def written (arguments : List String) : List Char :=
  arguments.flatMap fun argument => ' ' :: (tokenOf argument).written

theorem ends_written (arguments : List String) :
    Ends (pieces (written arguments)) := by
  rw [ends_pieces_iff]
  intro character first
  cases arguments with
  | nil => simp [written] at first
  | cons argument arguments =>
      have space : ' ' = character := by simpa [written] using first
      exact space ▸ Text.isWhiteSpace_space

theorem derives_writtenArguments {arguments : List String}
    (expressible : ∀ argument ∈ arguments, ¬Inexpressible argument.toList) :
    DerivesTokens (written arguments) (arguments.map tokenOf) := by
  induction arguments with
  | nil => exact .blank (by simp [Blank, written])
  | cons argument arguments ih =>
      have expressed := formOf_expresses
        (expressible argument List.mem_cons_self)
      have spelled : Spells (tokenOf argument).written (tokenOf argument) :=
        spells_written expressed
      have later := ih fun other member =>
        expressible other (List.mem_cons_of_mem _ member)
      exact (later.spelled_append spelled
        (ends_written arguments)).blank_cons Text.isWhiteSpace_space

theorem tokenize_written {arguments : List String}
    (expressible : ∀ argument ∈ arguments, ¬Inexpressible argument.toList) :
    tokenize (String.ofList (written arguments)) = .ok arguments := by
  rw [tokenize_eq_ok_iff]
  refine ⟨arguments.map tokenOf, ?_, ?_⟩
  · rw [String.toList_ofList, tokens_eq_ok_iff]
    exact derives_writtenArguments expressible
  · simp [tokenOf, Function.comp_def]

theorem mem_escaped {character : Char} {value : List Char}
    (member : character ∈ escaped value) :
    character = '\\' ∨ character ∈ value := by
  unfold escaped at member
  obtain ⟨other, inside, found⟩ := List.mem_flatMap.mp member
  split at found
  · rename_i quote
    subst quote
    rcases List.mem_cons.mp found with backslash | quote
    · exact .inl backslash
    · rw [List.mem_singleton.mp quote]
      exact .inr inside
  · rw [List.mem_singleton.mp found]
    exact .inr inside

theorem mem_written {character : Char} {arguments : List String}
    (member : character ∈ written arguments) :
    character ∈ [' ', '"', '\\'] ∨
      ∃ argument ∈ arguments, character ∈ argument.toList := by
  obtain ⟨argument, inside, found⟩ := List.mem_flatMap.mp member
  rcases List.mem_cons.mp found with rfl | found
  · simp
  · have escapes : character = '"' ∨ character ∈ escaped argument.toList := by
      unfold tokenOf formOf at found
      split at found
      · exact .inr found
      · rcases List.mem_cons.mp found with quote | found
        · exact .inl quote
        · rcases List.mem_append.mp found with inner | quote
          · exact .inr inner
          · exact .inl (List.mem_singleton.mp quote)
    rcases escapes with rfl | escapes
    · simp
    · rcases mem_escaped escapes with rfl | self
      · simp
      · exact .inr ⟨argument, inside, self⟩

theorem newline_not_mem_written {arguments : List String}
    (unbroken : ∀ argument ∈ arguments, '\n' ∉ argument.toList) :
    '\n' ∉ written arguments := by
  intro member
  rcases mem_written member with mark | ⟨argument, inside, found⟩
  · exact absurd mark (by decide)
  · exact unbroken argument inside found

end Argument

namespace Shell

open Input
open Argument (Blank)

/-- A call that can be written down: of a command of the shell, with enough
arguments, each of which a line can hold and a form express. -/
structure Call (shell : Shell) where
  name : String
  arguments : List String
  entry : Command.Entry
  registered : shell.table.find? name = some entry
  enough : entry.minArguments ≤ arguments.length
  unbroken : ∀ argument ∈ arguments, '\n' ∉ argument.toList
  expressible : ∀ argument ∈ arguments,
    ¬Argument.Inexpressible argument.toList

namespace Call

variable {shell : Shell} (call : Call shell)

/-- The call as a line of text, without a line ending. -/
def line : String :=
  String.singleton shell.sigil ++ call.name ++
    String.ofList (Argument.written call.arguments)

def statement : Statement :=
  .call call.name call.entry.handler call.arguments

/-- What the command gives back. -/
def result : Except Failure Command.Reply :=
  call.entry.handler shell.context call.arguments

/-- How the session ends with the call, if it does. -/
def ending? : Option (Except Failure Outcome) :=
  match call.result with
  | .ok .leave => some (.ok .exitRequested)
  | .ok (.text _) | .ok .silent => none
  | .error failure =>
      match shell.policy with
      | .report => none
      | .abort => some (.error failure)

/-- Whether the session goes on after the call. -/
def goesOn : Bool :=
  call.ending?.isNone

def deeds : List Action :=
  .call call.name call.arguments ::
    (verdictOfResult shell.policy call.result).effects

theorem spellable : Command.Spellable call.name := by
  apply shell.table.spellable_of_contains
  rw [Command.Table.contains, call.registered]
  rfl

theorem composed :
    Composed shell.sigil call.line call.name
      (String.ofList (Argument.written call.arguments)) where
  whole := rfl
  unbroken := call.spellable.unbroken
  apart := by
    rw [String.toList_ofList]
    cases call.arguments with
    | nil => exact .inl rfl
    | cons argument arguments =>
        exact .inr ⟨' ', _, rfl, Text.isWhiteSpace_space⟩

theorem read_line : shell.read call.line = call.statement :=
  ofLine_eq_call_iff.mpr ⟨_, call.entry, call.composed, call.registered,
    Argument.tokenize_written call.expressible, call.enough, rfl⟩

theorem encode_line_ne_nil : Text.encode call.line ≠ [] := by
  rw [Ne, Text.encode_eq_nil_iff]
  simp [line]

theorem newline_not_mem_line
    (notWhite : Text.isWhiteSpace shell.sigil = false) :
    newline ∉ Text.encode call.line := by
  rw [newline_mem_encode_iff]
  intro member
  simp only [line, String.toList_append, String.toList_singleton,
    String.toList_ofList, List.mem_append, List.mem_singleton] at member
  rcases member with (sigil | name) | arguments
  · rw [← sigil] at notWhite
    exact absurd notWhite (by decide)
  · have unbroken := call.spellable.unbroken _ name
    exact absurd unbroken (by decide)
  · exact Argument.newline_not_mem_written call.unbroken arguments

theorem deedsOf_statement : shell.deedsOf (some call.statement) = call.deeds :=
  rfl

theorem ending?_verdictOf :
    (shell.verdictOf (some call.statement)).ending? = call.ending? := by
  change (verdictOfResult shell.policy call.result).ending? = call.ending?
  unfold ending?
  cases call.result with
  | ok reply => cases reply <;> rfl
  | error failure =>
      cases policy : shell.policy <;> simp only [verdictOfResult] <;> rfl

theorem statement?_line (notWhite : Text.isWhiteSpace shell.sigil = false) :
    shell.statement? (Text.encode call.line) = some call.statement := by
  rw [shell.statement?_eq notWhite, Text.decode?_encode, Option.map_some,
    call.read_line]

end Call

/-- What ends a line. -/
inductive LineEnding where
  | lineFeed
  | returnAndFeed
  deriving DecidableEq, Repr

namespace LineEnding

/-- What stands in front of the newline. -/
def gap : LineEnding → String
  | .lineFeed => ""
  | .returnAndFeed => "\r"

theorem isGap (ending : LineEnding) : Gap ending.gap := by
  cases ending with
  | lineFeed => exact ⟨nofun, nofun⟩
  | returnAndFeed => exact ⟨blank_carriageReturn, by decide⟩

end LineEnding

/-- Calls in lines of their own, of which the last may be unfinished. -/
structure Script (shell : Shell) where
  lines : List (Call shell × LineEnding)
  last : Option (Call shell)

/-- The calls up to the first that ends the session, which is included. -/
def performed {shell : Shell} (calls : List (Call shell)) :
    List (Call shell) :=
  calls.takeWhile Call.goesOn ++ (calls.dropWhile Call.goesOn).take 1

namespace Script

variable {shell : Shell}

def calls (script : Script shell) : List (Call shell) :=
  script.lines.map Prod.fst ++ script.last.toList

def bytes (script : Script shell) : Bytes :=
  (script.lines.flatMap fun item =>
      Text.encode (item.1.line ++ item.2.gap ++ "\n")) ++
    script.last.toList.flatMap fun call => Text.encode call.line

theorem map_statement?_bytes (script : Script shell)
    (notWhite : Text.isWhiteSpace shell.sigil = false) :
    (cutLines script.bytes).map shell.statement? =
      script.calls.map fun call => some call.statement := by
  obtain ⟨lines, last⟩ := script
  simp only [bytes, calls]
  induction lines with
  | nil =>
      cases last with
      | none => rfl
      | some call =>
          have absent := call.newline_not_mem_line notWhite
          have nonempty := call.encode_line_ne_nil
          simp only [List.flatMap_nil, List.nil_append, Option.toList_some,
            List.flatMap_singleton, List.map_nil, List.map_singleton]
          rw [cutLines_unfinished absent, if_neg nonempty, List.map_singleton,
            call.statement?_line notWhite]
  | cons item lines ih =>
      obtain ⟨call, ending⟩ := item
      have absent := ending.isGap.absent (call.newline_not_mem_line notWhite)
      simp only [List.flatMap_cons, List.map_cons, List.cons_append,
        List.append_assoc]
      rw [Text.encode_append, Text.encode_append, encode_newline,
        List.append_assoc _ [newline], List.singleton_append,
        cutLines_line absent, List.map_cons, ih,
        shell.statement?_concat_newline notWhite,
        shell.statement?_append_blank notWhite _ ending.isGap.blank,
        call.statement?_line notWhite]

end Script

theorem performed_cons {shell : Shell} (call : Call shell)
    (calls : List (Call shell)) :
    performed (call :: calls) =
      call :: if call.goesOn then performed calls else [] := by
  unfold performed
  cases goes : call.goesOn <;> simp [goes]

theorem filterMap_called?_deeds {shell : Shell} (calls : List (Call shell)) :
    (calls.flatMap Call.deeds).filterMap Action.called? =
      calls.map fun call => (call.name, call.arguments) := by
  induction calls with
  | nil => rfl
  | cons call calls ih =>
      rw [List.flatMap_cons, List.filterMap_append, ih,
        ← call.deedsOf_statement, shell.filterMap_called?_deedsOf]
      rfl

theorem sessionOver_calls {shell : Shell} (calls : List (Call shell)) :
    shell.sessionOver (calls.map fun call => some call.statement) =
      ⟨(performed calls).flatMap Call.deeds ++
          if calls.all Call.goesOn then [.flush] else [],
        (calls.findSome? Call.ending?).getD (.ok .endOfInput)⟩ := by
  induction calls with
  | nil => rfl
  | cons call calls ih =>
      have goes : call.goesOn = call.ending?.isNone := rfl
      rw [List.map_cons, sessionOver, call.ending?_verdictOf,
        call.deedsOf_statement, ih, performed_cons, List.all_cons,
        List.findSome?_cons, goes]
      cases call.ending? with
      | none => simp [Transcript.after]
      | some ending => simp

theorem deeds_script {shell : Shell}
    (notWhite : Text.isWhiteSpace shell.sigil = false)
    (script : Script shell) :
    (shell.run script.bytes).deeds =
      ⟨(performed script.calls).flatMap Call.deeds ++
          if script.calls.all Call.goesOn then [.flush] else [],
        (script.calls.findSome? Call.ending?).getD (.ok .endOfInput)⟩ := by
  rw [deeds_run, script.map_statement?_bytes notWhite, sessionOver_calls]

theorem call_of_mem_calls {shell : Shell} {bytes : Bytes} {name : String}
    {arguments : List String}
    (member : (name, arguments) ∈ (shell.run bytes).calls) :
    ∃ call : Call shell, call.name = name ∧ call.arguments = arguments := by
  rw [← Transcript.calls_deeds, deeds_run] at member
  obtain ⟨made, inside, called⟩ := shell.statement_of_mem_calls member
  obtain ⟨line, read, rfl⟩ := List.mem_map.mp inside
  rw [cutLines_eq_linesOf] at read
  unfold statement? at called
  cases decoded : textOf? line with
  | none => simp [decoded] at called
  | some text =>
      rw [decoded, Option.map_some, Option.bind_some] at called
      cases statement : shell.read text with
      | rejected rejection => simp [statement, Statement.called?] at called
      | call other handler given =>
          rw [statement, Statement.called?, Option.some.injEq,
            Prod.mk.injEq] at called
          obtain ⟨rfl, rfl⟩ := called
          obtain ⟨argumentText, entry, composed, found, split, enough, -⟩ :=
            ofLine_eq_call_iff.mp statement
          have calls : Calls shell.sigil text other given :=
            ⟨argumentText, composed, split⟩
          have unbroken := calls.oneLine (oneLine_of_textOf? read decoded)
          exact ⟨⟨other, given, entry, found, enough, unbroken,
            Argument.expressible_of_tokenize split⟩, rfl, rfl⟩

/-- A session over a script calls the commands of the script with its
arguments, one after the other, up to the first that ends the session, and
does with their results what it does with any.  Conversely, no command is ever
called with an argument that a script could not hold. -/
theorem run_script (shell : Shell)
    (usable : Settings.checkSigil shell.sigil = .ok ()) :
    (∀ script : Script shell,
      (shell.run script.bytes).calls =
          (performed script.calls).map
            (fun call => (call.name, call.arguments)) ∧
        (shell.run script.bytes).deeds =
          ⟨(performed script.calls).flatMap Call.deeds ++
              if script.calls.all Call.goesOn then [.flush] else [],
            (script.calls.findSome? Call.ending?).getD
              (.ok .endOfInput)⟩) ∧
      ∀ (bytes : Bytes) (name : String) (arguments : List String),
        (name, arguments) ∈ (shell.run bytes).calls →
          ∀ argument ∈ arguments, '\n' ∉ argument.toList ∧
            ¬Argument.Inexpressible argument.toList := by
  have notWhite := notWhite_of_checkSigil usable
  constructor
  · intro script
    have deeds := deeds_script notWhite script
    refine ⟨?_, deeds⟩
    rw [← Transcript.calls_deeds, deeds, Transcript.calls,
      List.filterMap_append, filterMap_called?_deeds]
    split <;> exact List.append_nil _
  · intro bytes name arguments member argument inside
    obtain ⟨call, -, rfl⟩ := call_of_mem_calls member
    exact ⟨call.unbroken argument inside, call.expressible argument inside⟩

/-- An argument that ends in a backslash, another with a quote and a carriage
return, and a command that leaves before the last line. -/
theorem run_script_leaving :
    let shell := ofTable
      ((Command.Table.empty.installBuiltins .all).table.installDemo).table
    Settings.checkSigil shell.sigil = .ok () ∧
      ∃ script : Script shell,
        script.bytes =
          Text.encode ("!echo \"a b\" c\\ \"\\\"q\r\"\r\n" ++
            "!quit\n!echo \"never\"") ∧
        (shell.run script.bytes).calls =
          [("echo", ["a b", "c\\", "\"q\r"]), ("quit", [])] ∧
        (shell.run script.bytes).ending = .ok .exitRequested := by
  intro shell
  have usable : Settings.checkSigil shell.sigil = .ok () := rfl
  let echo : Call shell :=
    { name := "echo"
      arguments := ["a b", "c\\", "\"q\r"]
      entry := Command.Installable.echo.entry
      registered := rfl
      enough := Nat.zero_le _
      unbroken := by decide
      expressible := by
        simp [Argument.Inexpressible]
        decide }
  let leave : Call shell :=
    { name := "quit"
      arguments := []
      entry := Command.Installable.quit.entry
      registered := rfl
      enough := Nat.zero_le _
      unbroken := nofun
      expressible := nofun }
  let never : Call shell :=
    { name := "echo"
      arguments := ["never"]
      entry := Command.Installable.echo.entry
      registered := rfl
      enough := Nat.zero_le _
      unbroken := by decide
      expressible := by simp [Argument.Inexpressible] }
  let script : Script shell :=
    ⟨[(echo, .returnAndFeed), (leave, .lineFeed)], some never⟩
  obtain ⟨calls, deeds⟩ := (shell.run_script usable).1 script
  refine ⟨usable, script, by decide +kernel, calls, ?_⟩
  rw [← Transcript.ending_deeds, deeds]
  rfl

end Shell

end LineShell
