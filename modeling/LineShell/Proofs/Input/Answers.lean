import Mathlib.Data.List.Forall2
import LineShell.Proofs.Input.Endings
import LineShell.Proofs.Input.Limits
import LineShell.Proofs.Input.OneLine

/-!
# One answer for each line

A shell with its own commands that reports failures answers every line but the
one that leaves, each with one write.  What it writes is a single line, whatever
the arguments are, unless a registered command is described; so the lines of its
output answer the lines of its input one by one (`run_answers`).
-/

namespace LineShell

open Command (Builtin BuiltinSwitches Installable Table shipped)
open Text (Bytes OneLine)

/-- A line asks for the description of a command that is registered. -/
structure Describing (switches : BuiltinSwitches) (sigil : Char)
    (line : String) : Prop where
  switched : switches.help = true
  registered : ∃ arguments, Calls sigil line "help" arguments ∧
    ∃ item ∈ shipped switches, item.name = arguments.headD "help"

namespace Input

/-- The bytes of a text with a newline behind it. -/
def lineOf (message : String) : Bytes :=
  Text.encode (message ++ "\n")

theorem linesOf_flatMap_lineOf {messages : List String}
    (each : ∀ message ∈ messages, OneLine message) :
    linesOf (messages.flatMap lineOf) = messages.map lineOf := by
  rw [← cutLines_eq_linesOf]
  induction messages with
  | nil => rfl
  | cons message messages ih =>
      have absent : newline ∉ Text.encode message :=
        newline_mem_encode_iff.not.mpr (each message List.mem_cons_self)
      have later := ih fun other member =>
        each other (List.mem_cons_of_mem _ member)
      have whole : lineOf message = Text.encode message ++ [newline] :=
        Text.encode_append message "\n"
      rw [List.flatMap_cons, List.map_cons, whole, List.append_assoc,
        List.singleton_append, cutLines_line absent, later]

end Input

namespace Shell

open Input

/-- A line is refused: it is no text, no call, or a call that fails. -/
inductive Refused (shell : Shell) (line : Bytes) : Prop where
  | undecodable :
      textOf? line = none →
      Refused shell line
  | rejected {text reason : String} :
      textOf? line = some text →
      (shell.read text).reason? = some reason →
      Refused shell line
  | failed {text : String} {failure : Failure} :
      textOf? line = some text →
      shell.executeLine text = .error failure →
      Refused shell line

/-- What a line makes a shell write, one write at a time. -/
def chunksOf (shell : Shell) (line : Bytes) : List Bytes :=
  (shell.respond line).actions.filterMap Action.chunk?

theorem chunksOf_eq (shell : Shell) (line : Bytes) :
    shell.chunksOf line = (shell.verdict line).chunk?.toList := by
  rw [← filterMap_chunk?_effects, ← filter_isEffect_respond,
    filterMap_effects fun _ => rfl]
  rfl

/-- A line is answered with a message, and nothing else is written. -/
structure AnsweredBy (switches : BuiltinSwitches) (sigil : Char)
    (line : Bytes) (message : String) : Prop where
  written :
    (ofSwitches switches sigil .report).chunksOf line = [lineOf message]
  oneLine :
    (¬∃ text, textOf? line = some text ∧ Describing switches sigil text) →
      OneLine message
  refusal :
    (ofSwitches switches sigil .report).Refused line →
      ∃ reason, message = "Error: " ++ reason

section Shipped

variable {switches : BuiltinSwitches} {sigil : Char} {policy : FailurePolicy}

theorem executeLine_ofSwitches_cases (line : String) :
    let shell := ofSwitches switches sigil policy
    (∃ reason, (shell.read line).reason? = some reason ∧
        shell.executeLine line = .ok (.text ("Error: " ++ reason))) ∨
      ∃ item ∈ shipped switches, ∃ arguments,
        (shell.read line).reason? = none ∧
          Calls sigil line item.name arguments ∧
          shell.executeLine line =
            item.command.run shell.context arguments := by
  intro shell
  rcases shell.executeLine_cases line with
    ⟨name, handler, arguments, called, ran⟩ | rejected
  · right
    obtain ⟨text, entry, composed, found, split, -, rfl⟩ :=
      ofLine_eq_call_iff.mp called
    rw [table_ofSwitches, Command.find?_installed_eq_some_iff] at found
    obtain ⟨item, member, rfl, rfl⟩ := found
    refine ⟨item, member, arguments, ?_, ⟨text, composed, split⟩, ran⟩
    rw [called]
    rfl
  · exact .inl rejected

theorem lookup_eq_none_of_not_describing {line : String}
    {item : Installable} {arguments : List String} {ownName : String}
    (member : item ∈ shipped switches)
    (calls : Calls sigil line item.name arguments)
    (other : ¬Describing switches sigil line)
    (help : item.command = .help ownName) :
    (ofSwitches switches sigil policy).context.catalogue.lookup
      (arguments.headD ownName) = none := by
  obtain ⟨rfl, switched, rfl⟩ := Command.eq_help_of_shipped member help
  change (Table.installed switches).catalogue.lookup _ = none
  rw [Table.lookup_catalogue, Option.map_eq_none_iff,
    Option.eq_none_iff_forall_ne_some]
  intro entry found
  obtain ⟨described, inside, same, -⟩ :=
    Command.find?_installed_eq_some_iff.mp found
  exact other ⟨switched, arguments, calls, described, inside, same⟩

theorem called?_of_describing {line : String}
    (describing : Describing switches sigil line) :
    ∃ arguments, ((ofSwitches switches sigil policy).read line).called? =
        some ("help", arguments) ∧
      ∃ item ∈ shipped switches, item.name = arguments.headD "help" := by
  obtain ⟨switched, arguments, ⟨text, composed, split⟩, registered⟩ :=
    describing
  have member : Installable.help ∈ shipped switches :=
    Command.mem_shipped_iff.mpr
      (.inl (Command.mem_commands_iff.mpr (.inl ⟨switched, rfl⟩)))
  have found : (Table.installed switches).find? "help" =
      some Installable.help.entry :=
    Command.find?_installed_eq_some_iff.mpr ⟨_, member, rfl, rfl⟩
  have called := ofLine_of_meaning
    (.call composed found split (Nat.zero_le _))
  refine ⟨arguments, ?_, registered⟩
  change (Statement.ofLine (Table.installed switches) sigil line).called? = _
  rw [called]
  rfl

variable {line : Bytes} {text message : String}

theorem chunksOf_of_answer {shell : Shell}
    (answered : shell.verdict line = .answer message) :
    shell.chunksOf line = [lineOf message] := by
  rw [chunksOf_eq, answered]
  rfl

theorem verdict_of_text {shell : Shell} (decoded : textOf? line = some text) :
    shell.verdict line =
      verdictOfResult shell.policy (shell.executeLine text) := by
  rw [verdict, decoded]

theorem answeredBy_of_undecodable (undecodable : textOf? line = none) :
    AnsweredBy switches sigil line "Error: invalid input" where
  written := by
    apply chunksOf_of_answer
    rw [verdict, undecodable]
  oneLine _ := by decide
  refusal _ := ⟨"invalid input", rfl⟩

section Decoded

variable (decoded : textOf? line = some text)

include decoded

theorem chunksOf_of_result
    (led : verdictOfResult .report
        ((ofSwitches switches sigil .report).executeLine text) =
      .answer message) :
    (ofSwitches switches sigil .report).chunksOf line = [lineOf message] := by
  apply chunksOf_of_answer
  rw [verdict_of_text decoded]
  exact led

theorem answeredBy_of_rejected {reason : String}
    (rejected : ((ofSwitches switches sigil .report).read text).reason? =
      some reason)
    (executed : (ofSwitches switches sigil .report).executeLine text =
      .ok (.text ("Error: " ++ reason))) :
    AnsweredBy switches sigil line ("Error: " ++ reason) where
  written := by
    apply chunksOf_of_result decoded
    rw [executed]
    rfl
  oneLine _ := by
    have reasons : ∀ reason ∈ ["invalid statement", "command not found",
        "error parsing arguments", "not enough arguments"],
        OneLine ("Error: " ++ reason) := by
      decide
    exact reasons reason (reason_mem rejected)
  refusal _ := ⟨reason, rfl⟩

theorem answeredBy_of_failed {failure : Failure}
    (oneLine : OneLine failure.message)
    (executed : (ofSwitches switches sigil .report).executeLine text =
      .error failure) :
    AnsweredBy switches sigil line ("Error: " ++ failure.message) where
  written := by
    apply chunksOf_of_result decoded
    rw [executed]
    rfl
  oneLine _ := by
    rw [Text.oneLine_append]
    exact ⟨by decide, oneLine⟩
  refusal _ := ⟨failure.message, rfl⟩

theorem answeredBy_of_executed
    (accepted : ((ofSwitches switches sigil .report).read text).reason? = none)
    (oneLine : ¬Describing switches sigil text → OneLine message)
    (executed : (ofSwitches switches sigil .report).executeLine text =
      .ok (.text message)) :
    AnsweredBy switches sigil line message where
  written := by
    apply chunksOf_of_result decoded
    rw [executed]
    rfl
  oneLine other := by
    apply oneLine
    intro describing
    exact other ⟨text, decoded, describing⟩
  refusal refused := by
    cases refused with
    | undecodable undecodable => cases undecodable.symm.trans decoded
    | rejected again rejected =>
        cases again.symm.trans decoded
        cases rejected.symm.trans accepted
    | failed again failed =>
        cases again.symm.trans decoded
        cases failed.symm.trans executed

theorem exists_answeredBy_of_text (whole : OneLine text)
    (goes : (ofSwitches switches sigil .report).goesOn line = true) :
    ∃ message, AnsweredBy switches sigil line message := by
  rcases @executeLine_ofSwitches_cases switches sigil .report text with
    ⟨reason, rejected, executed⟩ |
      ⟨item, member, arguments, accepted, calls, executed⟩
  · exact ⟨_, answeredBy_of_rejected decoded rejected executed⟩
  · have each := calls.oneLine whole
    cases result : item.command.run
        (ofSwitches switches sigil .report).context arguments with
    | error failure =>
        rw [result] at executed
        have oneLine := Builtin.oneLine_of_failure each result
        exact ⟨_, answeredBy_of_failed decoded oneLine executed⟩
    | ok reply =>
        rw [result] at executed
        cases reply with
        | silent => exact absurd result Builtin.run_ne_silent
        | leave =>
            -- This would have ended the session.
            rw [goesOn, verdict_of_text decoded, executed] at goes
            cases goes
        | text message =>
            refine ⟨message, answeredBy_of_executed decoded accepted ?_ executed⟩
            intro other
            apply Builtin.oneLine_of_run each
              (Command.oneLine_ownText member) _ result
            intro ownName help
            exact lookup_eq_none_of_not_describing member calls other help

end Decoded

theorem exists_answeredBy {bytes : Bytes} (member : line ∈ linesOf bytes)
    (goes : (ofSwitches switches sigil .report).goesOn line = true) :
    ∃ message, AnsweredBy switches sigil line message := by
  cases decoded : textOf? line with
  | none => exact ⟨_, answeredBy_of_undecodable decoded⟩
  | some text =>
      have whole := oneLine_of_textOf? member decoded
      exact exists_answeredBy_of_text decoded whole goes

/-- The session goes on after every line but a call that leaves. -/
theorem goesOn_ofSwitches_eq_false_iff :
    (ofSwitches switches sigil .report).goesOn line = false ↔
      ∃ text, textOf? line = some text ∧ Leaving switches sigil text := by
  rw [← @stops_on_request_iff switches sigil .report, goesOn_eq_isNone]
  cases stop : ((ofSwitches switches sigil .report).verdict line).ending? with
  | none => simp
  | some ending =>
      cases ending with
      | error failure =>
          -- Only a shell that is to stop at failures does.
          have abort := (stops_with_error_iff.mp stop).1
          cases abort
      | ok outcome =>
          cases outcome with
          | endOfInput => exact absurd stop (ending?_ne_endOfInput _ line)
          | exitRequested => simp

end Shipped

section Sessions

theorem processed_eq_append (shell : Shell) (lines : List Bytes) :
    ∃ last : Option Bytes,
      shell.processed lines =
          lines.takeWhile shell.goesOn ++ last.toList ∧
        ∀ line ∈ last, shell.goesOn line = false := by
  refine ⟨(lines.dropWhile shell.goesOn).head?, ?_, ?_⟩
  · rw [processed, List.take_one]
  · intro line first
    have stopped := List.head?_dropWhile_not shell.goesOn lines
    rw [Option.mem_def.mp first] at stopped
    simpa using stopped

theorem chunksOf_of_stopped {shell : Shell} {line : Bytes}
    (stopped : shell.goesOn line = false) : shell.chunksOf line = [] := by
  rw [goesOn_eq_isNone] at stopped
  rw [chunksOf_eq]
  cases led : shell.verdict line with
  | answer | silence =>
      rw [led] at stopped
      cases stopped
  | stop ending => rfl

theorem chunks_run_eq_flatMap (shell : Shell) (bytes : Bytes) :
    (shell.run bytes).actions.filterMap Action.chunk? =
      (shell.processed (linesOf bytes)).flatMap shell.chunksOf := by
  have each : shell.chunksOf = fun line => (shell.verdict line).chunk?.toList :=
    funext shell.chunksOf_eq
  rw [chunks_run, answers, List.filterMap_eq_flatMap_toList, each]

variable {switches : BuiltinSwitches} {sigil : Char} {lines : List Bytes}
  {messages : List String}

theorem exists_messages
    (each : ∀ line ∈ lines, ∃ message,
      AnsweredBy switches sigil line message) :
    ∃ messages, List.Forall₂ (AnsweredBy switches sigil) lines messages := by
  induction lines with
  | nil => exact ⟨[], .nil⟩
  | cons line lines ih =>
      obtain ⟨message, answered⟩ := each line List.mem_cons_self
      obtain ⟨messages, later⟩ := ih fun other member =>
        each other (List.mem_cons_of_mem _ member)
      exact ⟨message :: messages, .cons answered later⟩

section Answered

variable (answered : List.Forall₂ (AnsweredBy switches sigil) lines messages)

include answered

theorem flatMap_chunksOf :
    lines.flatMap (ofSwitches switches sigil .report).chunksOf =
      messages.map lineOf := by
  induction answered with
  | nil => rfl
  | cons first later ih =>
      rw [List.flatMap_cons, first.written, ih]
      rfl

theorem oneLine_of_answered
    (other : ∀ line ∈ lines, ¬∃ text, textOf? line = some text ∧
      Describing switches sigil text) :
    ∀ message ∈ messages, OneLine message := by
  induction answered with
  | nil => nofun
  | cons first later ih =>
      rw [List.forall_mem_cons] at other ⊢
      exact ⟨first.oneLine other.1, ih other.2⟩

end Answered

/-- A session that reports failures answers each line that it processes with one
write of one line, or more if a registered command is described, and refusals
say so; the line that leaves, which is the last one, is not answered.  If no
command is described, the lines of the output are the answers to the lines of
the input, in order. -/
theorem run_answers (switches : BuiltinSwitches) (sigil : Char)
    (bytes : Bytes) :
    let shell := ofSwitches switches sigil .report
    ∃ (lines : List Bytes) (exit : Option Bytes) (messages : List String),
      shell.processed (linesOf bytes) = lines ++ exit.toList ∧
        (∀ line ∈ exit, shell.chunksOf line = [] ∧
          ∃ text, textOf? line = some text ∧ Leaving switches sigil text) ∧
        List.Forall₂ (AnsweredBy switches sigil) lines messages ∧
        (shell.run bytes).actions.filterMap Action.chunk? =
          messages.map lineOf ∧
        ((∀ line ∈ lines, ¬∃ text, textOf? line = some text ∧
            Describing switches sigil text) →
          linesOf (shell.run bytes).output = messages.map lineOf ∧
            (linesOf (shell.run bytes).output).length = lines.length) := by
  intro shell
  obtain ⟨exit, processed, stopped⟩ :=
    shell.processed_eq_append (linesOf bytes)
  have each : ∀ line ∈ (linesOf bytes).takeWhile shell.goesOn,
      ∃ message, AnsweredBy switches sigil line message := by
    intro line member
    have inside := (List.takeWhile_prefix shell.goesOn).subset member
    exact exists_answeredBy inside (List.mem_takeWhile_imp member)
  obtain ⟨messages, answered⟩ := exists_messages each
  have silent : exit.toList.flatMap shell.chunksOf = [] := by
    rw [List.flatMap_eq_nil_iff]
    intro line member
    exact chunksOf_of_stopped (stopped line (Option.mem_toList.mp member))
  have chunks : (shell.run bytes).actions.filterMap Action.chunk? =
      messages.map lineOf := by
    rw [chunks_run_eq_flatMap, processed, List.flatMap_append, silent,
      List.append_nil, flatMap_chunksOf answered]
  refine ⟨_, exit, messages, processed, ?_, answered, chunks, ?_⟩
  · intro line last
    exact ⟨chunksOf_of_stopped (stopped line last),
      goesOn_ofSwitches_eq_false_iff.mp (stopped line last)⟩
  · intro other
    have each := oneLine_of_answered answered other
    have cut : linesOf (shell.run bytes).output = messages.map lineOf := by
      rw [Transcript.output, flatMap_written, chunks, ← List.flatMap_def,
        linesOf_flatMap_lineOf each]
    refine ⟨cut, ?_⟩
    rw [cut, List.length_map, answered.length_eq]

/-- A quote as a delimiter, help about a name that no command has and a line
that is not text are answered in one line each. -/
theorem run_answers_quotedDelimiter :
    let shell := ofSwitches .all '!' .report
    let bytes := [0xC3, newline] ++ Text.encode ("echo\n!add 1 x\r\n" ++
      "!join \"\\\"\" a b\n!help nothing\n!quit\n!echo")
    ∃ (lines : List Bytes) (messages : List String),
      (∀ line ∈ lines, ¬∃ text, textOf? line = some text ∧
        Describing .all '!' text) ∧
        List.Forall₂ (AnsweredBy .all '!') lines messages ∧
        linesOf (shell.run bytes).output = messages.map lineOf ∧
        (linesOf (shell.run bytes).output).length = lines.length ∧
        linesOf (shell.run bytes).output =
          ["Error: invalid input", "Error: invalid statement",
            "Error: 'x' is not an integer", "a\"b",
            "Can't find a command named \"nothing\""].map lineOf := by
  intro shell bytes
  have unregistered : ∀ line ∈ shell.processed (linesOf bytes),
      ∀ called ∈ shell.calledBy? line, called.1 = "help" →
        ∀ item ∈ shipped .all, item.name ≠ called.2.headD "help" := by
    decide +kernel
  obtain ⟨lines, exit, messages, processed, -, answered, -, cut⟩ :=
    run_answers .all '!' bytes
  have other : ∀ line ∈ lines, ¬∃ text, textOf? line = some text ∧
      Describing .all '!' text := by
    rintro line member ⟨text, decoded, describing⟩
    have inside : line ∈ shell.processed (linesOf bytes) := by
      rw [processed]
      exact List.mem_append_left _ member
    obtain ⟨arguments, called, item, registered, same⟩ :=
      @called?_of_describing .all '!' .report text describing
    have ran : shell.calledBy? line = some ("help", arguments) := by
      rw [calledBy?, decoded]
      exact called
    exact unregistered line inside _ ran rfl item registered same
  exact ⟨lines, messages, other, answered, (cut other).1, (cut other).2,
    by decide +kernel⟩

end Sessions

end Shell

end LineShell
