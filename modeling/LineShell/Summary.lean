import LineShell.Shell
import LineShell.Text.Quoted

/-!
# Summaries

One-line texts that show what a value holds, for whoever looks into a shell.
Handlers cannot be shown; a summary that leaves one out ends in two dots.
-/

namespace LineShell

def quotedList (texts : List String) : String :=
  "[" ++ ", ".intercalate (texts.map Text.quoteText) ++ "]"

namespace Command

def Descriptor.summary (descriptor : Descriptor) : String :=
  "CommandDescriptor \x7b description: " ++
    Text.quoteText descriptor.description ++ ", min_args: " ++
    toString descriptor.minArguments ++ " \x7d"

def optionSummary {α : Type} (summarise : α → String) : Option α → String
  | none => "None"
  | some value => "Some(" ++ summarise value ++ ")"

def Entry.summary (entry : Entry) : String :=
  "RegisteredCommand \x7b descriptor: " ++
    optionSummary Descriptor.summary entry.descriptor ++ ", .. \x7d"

def Table.summary (table : Table) : String :=
  "CommandRegistry \x7b names: " ++ quotedList table.names ++ " \x7d"

end Command

def Statement.summary : Statement → String
  | .call name _ arguments =>
      "Call \x7b name: " ++ Text.quoteText name ++ ", args: " ++
        quotedList arguments ++ ", .. \x7d"
  | .rejected rejection =>
      "Invalid \x7b reason: " ++ Text.quoteText rejection.reason ++ " \x7d"

def Shell.summary (shell : Shell) : String :=
  "CommandProcessor \x7b registry: " ++ shell.table.summary ++ ", prefix: " ++
    Text.quoteChar shell.sigil ++ ", error_policy: " ++ shell.policy.name ++
    " \x7d"

end LineShell
