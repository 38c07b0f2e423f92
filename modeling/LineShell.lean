import LineShell.Text.Utf8
import LineShell.Text.Quoted
import LineShell.Failure
import LineShell.Argument.Tokens
import LineShell.Command.Installation
import LineShell.Summary
import LineShell.Input.Session
import LineShell.Settings.Sigil
import LineShell.Toml.Tree
import LineShell.CommandLine.Help
import LineShell.Files.Path
import LineShell.Files.Tree
import LineShell.Program.Machine
import LineShell.Log.Stamp
import LineShell.Main
import LineShell.Proofs.Argument.Writing
import LineShell.Proofs.Argument.Composition
import LineShell.Proofs.Argument.Parity
import LineShell.Proofs.Input.Reference
import LineShell.Proofs.Statement.Language
import LineShell.Proofs.Statement.Joining
import LineShell.Proofs.Statement.Registered
import LineShell.Proofs.Command.Accounting
import LineShell.Proofs.Command.Addition
import LineShell.Proofs.Input.Limits
import LineShell.Proofs.Input.Interruption
import LineShell.Proofs.Text.WellFormed
import LineShell.Proofs.Input.Script
import LineShell.Proofs.Input.Policies
import LineShell.Proofs.Input.Decoding
import LineShell.Proofs.Input.Continuation
import LineShell.Proofs.Input.Flushing
import LineShell.Proofs.Input.Footprint
import LineShell.Proofs.Input.Reports
import LineShell.Proofs.Input.Renaming
import LineShell.Proofs.Input.Answers
import LineShell.Proofs.Program.Logging
import LineShell.Proofs.Program.Gate
