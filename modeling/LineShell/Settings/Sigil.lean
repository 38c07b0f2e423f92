import LineShell.Failure
import LineShell.Text.Quoted

/-!
# Usable sigils

White space would be taken for the end of a command name, and a double quote or
a backslash could not be told from quoting.  Every other character can start a
command line.
-/

namespace LineShell.Settings

def isSigil (c : Char) : Bool :=
  !(Text.isWhiteSpace c || c = '"' || c = '\\')

/-- The failure of a character that cannot start a command line. -/
def unusableSigil (c : Char) : Failure :=
  .configuration ("Invalid prefix " ++ Text.quoteChar c ++
    ": must not be whitespace, '\"' or '\\'")

def checkSigil (c : Char) : Except Failure Unit :=
  if isSigil c then .ok () else .error (unusableSigil c)

end LineShell.Settings
