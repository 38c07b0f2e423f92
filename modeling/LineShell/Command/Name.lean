/-!
# Command names

A command can only be called by a name that the line grammar reads in one
piece, so names are made of ASCII letters, digits and underscores.
-/

namespace LineShell.Command

def isNameChar (c : Char) : Bool :=
  c.isAlphanum || c = '_'

def isName (name : String) : Bool :=
  !name.toList.isEmpty && name.toList.all isNameChar

end LineShell.Command
