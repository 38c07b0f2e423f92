/-!
# TOML values

The values of a document, as far as a program that reads settings can tell them
apart: of floating-point numbers and of dates only their presence is kept.
-/

namespace LineShell.Toml

/-- A value of a TOML document. -/
inductive Value where
  | text (content : String)
  | integer (number : Int)
  | float
  | boolean (truth : Bool)
  | dateTime
  | array (items : List Value)
  | table (entries : List (String × Value))
  deriving Repr

/-- One line of a document that says something. -/
inductive Expression where
  /-- A key, the table names that a dotted key has before it, and a value. -/
  | keyValue (path : List String) (key : String) (value : Value)
  /-- The header of a table: the tables around it and its name. -/
  | tableHeader (path : List String) (name : String)
  /-- The header of an element of an array of tables. -/
  | elementHeader (path : List String) (name : String)
  deriving Repr

end LineShell.Toml
