/-!
# The environment

Variables that the program is started with, and the places that follow from
them: where settings are looked for and where a log goes that is given no
path.
-/

namespace LineShell

abbrev Environment := List (String × String)

namespace Environment

def value? (environment : Environment) (name : String) : Option String :=
  environment.lookup name

/-- Puts a name below a directory, with one slash between them. -/
def below (directory name : String) : String :=
  if directory.isEmpty || directory.toList.getLast? == some '/' then
    directory ++ name
  else
    directory ++ "/" ++ name

def isAbsolute (path : String) : Bool :=
  path.toList.head? == some '/'

/-- The home directory.  Without a usable variable it is that of the
superuser's account. -/
def home (environment : Environment) : String :=
  match environment.value? "HOME" with
  | some path => if path.isEmpty then "/root" else path
  | none => "/root"

/-- A base directory: what a variable says if that is an absolute path, and
otherwise a place below the home directory. -/
def baseDirectory (environment : Environment) (name : String)
    (otherwise : List String) : String :=
  match (environment.value? name).filter isAbsolute with
  | some path => path
  | none => otherwise.foldl below environment.home

def settingsPath (environment : Environment) : String :=
  ["linecmd", "config.toml"].foldl below
    (environment.baseDirectory "XDG_CONFIG_HOME" [".config"])

def logPath (environment : Environment) : String :=
  ["linecmd", "linecmd.log"].foldl below
    (environment.baseDirectory "XDG_STATE_HOME" [".local", "state"])

end Environment

end LineShell
