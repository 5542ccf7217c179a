import CatalogFilter.Settings.Read

/-!
# Where the settings are kept

The settings are kept in one file. Variables of the environment say where it is.

## Main definitions

* `Environment`: the variables.
* `Settings.location`: the path of the file.
* `Settings.load`: the settings as they are on the disk.
* `Settings.prepare`, `Settings.store`: what makes the directory, and then the file.
-/

namespace CatalogFilter

/-- The variables of the environment, and what the system knows about the user. -/
structure Environment where
  /-- The value of a variable. -/
  lookup : String → Option String
  /-- The home directory that the system has for the user. -/
  accountHome : Option String := none

/-- The home directory: the variable, unless it is unset or empty, else what the system has. -/
def Environment.home? (env : Environment) : Option String :=
  match env.lookup "HOME" with
  | some home => if home.isEmpty then env.accountHome else some home
  | none => env.accountHome

namespace Settings

/-- The path of the file: a path of its own, or a fixed one below a directory for settings or
below the home directory. -/
def location (env : Environment) : Except Error String :=
  match env.lookup "SEG_CONFIG", env.lookup "XDG_CONFIG_HOME", env.home? with
  | some path, _, _ => .ok path
  | none, some base, _ => .ok (Disk.join (Disk.join base "seg") "config.toml")
  | none, none, some home =>
      .ok (Disk.join (Disk.join (Disk.join home ".config") "seg") "config.toml")
  | none, none, none => .error .noLocation

/-- The settings of a text. -/
def parse (content : String) : Except Error Settings :=
  match ofToml? content with
  | some s => .ok s
  | none => .error (.unparsable "not a table of settings")

/-- The text of the settings as it is on the disk; nothing if there is no file. -/
def content? (d : Disk) (path : String) : Except Error (Option String) :=
  if d.isPresent path then
    match d.readText path with
    | .ok content => .ok (some content)
    | .error e => .error (.unreadable e)
  else .ok none

/-- The settings on the disk. Without a file none of them is set. -/
def load (d : Disk) (path : String) : Except Error Settings := do
  match ← content? d path with
  | some content => parse content
  | none => return {}

/-- An attempt to make the directory of a file. -/
def prepare (d : Disk) (path : String) : Disk.Attempt :=
  match Disk.parent? path with
  | some around => d.makeDirectories around
  | none => ⟨d, none⟩

/-- The disk with the settings written to their file, whose directory is there. -/
def store (d : Disk) (path : String) (s : Settings) : Except Error Disk :=
  match d.write path s.toToml with
  | .ok d => .ok d
  | .error e => .error (.unwritable e)

end Settings

end CatalogFilter
