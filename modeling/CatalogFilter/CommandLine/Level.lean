/-!
# The levels of the command line

A command line is read level by level: the name of a command leads from one level to the next. A
level says which commands may follow, which options it knows besides the switches, and which
arguments it takes by their position.

## Main definitions

* `CommandLine.Level`: the levels.
* `CommandLine.Flag`, `CommandLine.Param`, `CommandLine.Place`: switches, options with a value,
  and arguments by position.
* `CommandLine.Level.next?`: where a name leads from a level.
* `CommandLine.Level.params`, `CommandLine.Level.places`: what a level takes.
-/

namespace CatalogFilter.CommandLine

/-- A level of the command line. -/
inductive Level where
  /-- The program itself. -/
  | top
  /-- The command that turns rules into a filter. -/
  | compile
  /-- The command that checks rules. -/
  | validate
  /-- The command that answers a request. -/
  | request
  /-- The command that shows what rules may contain. -/
  | vocabulary
  /-- The command for the settings. -/
  | config
  /-- The command that shows the settings. -/
  | configShow
  /-- The command that changes a setting. -/
  | configSet
  /-- The command that shows where the settings are kept. -/
  | configPath
  /-- The command that writes completion scripts. -/
  | completions
  deriving DecidableEq, Repr

/-- The flags, which every level knows. -/
inductive Flag where
  /-- Show the log. -/
  | verbose
  /-- Show errors only. -/
  | quiet
  /-- Write JSON. -/
  | json
  /-- Write without colours. -/
  | noColor
  /-- Explain the level. -/
  | help
  /-- Name the version. -/
  | version
  deriving DecidableEq, Repr

/-- The options with a value. -/
inductive Param where
  /-- The file with the rules. -/
  | file
  /-- The number of the page. -/
  | page
  /-- The number of items on a page. -/
  | limit
  deriving DecidableEq, Repr

/-- The arguments that are taken by position. -/
inductive Place where
  /-- Lines of rules, any number of them. -/
  | rules
  /-- The file with the request, which may be left out. -/
  | path
  /-- The key of a setting. -/
  | key
  /-- The value of a setting. -/
  | value
  /-- The name of a shell. -/
  | shell
  deriving DecidableEq, Repr

namespace Flag

/-- All flags. -/
def all : List Flag :=
  [.verbose, .quiet, .json, .noColor, .help, .version]

/-- The name after two dashes. -/
def long : Flag → String
  | .verbose => "verbose"
  | .quiet => "quiet"
  | .json => "json"
  | .noColor => "no-color"
  | .help => "help"
  | .version => "version"

/-- The letter after one dash. -/
def short? : Flag → Option Char
  | .verbose => some 'v'
  | .quiet => some 'q'
  | .json => none
  | .noColor => none
  | .help => some 'h'
  | .version => some 'V'

/-- The flag of a name. -/
def ofLong? (name : String) : Option Flag :=
  all.find? (·.long == name)

/-- The flag of a letter. -/
def ofShort? (c : Char) : Option Flag :=
  all.find? (·.short? == some c)

end Flag

namespace Param

/-- The name after two dashes. -/
def long : Param → String
  | .file => "file"
  | .page => "page"
  | .limit => "limit"

/-- The letter after one dash. -/
def short? : Param → Option Char
  | .file => some 'f'
  | .page => none
  | .limit => none

end Param

/-- Where a name leads. -/
inductive Next where
  /-- To the level of a command. -/
  | level (l : Level)
  /-- To the explanation of the commands named after it. -/
  | help
  deriving DecidableEq, Repr

namespace Level

/-- The names that lead to other levels, short forms included. -/
def commands : Level → List (String × Level)
  | .top =>
      [("compile", .compile), ("c", .compile), ("validate", .validate), ("v", .validate),
       ("request", .request), ("meta", .vocabulary), ("config", .config),
       ("completions", .completions)]
  | .config => [("show", .configShow), ("set", .configSet), ("path", .configPath)]
  | _ => []

/-- The level leads to others. -/
def hasCommands (l : Level) : Bool :=
  !l.commands.isEmpty

/-- The name of the command that explains the others. -/
def helpName : String := "help"

/-- Where a name leads from the level. -/
def next? (l : Level) (name : String) : Option Next :=
  match l.commands.lookup name with
  | some sub => some (.level sub)
  | none => if l.hasCommands && name == helpName then some .help else none

/-- The options with a value. -/
def params : Level → List Param
  | .compile => [.file, .page, .limit]
  | .validate => [.file]
  | _ => []

/-- The arguments by position, in order. -/
def places : Level → List Place
  | .compile => [.rules]
  | .validate => [.rules]
  | .request => [.path]
  | .configSet => [.key, .value]
  | .completions => [.shell]
  | _ => []

/-- The option of a name. -/
def paramOfLong? (l : Level) (name : String) : Option Param :=
  l.params.find? (·.long == name)

/-- The option of a letter. -/
def paramOfShort? (l : Level) (c : Char) : Option Param :=
  l.params.find? (·.short? == some c)

/-- The names of the commands on the way to the level, the program first. -/
def path : Level → List String
  | .top => ["seg"]
  | .compile => ["seg", "compile"]
  | .validate => ["seg", "validate"]
  | .request => ["seg", "request"]
  | .vocabulary => ["seg", "meta"]
  | .config => ["seg", "config"]
  | .configShow => ["seg", "config", "show"]
  | .configSet => ["seg", "config", "set"]
  | .configPath => ["seg", "config", "path"]
  | .completions => ["seg", "completions"]

end Level

end CatalogFilter.CommandLine
