import CatalogFilter.CommandLine.Invocation
import CatalogFilter.CommandLine.Level
import CatalogFilter.Text.Layout

/-!
# Help

The explanation of each level of the command line: what it is for, how it is used, and what its
commands, arguments and options mean.

## Main definitions

* `CommandLine.Level.about`, `CommandLine.Flag.about`, `CommandLine.Param.about`,
  `CommandLine.Place.about`: what things mean.
* `CommandLine.helpText`: the explanation of a level.
* `CommandLine.versionText`: the version.
-/

namespace CatalogFilter.CommandLine

/-! ### What things mean -/

/-- What a level is for. -/
def Level.about : Level → String
  | .top => "Command-line front end for the segment rule compiler"
  | .compile => "Compile rules into a filter expression"
  | .validate => "Check rules without printing the expression"
  | .request =>
      "Evaluate a JSON request body (\x7b\"rules\": ..., \"page\": ..., \"limit\": ...\x7d)"
  | .vocabulary => "Show allowed fields, operators and example rules"
  | .config => "View and edit configuration"
  | .configShow => "Show current configuration (default)"
  | .configSet => "Set a configuration value"
  | .configPath => "Show config file path"
  | .completions => "Generate shell completions"

/-- What a flag does. -/
def Flag.about : Flag → String
  | .verbose => "Verbose output (show debug information)"
  | .quiet => "Quiet mode (errors only)"
  | .json => "Output JSON instead of tables"
  | .noColor => "Disable colors in output"
  | .help => "Print help"
  | .version => "Print version"

/-- What an option does. -/
def Param.about : Param → String
  | .file => "Read rules from a file"
  | .page => "Page number to pass through (default: from config, then 1)"
  | .limit => "Page size to pass through (default: from config, then 50)"

/-- The name of the value of an option. -/
def Param.valueName : Param → String
  | .file => "<FILE>"
  | .page => "<PAGE>"
  | .limit => "<LIMIT>"

/-- What an argument means. -/
def Place.about : Place → String
  | .rules => "Rule lines (each argument is one line; reads stdin when omitted)"
  | .path => "Path to the request body (reads stdin when omitted)"
  | .key => "Configuration key (e.g., pagination.limit)"
  | .value => "Value to set"
  | .shell =>
      "Shell to generate completions for [possible values: "
        ++ ", ".intercalate (Shell.all.map Shell.name) ++ "]"

/-- An argument as it stands in the usage line. -/
def Place.usage : Place → String
  | .rules => "[RULES]..."
  | .path => "[PATH]"
  | .key => "<KEY>"
  | .value => "<VALUE>"
  | .shell => "<SHELL>"

/-! ### The explanation of a level -/

/-- What the command that explains the others does. -/
def helpAbout : String :=
  "Print this message or the help of the given subcommand(s)"

/-- The commands of a level with their full names. -/
def Level.subcommands : Level → List (String × Level)
  | .top =>
      [("compile", .compile), ("validate", .validate), ("request", .request),
       ("meta", .vocabulary), ("config", .config), ("completions", .completions)]
  | .config => [("show", .configShow), ("set", .configSet), ("path", .configPath)]
  | _ => []

/-- The letter and the name of an option, in columns. -/
def optionNames (short : Option Char) (long : String) : String :=
  match short with
  | some c => "-" ++ c.toString ++ ", --" ++ long
  | none => "    --" ++ long

/-- The options of a level with their meanings. -/
def Level.optionRows (l : Level) : List (String × String) :=
  l.params.map (fun p => (optionNames p.short? p.long ++ " " ++ p.valueName, p.about))
    ++ Flag.all.map fun f => (optionNames f.short? f.long, f.about)

/-- The commands of a level with their meanings. -/
def Level.commandRows (l : Level) : List (String × String) :=
  if l.hasCommands then
    l.subcommands.map (fun (name, sub) => (name, sub.about)) ++ [(Level.helpName, helpAbout)]
  else []

/-- The arguments of a level with their meanings. -/
def Level.placeRows (l : Level) : List (String × String) :=
  l.places.map fun p => (p.usage, p.about)

/-- A titled list of two columns; nothing if it has no rows. -/
def helpSection (title : String) (rows : List (String × String)) : String :=
  let width := (rows.map fun row => row.1.length).foldl max 0
  let line := fun (row : String × String) =>
    "  " ++ String.ofList (Text.padRight width row.1.toList) ++ "  " ++ row.2 ++ "\n"
  if rows.isEmpty then "" else "\n" ++ title ++ ":\n" ++ String.join (rows.map line)

/-- How a level is used. -/
def Level.usage (l : Level) : String :=
  " ".intercalate (l.path ++ ["[OPTIONS]"] ++ l.places.map Place.usage
    ++ if l.hasCommands then ["[COMMAND]"] else [])

/-- The explanation of a level. Its wording and its layout stand in for those of an argument parser,
which sets the help of a program in its own way; only what things mean is as given. -/
def helpText (l : Level) : String :=
  l.about ++ "\n\nUsage: " ++ l.usage ++ "\n"
    ++ helpSection "Commands" l.commandRows
    ++ helpSection "Arguments" l.placeRows
    ++ helpSection "Options" l.optionRows

/-- The version of the program. -/
def version : String := "0.1.0"

/-- The line that names the version. -/
def versionText (l : Level) : String :=
  "-".intercalate l.path ++ " " ++ version ++ "\n"

end CatalogFilter.CommandLine
