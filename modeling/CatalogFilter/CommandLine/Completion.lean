import CatalogFilter.CommandLine.Help

/-!
# Completion scripts

Scripts that let a shell complete the commands and options of the program.

## Main definitions

* `CommandLine.completionScript`: the script for a shell.
-/

namespace CatalogFilter.CommandLine

/-- The levels that are reached by one command. -/
def commandLevels : List (String × Level) :=
  Level.top.subcommands

/-- The options of a level as they are typed. -/
def Level.optionWords (l : Level) : List String :=
  let words := fun (short : Option Char) (long : String) =>
    (match short with
      | some c => ["-" ++ c.toString]
      | none => []) ++ ["--" ++ long]
  l.params.flatMap (fun p => words p.short? p.long)
    ++ Flag.all.flatMap fun f => words f.short? f.long

/-- The words that may follow the name of a level. -/
def Level.words (l : Level) : List String :=
  l.optionWords ++ l.commandRows.map (·.1)
    ++ if l = .completions then Shell.all.map Shell.name else []

/-- The words with blanks between them. -/
def spaced (words : List String) : String :=
  " ".intercalate words

/-- The script for `bash`. -/
def bashScript : String :=
  let branch := fun (row : String × Level) =>
    "        " ++ row.1 ++ ") opts=\"" ++ spaced row.2.words ++ "\" ;;\n"
  "_seg() \x7b\n"
    ++ "    local cur opts\n"
    ++ "    cur=\"$\x7bCOMP_WORDS[COMP_CWORD]\x7d\"\n"
    ++ "    case \"$\x7bCOMP_WORDS[1]\x7d\" in\n"
    ++ String.join (commandLevels.map branch)
    ++ "        *) opts=\"" ++ spaced Level.top.words ++ "\" ;;\n"
    ++ "    esac\n"
    ++ "    COMPREPLY=( $(compgen -W \"$\x7bopts\x7d\" -- \"$\x7bcur\x7d\") )\n"
    ++ "\x7d\n\n"
    ++ "complete -F _seg -o nosort -o bashdefault -o default seg\n"

/-- A text between single quotes. -/
def singleQuoted (s : String) : String :=
  "'" ++ s.replace "'" "" ++ "'"

/-- The script for `zsh`. -/
def zshScript : String :=
  let row := fun (row : String × String) =>
    "        " ++ singleQuoted (row.1 ++ ":" ++ row.2) ++ "\n"
  let branch := fun (row : String × Level) =>
    "        " ++ row.1 ++ ") compadd -- " ++ spaced row.2.words ++ " ;;\n"
  "#compdef seg\n\n"
    ++ "_seg() \x7b\n"
    ++ "    local -a commands\n"
    ++ "    commands=(\n"
    ++ String.join (Level.top.commandRows.map row)
    ++ "    )\n"
    ++ "    if (( CURRENT == 2 )); then\n"
    ++ "        _describe -t commands 'seg commands' commands\n"
    ++ "        compadd -- " ++ spaced Level.top.optionWords ++ "\n"
    ++ "        return\n"
    ++ "    fi\n"
    ++ "    case \"$words[2]\" in\n"
    ++ String.join (commandLevels.map branch)
    ++ "    esac\n"
    ++ "\x7d\n\n"
    ++ "if [ \"$funcstack[1]\" = \"_seg\" ]; then\n"
    ++ "    _seg \"$@\"\n"
    ++ "else\n"
    ++ "    compdef _seg seg\n"
    ++ "fi\n"

/-- The lines for `fish` that complete the options of a level under a condition. -/
def fishOptions (condition : String) (l : Level) : String :=
  let line := fun (short : Option Char) (long : String) (tail : String) (about : String) =>
    let letter := match short with
      | some c => " -s " ++ c.toString
      | none => ""
    "complete -c seg -n \"" ++ condition ++ "\"" ++ letter ++ " -l " ++ long ++ tail ++ " -d "
      ++ singleQuoted about ++ "\n"
  String.join (l.params.map fun p => line p.short? p.long " -r" p.about)
    ++ String.join (Flag.all.map fun f => line f.short? f.long "" f.about)

/-- The script for `fish`. -/
def fishScript : String :=
  let command := fun (row : String × String) =>
    "complete -c seg -n \"__fish_use_subcommand\" -f -a \"" ++ row.1 ++ "\" -d "
      ++ singleQuoted row.2 ++ "\n"
  let options := fun (row : String × Level) =>
    fishOptions ("__fish_seen_subcommand_from " ++ row.1) row.2
  fishOptions "__fish_use_subcommand" .top
    ++ String.join (Level.top.commandRows.map command)
    ++ String.join (commandLevels.map options)

/-- The script for `powershell`. -/
def powershellScript : String :=
  let row := fun (words : String × Level) =>
    "        " ++ singleQuoted words.1 ++ " \x7b @("
      ++ ", ".intercalate (words.2.words.map singleQuoted) ++ ") \x7d\n"
  let standard := ", ".intercalate (Level.top.words.map singleQuoted)
  "using namespace System.Management.Automation\n\n"
    ++ "Register-ArgumentCompleter -Native -CommandName 'seg' -ScriptBlock \x7b\n"
    ++ "    param($wordToComplete, $commandAst, $cursorPosition)\n"
    ++ "    $command = \"$($commandAst.CommandElements[1])\"\n"
    ++ "    $words = switch ($command) \x7b\n"
    ++ String.join (commandLevels.map row)
    ++ "        default \x7b @(" ++ standard ++ ") \x7d\n"
    ++ "    \x7d\n"
    ++ "    $words | Where-Object \x7b $_ -like \"$wordToComplete*\" \x7d |\n"
    ++ "        ForEach-Object \x7b [CompletionResult]::new($_) \x7d\n"
    ++ "\x7d\n"

/-- The script for a shell. The scripts are stand-ins for those that a generator of completions
writes: they offer the same commands and options, in a form of their own. -/
def completionScript : Shell → String
  | .bash => bashScript
  | .zsh => zshScript
  | .fish => fishScript
  | .powershell => powershellScript

end CatalogFilter.CommandLine
