/-!
# Completions

A shell can complete the first word of a command line if it is told which words there are.
`Shell.completions` writes what tells it.
-/
namespace KafkaTopology
namespace CommandLine

/-- A shell that can complete command lines. -/
inductive Shell where
  | bash
  | elvish
  | fish
  | powershell
  | zsh
deriving DecidableEq, Repr

namespace Shell

def values : List Shell := [.bash, .elvish, .fish, .powershell, .zsh]

def name : Shell → String
  | .bash => "bash"
  | .elvish => "elvish"
  | .fish => "fish"
  | .powershell => "powershell"
  | .zsh => "zsh"

def ofName? (s : String) : Option Shell := values.find? (·.name == s)

theorem ofName?_name (s : Shell) : ofName? s.name = some s := by cases s <;> rfl

/-- The lines that make a shell complete the first word after a program. -/
def completions (program : String) (words : List String) : Shell → List String
  | .bash => ["complete -o default -W '" ++ " ".intercalate words ++ "' " ++ program]
  | .elvish =>
    ["set edit:completion:arg-completer[" ++ program ++ "] = \x7b|@words| put " ++
      " ".intercalate words ++ " \x7d"]
  | .fish =>
    ["complete -c " ++ program ++ " -n __fish_use_subcommand -a '" ++ " ".intercalate words ++ "'"]
  | .powershell =>
    ["Register-ArgumentCompleter -Native -CommandName " ++ program ++
      " -ScriptBlock \x7b param($word) '" ++ "', '".intercalate words ++
      "' -like \"$word*\" \x7d"]
  | .zsh =>
    ["#compdef " ++ program,
      "_arguments '1:command:(" ++ " ".intercalate words ++ ")' '*:file:_files'"]

end Shell
end CommandLine
end KafkaTopology
