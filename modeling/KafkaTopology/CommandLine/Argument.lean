/-!
# Arguments

A command line is split into its parts before anything is known about what it asks for. Switches
are written as `--name` or as a letter after `-`, and several letters may share one dash. Only the
option for the configuration has a value: it follows as the next argument, after `=`, or directly
after the letter. After `--` every argument stands for itself.
-/
namespace KafkaTopology
namespace CommandLine

/-- An option without a value. -/
inductive Switch where
  | verbose
  | quiet
  | dryRun
  | yes
  | version
  | help
deriving DecidableEq, Repr

namespace Switch

def values : List Switch := [.verbose, .quiet, .dryRun, .yes, .version, .help]

def letter : Switch → Char
  | .verbose => 'v'
  | .quiet => 'q'
  | .dryRun => 'n'
  | .yes => 'y'
  | .version => 'V'
  | .help => 'h'

def name : Switch → String
  | .verbose => "verbose"
  | .quiet => "quiet"
  | .dryRun => "dry-run"
  | .yes => "yes"
  | .version => "version"
  | .help => "help"

def ofLetter? (c : Char) : Option Switch := values.find? (·.letter == c)

def ofName? (s : String) : Option Switch := values.find? (·.name == s)

theorem ofLetter?_letter (s : Switch) : ofLetter? s.letter = some s := by cases s <;> rfl

end Switch

def configLetter : Char := 'c'

def configName : String := "config"

/-- A part of a command line. -/
inductive Argument where
  | switch (s : Switch)
  | config (path : String)
  | word (s : String)
  /-- The first `--`. -/
  | delimiter
  /-- A word after `--`. -/
  | literal (s : String)
  /-- Something that is no part of any command line. -/
  | unknown
deriving DecidableEq, Repr

namespace Argument

/-- Whether a text is written like an option. A lone `-` is a word. -/
def looksLikeOption (s : String) : Bool := s.startsWith "-" && s != "-"

/-- What letters after a dash mean, and whether the next argument is the value of the last one. -/
def ofLetters : List Char → List Argument × Bool
  | [] => ([], false)
  | c :: rest =>
    if c == configLetter then
      match rest with
      | [] => ([], true)
      | '=' :: value => ([.config (String.ofList value)], false)
      | value => ([.config (String.ofList value)], false)
    else
      match Switch.ofLetter? c with
      | none => ([.unknown], false)
      | some s =>
        let (others, waits) := ofLetters rest
        (.switch s :: others, waits)

/-- What a name after two dashes means, and whether the next argument is its value. -/
def ofName (s : String) : List Argument × Bool :=
  match s.toList.span (· != '=') with
  | (name, '=' :: value) =>
    if String.ofList name == configName then ([.config (String.ofList value)], false)
    else ([.unknown], false)
  | (name, _) =>
    let name := String.ofList name
    if name == configName then ([], true)
    else
      match Switch.ofName? name with
      | some s => ([.switch s], false)
      | none => ([.unknown], false)

/-- What one text means, and whether the next one is the value of an option in it. -/
def ofText (s : String) : List Argument × Bool :=
  if !looksLikeOption s then ([.word s], false)
  else
    match s.toList with
    | '-' :: '-' :: name => ofName (String.ofList name)
    | _ :: letters => ofLetters letters
    | [] => ([], false)

/-- The parts of a command line. A value that looks like an option is none. -/
def ofTexts : List String → List Argument
  | [] => []
  | s :: rest =>
    if s == "--" then .delimiter :: rest.map .literal
    else
      match ofText s with
      | (found, false) => found ++ ofTexts rest
      | (found, true) =>
        match rest with
        | [] => found ++ [.unknown]
        | value :: rest =>
          if looksLikeOption value then found ++ [.unknown]
          else found ++ .config value :: ofTexts rest

end Argument
end CommandLine
end KafkaTopology
