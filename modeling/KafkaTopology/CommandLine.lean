import KafkaTopology.CommandLine.Argument
import KafkaTopology.CommandLine.Completion
import KafkaTopology.Session
/-!
# Command lines (specification, section 10.6)

A command line names a verb, or asks for help in its place. Options may stand before and behind it,
each of them once on either side; the configuration that is named behind the verb wins over the one
before it, and both over the variable that names one. What ends a command line early (`Early`) does
so where it stands: what follows is not looked at.
-/
namespace KafkaTopology
namespace CommandLine

/-- What a command line asks for. -/
inductive Verb where
  | validate
  | plan
  | apply
  | state
  | completions
deriving DecidableEq, Repr

namespace Verb

def values : List Verb := [.validate, .plan, .apply, .state, .completions]

def word : Verb → String
  | .validate => "validate"
  | .plan => "plan"
  | .apply => "apply"
  | .state => "state"
  | .completions => "completions"

def ofWord? (s : String) : Option Verb := values.find? (·.word == s)

theorem ofWord?_word (v : Verb) : ofWord? v.word = some v := by cases v <;> rfl

end Verb

/-- What ends a command line before its verb can be obeyed. -/
inductive Early where
  | misuse
  /-- The version is asked for, of a verb if there is one already. -/
  | version (verb : Option Verb)
  | help
deriving DecidableEq, Repr

/-- What is given on one side of the verb. -/
structure Given where
  quiet : Bool
  dryRun : Bool
  confirmed : Bool
  config : Option String
  path : Option String
  shell : Option Shell
deriving DecidableEq, Repr

namespace Given

/-- Nothing is given. -/
def nothing : Given := ⟨false, false, false, none, none, none⟩

/-- What is given after an addition that may be made once. -/
def once (seen : Bool) (g : Given) : Except Early Given := if seen then .error .misuse else .ok g

def addPath (g : Given) (path : String) : Except Early Given :=
  once (g.path.isSome || path.isEmpty) { g with path := some path }

def addShell (g : Given) (name : String) : Except Early Given :=
  once (g.shell.isSome || (Shell.ofName? name).isNone) { g with shell := Shell.ofName? name }

/-- Adds a word, as far as the verb needs one. -/
def addWord (verb : Option Verb) (g : Given) (s : String) : Except Early Given :=
  match verb with
  | none => .error .misuse
  | some .validate => g.addPath s
  | some .plan => g.addPath s
  | some .apply => g.addPath s
  | some .state => .error .misuse
  | some .completions => g.addShell s

/-- Adds an argument on the side of the verb where it stands. -/
def add (verb : Option Verb) (g : Given) : Argument → Except Early Given
  | .switch .verbose => .ok g
  | .switch .quiet => once g.quiet { g with quiet := true }
  | .switch .dryRun => once (g.dryRun || verb != some .apply) { g with dryRun := true }
  | .switch .yes => once (g.confirmed || verb != some .apply) { g with confirmed := true }
  | .switch .version => .error (.version verb)
  | .switch .help => .error .help
  | .config path => once (g.config.isSome || path.isEmpty) { g with config := some path }
  | .word s => addWord verb g s
  | .delimiter => .ok g
  | .literal s => addWord verb g s
  | .unknown => .error .misuse

end Given

/-- The word that asks for help in place of a verb. -/
def helpWord : String := Switch.help.name

/-- All words that may stand in the place of a verb. -/
def commandWords : List String := Verb.values.map Verb.word ++ [helpWord]

/-- What the word for help amounts to with the arguments behind it. It may be followed by one word
that may stand in its place. -/
def helpOn : List Argument → Early
  | [] => .help
  | [.word s] => if commandWords.contains s then .help else .misuse
  | _ => .misuse

/-- What is given before the verb, the verb, and the arguments behind it. -/
def splitAtVerb : Given → List Argument → Except Early (Given × Verb × List Argument)
  | _, [] => .error .misuse
  | g, .word s :: rest =>
    match Verb.ofWord? s with
    | some v => .ok (g, v, rest)
    | none => .error (if s == helpWord then helpOn rest else .misuse)
  | g, a :: rest => do splitAtVerb (← g.add none a) rest

/-- A verb with what it needs. -/
inductive Task where
  | validate (path : String)
  | plan (path : String)
  | apply (path : String) (dryRun confirmed : Bool)
  | state
  | completions (shell : Shell)
deriving DecidableEq, Repr

def Task.path? : Task → Option String
  | .validate path => some path
  | .plan path => some path
  | .apply path _ _ => some path
  | .state => none
  | .completions _ => none

/-- The task of a verb with what is given behind it. -/
def Task.of? : Verb → Given → Option Task
  | .validate, g => g.path.map .validate
  | .plan, g => g.path.map .plan
  | .apply, g => g.path.map (.apply · g.dryRun g.confirmed)
  | .state, _ => some .state
  | .completions, g => g.shell.map .completions

/-- What a command line amounts to. -/
structure Invocation where
  quiet : Bool
  /-- The configuration file, if one is named. -/
  config : Option String
  task : Task
deriving DecidableEq, Repr

def configVariable : String := "STREAMFORM_CONFIG"

/-- The configuration file that is named. An empty variable is a misuse where it would be looked
at, that is on a side of the verb without a configuration. -/
def namedConfig (environment : Variables) (before after : Given) : Except Early (Option String) :=
  let fallback := environment.get? configVariable
  if fallback == some "" && (before.config.isNone || after.config.isNone) then .error .misuse
  else .ok (after.config <|> before.config <|> fallback)

namespace Invocation

/-- The invocation that a command line stands for. -/
def ofArguments (environment : Variables) (arguments : List String) : Except Early Invocation := do
  let (before, verb, rest) ← splitAtVerb .nothing (Argument.ofTexts arguments)
  let after ← rest.foldlM (Given.add (some verb)) .nothing
  let config ← namedConfig environment before after
  match Task.of? verb after with
  | some task => .ok ⟨before.quiet || after.quiet, config, task⟩
  | none => .error .misuse

/-- Does something in the session that an invocation opens. -/
def inSession (i : Invocation) (work : Session → Attempt Host Unit) : Attempt Host Unit := do
  work ⟨i.quiet, ← Config.load i.config⟩

/-- Obeys an invocation. Completions need no session. -/
def run (i : Invocation) : Attempt Host Unit :=
  match i.task with
  | .validate path => i.inSession (·.validate path)
  | .plan path => i.inSession (·.plan path)
  | .apply path dryRun confirmed => i.inSession (·.apply path dryRun confirmed)
  | .state => i.inSession (·.showState)
  | .completions shell => Host.print (shell.completions Variables.programName commandWords)

/-- The configuration that an invocation finds on a host, if it finds one. -/
def config? (i : Invocation) (h : Host) : Option Config := ((Config.load i.config).on h).1.toOption

/-- The variables that an invocation uses, as far as the files of a host tell. -/
def variableNames (i : Invocation) (h : Host) : List String :=
  ((i.config? h).map (·.variableNames)).getD []

/-- The files that an invocation reads to make a plan, as far as the files of a host tell. -/
def sources (i : Invocation) (h : Host) : List String :=
  let stateFile := (i.config? h).bind fun c => (c.statePath.on h).1.toOption
  (i.config <|> h.environment.configFile?).toList ++ stateFile.toList ++ i.task.path?.toList

end Invocation

def version : String := "0.1.0"

/-- The line about the version, of a verb if there is one. -/
def versionLine (verb : Option Verb) : String :=
  "-".intercalate (Variables.programName :: (verb.map Verb.word).toList) ++ " " ++ version

def usage : List String :=
  ["Usage: " ++ Variables.programName ++ " [-v] [-q] [-c FILE] COMMAND", "",
    "Commands:",
    "  validate TOPOLOGY          check a topology and print what it declares",
    "  plan TOPOLOGY              preview the actions that apply would take",
    "  apply [-n] [-y] TOPOLOGY   make the cluster match the topology",
    "  state                      show the state that was applied last",
    "  completions SHELL          write what makes a shell complete commands",
    "  help [COMMAND]             show this text"]

/-- How the program ends. -/
inductive Exit where
  | success
  | failure (f : Failure)
  | misuse
deriving DecidableEq, Repr

def Exit.code : Exit → Nat
  | .success => 0
  | .failure _ => 1
  | .misuse => 2

/-- What a computation ends with. -/
def Exit.of (a : Attempt Host Unit) : StateM Host Exit := do
  match ← a.run with
  | .ok () => return .success
  | .error f => return .failure f

/-- Runs a command line. -/
def run (arguments : List String) : StateM Host Exit := do
  match Invocation.ofArguments (← get).environment arguments with
  | .ok i => Exit.of i.run
  | .error .misuse => return .misuse
  | .error .help => Exit.of (Host.print usage)
  | .error (.version verb) => Exit.of (Host.print [versionLine verb])

end CommandLine
end KafkaTopology
