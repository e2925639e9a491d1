import KafkaTopology.Document
import KafkaTopology.Failure
import KafkaTopology.Host.FileTree
import KafkaTopology.Host.Variables
import KafkaTopology.Text.Blank
import KafkaTopology.Text.Occurrence
import KafkaTopology.Timestamp
/-!
# Hosts

Everything outside of the program, as a value: files, variables, a clock, what was printed, and
the tools and servers that can be called. A tool or server may react to all that was called before
(`Host.tools`, `Host.servers`), and every call is kept with its outcome (`Host.calls`).
-/
namespace KafkaTopology

/-- A tool with its arguments. -/
structure Command where
  tool : String
  arguments : List String
deriving DecidableEq, Repr, Inhabited

/-- How a tool ends. -/
inductive Outcome where
  | success
  /-- With what it wrote about the failure. -/
  | failure (complaint : String)
deriving DecidableEq, Repr, Inhabited

/-- A request to a server. -/
inductive Request where
  | post (url : String) (body : Document)
  | delete (url : String)
deriving BEq, Repr, Inhabited

/-- What comes of a request. -/
inductive Answer where
  | status (code : Nat)
  /-- There was no answer, for this reason. -/
  | unreachable (reason : String)
deriving DecidableEq, Repr, Inhabited

/-- A call and its outcome. -/
inductive Call where
  | ran (command : Command) (outcome : Outcome)
  | sent (request : Request) (answer : Answer)
deriving BEq, Repr, Inhabited

/-- The surroundings of the program. -/
structure Host where
  files : FileTree
  environment : Variables
  /-- The directories in which tools are looked for. -/
  searchPath : List String
  /-- How a tool ends, after the calls so far. -/
  tools : List Call → Command → Outcome
  /-- What comes of a request, after the calls so far. -/
  servers : List Call → Request → Answer
  clock : Timestamp
  /-- What someone at a terminal answers when asked to confirm; nothing without a terminal. -/
  consent : Option Bool
  output : String
  calls : List Call

namespace Host

/-! ## Printing -/

def printText (text : String) : Attempt Host Unit :=
  modifyThe Host fun h => { h with output := h.output ++ text }

def print (lines : List String) : Attempt Host Unit :=
  printText (String.join (lines.map (· ++ "\n")))

/-- Asks for a confirmation. -/
def confirm : Attempt Host Bool := do
  match (← getThe Host).consent with
  | some answer => return answer
  | none => throw ⟨"IO error: not a terminal", ["not a terminal"]⟩

/-! ## Files -/

/-- The result of a file operation, or a failure under a message with the operating system's
wording as its cause. -/
def settle {α : Type} (message : String) : Except FileError α → Attempt Host α
  | .ok a => return a
  | .error e => throw ⟨message, [e.message]⟩

def readText (path message : String) : Attempt Host String := do
  settle message ((← getThe Host).files.readText path)

def writeText (path text message : String) : Attempt Host Unit := do
  let files ← settle message ((← getThe Host).files.writeText path text)
  modifyThe Host fun h => { h with files }

/-- Makes a directory with all directories above it. What is made before a failure stays. -/
def makeDirectories (path message : String) : Attempt Host Unit := do
  let (outcome, files) := (← getThe Host).files.makeDirectories path
  modifyThe Host fun h => { h with files }
  settle message outcome

/-! ## Tools -/

/-- Why a command cannot be started. -/
inductive StartError where
  /-- The tool cannot be run. -/
  | tool (reason : FileError)
  /-- No argument can hold the character that ends it for the operating system. -/
  | nulInArgument
  /-- An argument has 131072 octets or more. -/
  | argumentTooLong
deriving DecidableEq, Repr

def StartError.message : StartError → String
  | .tool reason => reason.message
  | .nulInArgument => "nul byte found in provided data"
  | .argumentTooLong => "Argument list too long (os error 7)"

def isPath (tool : String) : Bool := tool.contains '/'

/-- What comes of a search: a success, or else a denial, or else nothing is found. -/
def searched : List (Except FileError Unit) → Except FileError Unit
  | [] => .error .notFound
  | .ok () :: _ => .ok ()
  | .error reason :: rest =>
    match reason, searched rest with
    | .denied, .error _ => .error .denied
    | _, outcome => outcome

/-- Whether a tool can be started. Without a path it has to be in a directory of the search
path. -/
def checkStartable (h : Host) (tool : String) : Except FileError Unit :=
  if isPath tool then h.files.checkExecutable tool
  else searched (h.searchPath.map fun dir => h.files.checkExecutable (Path.join dir tool))

/-- Whether a tool is installed: a path has to name a file, a bare name a tool that can be
started. -/
def hasTool (h : Host) (tool : String) : Bool :=
  if isPath tool then h.files.isFile tool else (h.checkStartable tool).isOk

/-- Whether a command can be started. -/
def checkCommand (h : Host) (c : Command) : Except StartError Unit :=
  let words := c.tool :: c.arguments
  if words.any (·.contains '\x00') then .error .nulInArgument
  else if words.any (131072 ≤ ·.utf8ByteSize) then .error .argumentTooLong
  else (h.checkStartable c.tool).mapError .tool

/-- An argument as messages show it: one that holds a password is hidden. -/
def redacted (argument : String) : String :=
  if Text.occursIn "password=" argument then "<redacted>" else argument

/-- A command as messages show it. -/
def shownCommand (c : Command) : String :=
  " ".intercalate (c.tool :: c.arguments.map redacted)

/-- Runs a tool to its end. -/
def execute (c : Command) : Attempt Host Unit := do
  let h ← getThe Host
  match h.checkCommand c with
  | .error e => throw ⟨"Failed to execute: " ++ shownCommand c, [e.message]⟩
  | .ok () =>
    let outcome := h.tools h.calls c
    modifyThe Host fun h => { h with calls := h.calls ++ [.ran c outcome] }
    match outcome with
    | .success => return ()
    | .failure complaint =>
      Attempt.fail ("Command failed: " ++ c.tool ++ ": " ++ Text.trim complaint)

/-! ## Servers -/

/-- Sends a request and waits for its answer. -/
def send (r : Request) : StateM Host Answer := do
  let h ← get
  let answer := h.servers h.calls r
  modify fun h => { h with calls := h.calls ++ [.sent r answer] }
  return answer

/-! ## Calls -/

def commands (h : Host) : List Command :=
  h.calls.filterMap fun
    | .ran c _ => some c
    | .sent _ _ => none

def answered (h : Host) : List Request :=
  h.calls.filterMap fun
    | .sent r (.status _) => some r
    | _ => none

end Host
end KafkaTopology
