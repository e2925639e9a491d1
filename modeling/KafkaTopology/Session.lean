import KafkaTopology.ConnectServers
import KafkaTopology.Report
import KafkaTopology.Topology.Format
/-!
# Sessions (specification, section 10.6)

The four things that the program does with a configuration: check a topology, preview the changes
that lead to it, apply them, and show the recorded state. Only applying, and not as a dry run,
calls a tool or a server or writes a file.
-/
namespace KafkaTopology

def TopologyError.failure (e : TopologyError) : Failure :=
  match e with
  | .unreadable _ reason => ⟨e.message, [reason]⟩
  | _ => .ofMessage e.message

/-- The topology in a file. Without a known extension the file is read as YAML. -/
def Topology.read (naming : Naming) (path : String) (files : FileTree) : Checked Topology :=
  match files.readText path with
  | .error reason => .error (.unreadable path reason.message)
  | .ok text => ofText naming ((Format.ofPath? path).getD .yaml) text

/-- What a session goes by. -/
structure Session where
  /-- Titles and facts that everyone knows are not printed. -/
  quiet : Bool
  config : Config

namespace Session

/-- Prints lines unless the session is quiet. -/
def announce (s : Session) (lines : List String) : Attempt Host Unit :=
  if s.quiet then return () else Host.print lines

def topology (s : Session) (path : String) : Attempt Host Topology := do
  match Topology.read s.config.naming path (← getThe Host).files with
  | .ok t => return t
  | .error e => throw (e.failure.within ("Invalid topology: " ++ path))

def validate (s : Session) (path : String) : Attempt Host Unit := do
  let t ← s.topology path
  s.announce (t.report path)

/-- A plan over the state file, and the path of that file. -/
def planFor (s : Session) (t : Topology) : Attempt Host (Plan Host × String) := do
  let path ← s.config.statePath
  let environment := (← getThe Host).environment
  let plan ← ExceptT.adapt PlanError.failure (Plan.init (StateFile.medium path) .unlimited)
  return (plan.populate (s.config.admin environment) s.config.planOptions t, path)

/-- Shows what a plan would do. -/
def preview (plan : Plan Host) : Attempt Host Unit := do
  Host.print [""]
  let (outcome, plan) := plan.preview
  Host.printText plan.sink.written
  match outcome with
  | .error e => throw e.failure
  | .ok summary => Host.print summary.report

/-- Carries a plan out, after a confirmation unless there is one already. -/
def execute (plan : Plan Host) (statePath : String) (confirmed : Bool) : Attempt Host Unit := do
  Host.print (Report.outline plan.outline)
  if plan.steps.isEmpty then return ()
  let confirmed ← if confirmed then pure true else Host.confirm
  if confirmed then
    Host.print ["", Report.item ("→ Applying " ++ toString plan.size ++ " actions...")]
    let (outcome, _) ← plan.runAll (StateFile.medium statePath)
    match outcome with
    | .error e => throw e.failure
    | .ok summary => Host.print summary.report
  else Host.print ["", Report.item "✗ Aborted"]

/-- Previews the changes that lead to a topology. -/
def plan (s : Session) (path : String) : Attempt Host Unit := do
  let t ← s.topology path
  let (plan, _) ← s.planFor t
  s.announce (Report.title ("Plan for " ++ t.fullContext))
  preview plan

/-- The complaint about tools that are not installed. -/
def missingToolsMessage (tools : List String) : String :=
  "Kafka CLI tools not found: " ++ ", ".intercalate tools ++
    " (set kafka.bin_dir in streamform.toml)"

def checkTools (s : Session) : Attempt Host Unit := do
  let h ← getThe Host
  match (KafkaTools.ofConfig s.config h.environment).missing h with
  | [] => return ()
  | tools => Attempt.fail (missingToolsMessage tools)

/-- Applies a topology. -/
def apply (s : Session) (path : String) (dryRun confirmed : Bool) : Attempt Host Unit := do
  let t ← s.topology path
  if !dryRun then s.checkTools
  let (plan, statePath) ← s.planFor t
  s.announce <|
    Report.title ("Applying " ++ t.fullContext) ++
      [Report.pair "Bootstrap servers" s.config.kafka.bootstrapServers,
        Report.pair "State" statePath] ++
      (match plan.backend.writtenAt with
        | some t => [Report.pair "Last applied" t.shown]
        | none => [])
  if dryRun then preview plan else execute plan statePath confirmed

/-- Shows the recorded state. -/
def showState (s : Session) : Attempt Host Unit := do
  let path ← s.config.statePath
  match ← StateFile.read? path with
  | some r => Host.print (r.report path)
  | none => Host.print (StateFile.absenceReport path)

end Session
end KafkaTopology
