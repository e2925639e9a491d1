import KafkaTopology.Plan
import KafkaTopology.StateFile
import KafkaTopology.Topology
import KafkaTopology.Wording
/-!
# Reports

What the program prints about topologies, plans and states, as lists of lines.
-/
namespace KafkaTopology
namespace Report

def title (text : String) : List String := ["", text, "".pushn '─' text.length]

def heading (text : String) : List String := ["", text]

def pair (key value : String) : String := "  " ++ key ++ ": " ++ value

def item (text : String) : String := "  " ++ text

def note (text : String) : String := "ℹ " ++ text

def success (text : String) : String := "✓ " ++ text

def warning (text : String) : String := "⚠ " ++ text

def optional (empty : Bool) (line : String) : List String := if empty then [] else [line]

end Report

/-! ## Topologies -/

/-- A heading with a line per component that is declared. -/
def Platform.report (p : Platform) : List String :=
  let instances {α : Type} (key : String) : Option (List α) → List String
    | some xs => [Report.pair key (countNoun xs.length "instance")]
    | none => []
  if p.isEmpty then []
  else
    Report.heading "Platform" ++
      instances "Kafka Connect" p.kafkaConnect ++
      instances "Schema Registry" p.schemaRegistry ++
      instances "Control Center" p.controlCenter ++
      (match p.kafka with
        | some roles =>
          Report.optional roles.rbac.isEmpty
            (Report.pair "Kafka RBAC" (", ".intercalate roles.rbac.keys))
        | none => [])

/-- A heading with the roles, principals, role assignments, connectors and topics of a project. -/
def Project.report (p : Project) : List String :=
  let roles := (Role.values.filter p.hasRole).map (·.key)
  Report.heading p.qualifiedName ++
    Report.optional roles.isEmpty (Report.pair "Roles" (", ".intercalate roles)) ++
    Report.optional p.principals.isEmpty
      (Report.pair "Principals" (", ".intercalate p.principals)) ++
    Report.optional p.rbac.isEmpty (Report.pair "RBAC" (countNoun p.rbac.size "role")) ++
    p.rbac.toPairs.map (fun (role, principals) =>
      Report.item (role ++ ": " ++ ", ".intercalate principals)) ++
    Report.optional p.artefacts.isEmpty
      (Report.pair "Connectors" (countNoun p.artefacts.length "artefact")) ++
    [Report.pair "Topics" (countNoun p.topics.length "topic")] ++
    p.topics.map (fun topic => Report.item topic.fullName)

/-- What a valid topology declares, with the path that it was read from. -/
def Topology.report (t : Topology) (path : String) : List String :=
  Report.title ("Topology " ++ t.fullContext) ++ t.platform.report ++
    t.projects.flatMap (·.report) ++
    ["", Report.success (path ++ " is valid: " ++ countNoun t.projects.length "project" ++ ", " ++
      countNoun t.topicNames.length "topic")]

/-! ## States -/

/-- What a state file holds. -/
def StateRecord.report (r : StateRecord) (path : String) : List String :=
  let listing (noun : String) (lines : List String) : List String :=
    Report.heading (countNoun lines.length noun) ++ lines.map Report.item
  Report.title "Reconciled State" ++
    [Report.pair "File" path, Report.pair "Last updated" r.writtenAt.shown] ++
    listing "topic" r.state.topics.toList ++
    listing "binding" (r.state.bindings.toList.map (·.shown)) ++
    listing "service account" (r.state.accounts.toList.map (·.principal)) ++
    listing "connector" (r.state.artefacts.toList.map (·.shown)) ++
    (if r.state.isEmpty then ["", Report.warning "State file is empty"] else [])

/-- What is printed in place of a state that has not been recorded. -/
def StateFile.absenceReport (path : String) : List String :=
  [Report.note ("No state recorded yet at " ++ path),
    Report.item "Run: streamform apply <topology>"]

/-! ## Plans -/

/-- The sign in front of a change. -/
def Direction.sign : Direction → String
  | .create => "+"
  | .delete => "-"

/-- The changes of a plan in a box, or a line that there are none. -/
def Report.outline (outline : List (Direction × String)) : List String :=
  if outline.isEmpty then ["", Report.item (Report.success "No changes needed")]
  else
    let creates := (outline.filter fun (d, _) => d == .create).length
    let deletes := outline.length - creates
    ["", "┌─ Execution Plan ─────────────────────────────────────────┐", "│"] ++
      outline.map (fun (d, description) => "│   " ++ d.sign ++ " " ++ description) ++
      ["│", "├─────────────────────────────────────────────────────┤",
        "│ Summary: " ++ toString outline.length ++ " actions (" ++ toString creates ++
          " create, " ++ toString deletes ++ " delete)",
        "└─────────────────────────────────────────────────────┘"]

/-- The number of changes of one direction, if there are any. -/
def Report.changes (n : Nat) (direction : String) : List String :=
  if n = 0 then [] else ["    • " ++ toString n ++ " " ++ direction ++ " actions"]

/-- What a run has done. -/
def RunSummary.report (s : RunSummary) : List String :=
  if s.dryRun then
    ["", Report.item (Report.note
      ("Dry run - " ++ toString s.previewed ++ " actions previewed, no changes made"))]
  else
    ["", Report.item (Report.success "Topology applied successfully!")] ++
      Report.changes s.created "create" ++ Report.changes s.removed "delete"

end KafkaTopology
