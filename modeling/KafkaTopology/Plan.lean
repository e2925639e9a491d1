import KafkaTopology.Backend
/-!
# Execution plans (specification, section 4.2)

A plan is a queue of steps over a backend. A dry run writes one line per step to a sink. Any other
run executes the steps in order and folds their effects into the state; when all have succeeded the
backend is refilled and flushed once. The first failure ends a run: then nothing is committed and
the plan's state stays as it was.
-/
namespace KafkaTopology

/-! ## Sinks -/

/-- Where previews go: the text so far, how many further lines fit, if that is limited, and why the
sink cannot be flushed, if it cannot. -/
structure Sink where
  written : String
  room : Option Nat
  flushRefusal : Option String
deriving DecidableEq, Repr, Inhabited

namespace Sink

/-- What a full sink answers. -/
def refusal : String := "sink closed"

/-- A sink that takes everything. -/
def unlimited : Sink := ⟨"", none, none⟩

/-- The part of a text that fits in a number of lines, and the lines that are left after it; no
answer for the latter if some of the text does not fit. -/
def fitting : Nat → List Char → List Char × Option Nat
  | room, [] => ([], some room)
  | 0, _ :: _ => ([], none)
  | room + 1, c :: cs =>
    let (kept, left) := fitting (if c = '\n' then room else room + 1) cs
    (c :: kept, left)

/-- Writes a text. A text that does not fit is written as far as it does and refused. -/
def write (s : Sink) (text : String) : Sink × Bool :=
  match s.room with
  | none => ({ s with written := s.written ++ text }, true)
  | some room =>
    let (kept, left) := fitting room text.toList
    ({ s with written := s.written ++ String.ofList kept, room := some (left.getD 0) }, left.isSome)

/-- Writes lines up to the first that is refused, and counts the complete ones. -/
def writeLines (s : Sink) : List String → Nat → Sink × Except Nat Nat
  | [], n => (s, .ok n)
  | line :: rest, n =>
    match s.write (line ++ "\n") with
    | (s, true) => s.writeLines rest (n + 1)
    | (s, false) => (s, .error n)

end Sink

/-! ## Steps and runs -/

/-- A queued change: how it is described, what it does to the state, and how it is carried out. -/
structure Step (ω : Type) where
  description : String
  effect : Effect
  run : Attempt ω Unit

/-- What a run went through. -/
structure RunSummary where
  dryRun : Bool
  previewed : Nat
  applied : Nat
  created : Nat
  removed : Nat
deriving DecidableEq, Repr, Inhabited

namespace RunSummary

/-- A run that has done nothing yet. -/
def start (dryRun : Bool) : RunSummary := ⟨dryRun, 0, 0, 0, 0⟩

def total (s : RunSummary) : Nat := s.previewed + s.applied

def hasChanges (s : RunSummary) : Bool := 0 < s.applied

def count (s : RunSummary) (d : Direction) : RunSummary :=
  match d with
  | .create => { s with applied := s.applied + 1, created := s.created + 1 }
  | .delete => { s with applied := s.applied + 1, removed := s.removed + 1 }

end RunSummary

/-- Why a plan could not be made or run. -/
inductive PlanError where
  | load (cause : Failure)
  | action (description : String) (cause : Failure)
  | commit (cause : Failure)
  | output (message : String)
deriving DecidableEq, Repr

namespace PlanError

/-- The wording of an error, with its causes in one line. -/
def message : PlanError → String
  | .load f => "failed to load backend state: " ++ f.line
  | .action description f => "action failed: " ++ description ++ ": " ++ f.line
  | .commit f => "failed to commit backend state: " ++ f.line
  | .output m => "failed to write preview: " ++ m

def causes : PlanError → List String
  | .load f | .action _ f | .commit f => f.chain
  | .output m => [m]

def failure (e : PlanError) : Failure := ⟨e.message, e.causes⟩

end PlanError

/-- A queue of steps with the state that was last committed. -/
structure Plan (ω : Type) where
  steps : List (Step ω)
  backend : Backend
  sink : Sink
  state : State

namespace Plan
variable {ω : Type}

/-- An empty plan over what the medium holds. -/
def init (medium : Medium ω) (sink : Sink) : ExceptT PlanError (StateM ω) (Plan ω) :=
  ExceptT.mk do
    match ← (Backend.load medium .fresh).run with
    | .error f => return .error (.load f)
    | .ok b => return .ok ⟨[], b, sink, if 0 < b.size then b.snapshot else .empty⟩

def add (p : Plan ω) (s : Step ω) : Plan ω := { p with steps := p.steps ++ [s] }

def addAll (p : Plan ω) (steps : List (Step ω)) : Plan ω := { p with steps := p.steps ++ steps }

def size (p : Plan ω) : Nat := p.steps.length

/-- Direction and description of each step, in order. -/
def outline (p : Plan ω) : List (Direction × String) :=
  p.steps.map fun s => (s.effect.direction, s.description)

/-- Carries steps out one after the other, up to the first that fails. -/
def execute : List (Step ω) → State → RunSummary → StateM ω (Except PlanError (State × RunSummary))
  | [], s, summary => return .ok (s, summary)
  | step :: rest, s, summary => do
    match ← step.run.run with
    | .error f => return .error (.action step.description f)
    | .ok () => execute rest (s.apply step.effect) (summary.count step.effect.direction)

/-- Shows what a run would do, and flushes the sink. -/
def preview (p : Plan ω) : Except PlanError RunSummary × Plan ω :=
  let (sink, outcome) := p.sink.writeLines (p.steps.map (·.description)) 0
  let p := { p with sink := sink }
  match outcome, sink.flushRefusal with
  | .ok n, none => (.ok { RunSummary.start true with previewed := n }, p)
  | .ok _, some reason => (.error (.output reason), p)
  | .error _, _ => (.error (.output Sink.refusal), p)

/-- Makes a state the committed one. -/
def commit (medium : Medium ω) (p : Plan ω) (s : State) :
    StateM ω (Except PlanError Unit × Plan ω) := do
  let p := { p with backend := p.backend.refill s }
  match ← (p.backend.flush medium).run with
  | .error f => return (.error (.commit f), p)
  | .ok b => return (.ok (), { p with backend := b, state := s })

/-- Carries all steps out and commits the state that they lead to. -/
def runAll (medium : Medium ω) (p : Plan ω) : StateM ω (Except PlanError RunSummary × Plan ω) := do
  match ← execute p.steps p.state (.start false) with
  | .error e => return (.error e, p)
  | .ok (s, summary) =>
    match ← p.commit medium s with
    | (.error e, p) => return (.error e, p)
    | (.ok (), p) => return (.ok summary, p)

/-- Previews or executes the queue. -/
def run (medium : Medium ω) (dryRun : Bool) (p : Plan ω) :
    StateM ω (Except PlanError RunSummary × Plan ω) :=
  if dryRun then return p.preview else p.runAll medium

end Plan
end KafkaTopology
