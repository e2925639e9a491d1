/-!
# Failures (specification, section 7)

A failed step is reported as a chain of messages, the outermost first. `Attempt` is a computation
that changes an outside world and may fail.
-/
namespace KafkaTopology

/-- A message with the messages of its causes, outermost first. -/
structure Failure where
  message : String
  causes : List String
deriving DecidableEq, Repr, Inhabited

namespace Failure

def ofMessage (message : String) : Failure := ⟨message, []⟩

def chain (f : Failure) : List String := f.message :: f.causes

/-- All messages in one line. -/
def line (f : Failure) : String := ": ".intercalate f.chain

/-- The failure of a larger step because of this one. -/
def within (f : Failure) (message : String) : Failure := ⟨message, f.chain⟩

/-- A message with its further lines indented by so many blanks. -/
def indented (width : Nat) (message : String) : String :=
  ("\n" ++ "".pushn ' ' width).intercalate (message.splitOn "\n")

/-- Causes with their numbers. -/
def numbered : Nat → List String → List String
  | _, [] => []
  | n, cause :: rest =>
    let number := toString n
    ("".pushn ' ' (5 - number.length) ++ number ++ ": " ++ indented 7 cause) ::
      numbered (n + 1) rest

/-- The report of a failure that ends the program. Several causes are numbered. -/
def report (f : Failure) : String :=
  match f.causes with
  | [] => "Error: " ++ f.message
  | [cause] => "Error: " ++ f.message ++ "\n\nCaused by:\n    " ++ indented 4 cause
  | causes =>
    "Error: " ++ f.message ++ "\n\nCaused by:\n" ++ "\n".intercalate (numbered 0 causes)

end Failure

/-- A computation on an outside world `ω` that may fail. What it did before it failed stays. -/
abbrev Attempt (ω : Type) := ExceptT Failure (StateM ω)

namespace Attempt
variable {ω α : Type}

def on (a : Attempt ω α) (w : ω) : Except Failure α × ω := a.run.run w

/-- Gives failures an outer message. -/
def context (message : String) (a : Attempt ω α) : Attempt ω α :=
  tryCatch a (fun f => throw (f.within message))

def fail (message : String) : Attempt ω α := throw (.ofMessage message)

end Attempt
end KafkaTopology
