import KafkaTopology.Proofs.Host.Twins
import KafkaTopology.Proofs.Host.Writing
import KafkaTopology.Proofs.Session.ReadOnly
/-!
# Sessions that end alike

Twins differ in the value of one variable. What a session does up to the state file agrees on them;
the state file holds the same state, with the time at which each of the two was written. So the
parts of a session end alike (`Host.EndAlike`): in the same way, with the same things printed,
called and recorded, but for the values that reports and calls may hold.

* `Plan.runAll_alike` — a plan whose steps agree is carried out and committed alike.
* `Session.apply_alike` — a topology is applied alike.
-/
namespace KafkaTopology

open Host (Keeps Twins AgreeOn Agrees)

/-! ## Hosts that are alike -/

namespace Host

/-- The same files, or the same files but for one in its place, written at two moments. -/
def Recorded (place : String → Prop) (w w' : Host) : Prop :=
  w.files = w'.files ∨ ∃ path files s, place path ∧
    FileTree.writeText files path (StateRecord.mk w.clock s).toToml = .ok w.files ∧
    FileTree.writeText files path (StateRecord.mk w'.clock s).toToml = .ok w'.files

/-- Hosts where the same was printed, called and recorded, but for passwords and times. -/
structure Alike (p q : VariableValue) (place : String → Prop) (w w' : Host) : Prop where
  output : w.output = w'.output
  calls : List.Forall₂ (Call.Counterpart p q) w.calls w'.calls
  recorded : Recorded place w w'

section

variable {secret : String} {p q : VariableValue} {place : String → Prop} {α β : Type}
  {h h' w w' : Host}

theorem Twins.alike (ht : Twins secret p q h h') : Alike p q place h h' :=
  ⟨ht.output, ht.calls, .inl ht.files⟩

theorem Alike.saying (ha : Alike p q place w w') (text : String) :
    Alike p q place (w.saying text) (w'.saying text) :=
  ⟨congrArg (· ++ text) ha.output, ha.calls, ha.recorded⟩

end
end Host

/-! ## The state file -/

namespace StateFile

variable {secret path : String} {p q : VariableValue} {place : String → Prop} {h h' : Host}

end StateFile

/-! ## Carrying a plan out -/

namespace Plan

variable {secret path : String} {p q : VariableValue} {place : String → Prop} {h h' : Host}

end Plan

/-! ## The parts of a session -/

/-- Whether a configuration uses a variable for nothing but the password of new accounts. -/
structure Config.Spares (c : Config) (secret : String) : Prop where
  unmentioned :
    ∀ path ∈ c.kafka.commandConfig.toList ++ c.kafka.binDir.toList ++ c.stateFile.toList,
      Variables.Unmentioned secret path
  password :
    Variables.Meet secret c.manage.scramPasswordEnv → c.manage.scramPasswordEnv = secret

section

variable {secret : String} {p q : VariableValue} {h h' : Host} (ht : Twins secret p q h h')
  (henvironment : h.environment.Spares secret)
include ht henvironment

variable {c : Config} (hc : c.Spares secret)
include hc

end

namespace Session

variable {secret : String} {p q : VariableValue} {h h' : Host} {s : Session}

section

variable (ht : Twins secret p q h h') (henvironment : h.environment.Spares secret)
  (hc : s.config.Spares secret)
include ht

include henvironment hc

end

/-! ## Applying -/

section

variable (ht : Twins secret p q h h') (henvironment : h.environment.Spares secret)
  (hc : s.config.Spares secret)
include ht henvironment hc

end

end Session

end KafkaTopology
