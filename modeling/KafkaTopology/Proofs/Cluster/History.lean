import KafkaTopology.Proofs.Cluster.Apply
/-!
# Histories of applies

Any topologies are applied one after the other, each with its own options and in its own
circumstances, and each plan begins with what the applies before it recorded. An apply records the
settled state if it succeeds and leaves the record as it was if it fails (`Turn.recorded_cases`), so
what both of these keep is kept by every history (`Turn.recordedAfter_invariant`).
-/
namespace KafkaTopology

/-- One apply of a history. -/
structure Turn where
  topology : Topology
  options : PlanOptions
  circumstances : Circumstances

namespace Turn

/-- The actions that are planned over a recorded state. -/
def actions (u : Turn) (recorded : State) : List Action := u.topology.actions u.options recorded

/-- What comes of the apply over a recorded state. -/
def applied (u : Turn) (recorded : State) : Applied :=
  u.topology.apply u.options u.circumstances recorded

/-- Whether the apply succeeds over a recorded state. -/
def succeeds (u : Turn) (recorded : State) : Bool := (u.applied recorded).outcome.isOk

/-- What is recorded after applies, in order. -/
def recordedAfter (recorded : State) (us : List Turn) : State :=
  us.foldl (fun s u => (u.applied s).recorded) recorded

theorem recordedAfter_append (recorded : State) (us vs : List Turn) :
    recordedAfter recorded (us ++ vs) = recordedAfter (recordedAfter recorded us) vs :=
  List.foldl_append

theorem recordedAfter_concat (recorded : State) (us : List Turn) (u : Turn) :
    recordedAfter recorded (us ++ [u]) = (u.applied (recordedAfter recorded us)).recorded :=
  recordedAfter_append recorded us [u]

/-- An apply records the settled state or nothing. -/
theorem recorded_cases (u : Turn) (recorded : State) :
    (u.succeeds recorded = true ∧
        (u.applied recorded).recorded = u.topology.settled u.options recorded) ∨
      (u.succeeds recorded = false ∧ (u.applied recorded).recorded = recorded) := by
  obtain ⟨-, ⟨summary, houtcome, -, hrecorded⟩ | ⟨e, houtcome, hrecorded⟩⟩ :=
    u.topology.apply_cases u.options u.circumstances recorded
  · exact .inl ⟨congrArg Except.isOk houtcome, hrecorded⟩
  · exact .inr ⟨congrArg Except.isOk houtcome, hrecorded⟩

/-- What the settled states of all plans keep is kept by a history, whatever comes of its applies. -/
theorem recordedAfter_invariant {P : State → Prop} {us : List Turn}
    (hsettled : ∀ u ∈ us, ∀ s, P s → P (u.topology.settled u.options s)) {recorded : State}
    (h : P recorded) : P (recordedAfter recorded us) := by
  induction us generalizing recorded with
  | nil => exact h
  | cons u us ih =>
    refine ih (fun v hv => hsettled v (List.mem_cons_of_mem u hv)) ?_
    show P (u.applied recorded).recorded
    rcases u.recorded_cases recorded with ⟨-, hrecorded⟩ | ⟨-, hrecorded⟩
    · rw [hrecorded]
      exact hsettled u List.mem_cons_self recorded h
    · rw [hrecorded]
      exact h

end Turn
end KafkaTopology
