import KafkaTopology.Proofs.Planner.Principals
/-!
# Who owns what is deleted

A plan deletes recorded entries that are not desired, and entries get on record only by the effects
of applies that succeeded. So whatever a plan deletes was created by an earlier apply of the history
and by none deleted since (`Turn.deletions_owned`). Topics and accounts are only touched by plans
that may delete or manage them.
-/
namespace KafkaTopology

/-- Whether a topology asks for an entry. -/
def Topology.Desires (t : Topology) : Item → Prop
  | .topic name => name ∈ t.topicSet
  | .binding b => b ∈ t.bindings
  | .account p => ∃ a ∈ t.accounts, a.principal = p
  | .artefact a => a ∈ t.artefacts

/-! ## What a plan creates and deletes -/

theorem mem_actionOn {α : Type} {make : List α → Action} {allowed : Bool} {entries : List α}
    {a : Action} (h : a ∈ actionOn make allowed entries) : allowed = true ∧ a = make entries := by
  rw [actionOn] at h
  split at h
  · next hif => exact ⟨(Bool.and_eq_true_iff.1 hif).1, List.mem_singleton.1 h⟩
  · exact absurd h List.not_mem_nil

namespace Topology

variable {t : Topology} {options : PlanOptions} {recorded : State} {a : Action} {i : Item}

/-- Every planned action is one of eight. -/
theorem mem_actions (h : a ∈ t.actions options recorded) :
    (∃ topic ∈ t.topics, a = .syncTopic topic.fullName topic.config) ∨
    (options.managesAccounts = true ∧
      a = .createAccounts (t.accounts.difference recorded.accounts).create) ∨
    a = .createBindings (t.bindings.difference recorded.bindings).create ∨
    a = .clearBindings (t.bindings.difference recorded.bindings).delete ∨
    (∃ x ∈ (t.artefacts.difference recorded.artefacts).delete, a = .deleteArtefact x) ∨
    (∃ x ∈ (t.artefacts.difference recorded.artefacts).create, a = .createArtefact x) ∨
    (options.managesAccounts = true ∧
      a = .clearAccounts (t.accounts.difference recorded.accounts).delete) ∨
    (options.deletesTopics = true ∧
      a = .deleteTopics (t.topicSet.difference recorded.topics).delete) := by
  simp only [actions, List.mem_append, List.mem_map] at h
  rcases h with ((((((⟨x, hx, rfl⟩ | h) | h) | h) | ⟨x, hx, rfl⟩) | ⟨x, hx, rfl⟩) | h) | h
  · exact .inl ⟨x, hx, rfl⟩
  · exact .inr (.inl (mem_actionOn h))
  · exact .inr (.inr (.inl (mem_actionOn h).2))
  · exact .inr (.inr (.inr (.inl (mem_actionOn h).2)))
  · exact .inr (.inr (.inr (.inr (.inl ⟨x, hx, rfl⟩))))
  · exact .inr (.inr (.inr (.inr (.inr (.inl ⟨x, hx, rfl⟩)))))
  · exact .inr (.inr (.inr (.inr (.inr (.inr (.inl (mem_actionOn h)))))))
  · exact .inr (.inr (.inr (.inr (.inr (.inr (.inr (mem_actionOn h)))))))

theorem deletesTopics_of_mem {names : List String}
    (h : .deleteTopics names ∈ t.actions options recorded) : options.deletesTopics = true := by
  rcases mem_actions h with ⟨_, -, h⟩ | ⟨-, h⟩ | h | h | ⟨_, -, h⟩ | ⟨_, -, h⟩ | ⟨-, h⟩ | ⟨hon, -⟩
  case inr.inr.inr.inr.inr.inr.inr => exact hon
  all_goals exact Action.noConfusion h

theorem managesAccounts_of_target (h : a ∈ t.actions options recorded)
    (htarget : a.effect.target = .accounts) : options.managesAccounts = true := by
  rcases mem_actions h with ⟨_, -, rfl⟩ | ⟨hon, -⟩ | rfl | rfl | ⟨_, -, rfl⟩ | ⟨_, -, rfl⟩ |
    ⟨hon, -⟩ | ⟨-, rfl⟩
  case inr.inl | inr.inr.inr.inr.inr.inr.inl => exact hon
  all_goals exact Target.noConfusion htarget

/-- Only desired entries are created. -/
theorem desires_of_created (ha : a ∈ t.actions options recorded) (hi : i ∈ a.effect.created) :
    t.Desires i := by
  rcases mem_actions ha with ⟨topic, htopic, rfl⟩ | ⟨-, rfl⟩ | rfl | rfl | ⟨x, hx, rfl⟩ |
    ⟨x, hx, rfl⟩ | ⟨-, rfl⟩ | ⟨-, rfl⟩
  · obtain rfl := List.mem_singleton.1 hi
    exact OrderedSet.mem_ofList.2 (List.mem_map_of_mem htopic)
  · obtain ⟨account, haccount, rfl⟩ := List.mem_map.1 hi
    exact ⟨account, (OrderedSet.mem_diff_iff.1 haccount).1, rfl⟩
  · obtain ⟨b, hb, rfl⟩ := List.mem_map.1 hi
    exact (OrderedSet.mem_create.1 hb).1
  · exact absurd hi List.not_mem_nil
  · exact absurd hi List.not_mem_nil
  · obtain rfl := List.mem_singleton.1 hi
    exact (OrderedSet.mem_create.1 hx).1
  · exact absurd hi List.not_mem_nil
  · exact absurd hi List.not_mem_nil

/-- Only recorded entries that are not desired are deleted. -/
theorem holds_of_deleted (ha : a ∈ t.actions options recorded) (hi : i ∈ a.effect.deleted) :
    recorded.Holds i ∧ ¬t.Desires i := by
  rcases mem_actions ha with ⟨topic, htopic, rfl⟩ | ⟨-, rfl⟩ | rfl | rfl | ⟨x, hx, rfl⟩ |
    ⟨x, hx, rfl⟩ | ⟨-, rfl⟩ | ⟨-, rfl⟩
  · exact absurd hi List.not_mem_nil
  · exact absurd hi List.not_mem_nil
  · exact absurd hi List.not_mem_nil
  · obtain ⟨b, hb, rfl⟩ := List.mem_map.1 hi
    exact OrderedSet.mem_delete.1 hb
  · obtain rfl := List.mem_singleton.1 hi
    exact OrderedSet.mem_delete.1 hx
  · exact absurd hi List.not_mem_nil
  · obtain ⟨account, haccount, rfl⟩ := List.mem_map.1 hi
    obtain ⟨hrecorded, hmissing⟩ := OrderedSet.mem_diff_iff.1 haccount
    exact ⟨⟨account, hrecorded, rfl⟩, fun ⟨other, hother, hprincipal⟩ =>
      hmissing other hother (Account.compare_eq_iff.2 hprincipal.symm)⟩
  · obtain ⟨n, hn, rfl⟩ := List.mem_map.1 hi
    exact OrderedSet.mem_delete.1 hn

/-- **One plan at a time.** What is on record once a plan has been carried out was created by the
plan or was on record before, and the plan did not delete it. -/
theorem holds_settled (h : (t.settled options recorded).Holds i) :
    ((∃ a ∈ t.actions options recorded, i ∈ a.effect.created) ∨ recorded.Holds i) ∧
      ∀ a ∈ t.actions options recorded, i ∉ a.effect.deleted := by
  rw [← applyAll_actions] at h
  by_cases hcreated : ∃ a ∈ t.actions options recorded, i ∈ a.effect.created
  · obtain ⟨a, ha, hi⟩ := hcreated
    exact ⟨.inl ⟨a, ha, hi⟩, fun b hb hdeleted =>
      (holds_of_deleted hb hdeleted).2 (desires_of_created ha hi)⟩
  · have hnone : ∀ e ∈ (t.actions options recorded).map (·.effect), i ∉ e.created :=
      List.forall_mem_map.2 fun a ha hi => hcreated ⟨a, ha, hi⟩
    have hkept := State.not_deleted_of_applyAll h hnone
    rcases State.holds_or_created_of_applyAll h with h | ⟨e, he, hi⟩
    · exact ⟨.inr h, fun a ha => hkept _ (List.mem_map_of_mem ha)⟩
    · exact absurd hi (hnone e he)

end Topology

/-! ## Histories -/

/-- An entry is owned after runs: one of them created it, and neither that one nor any after it
deleted it. -/
def Owned (runs : List (List Action)) (i : Item) : Prop :=
  ∃ before run after, runs = before ++ run :: after ∧ (∃ a ∈ run, i ∈ a.effect.created) ∧
    ∀ r ∈ run :: after, ∀ a ∈ r, i ∉ a.effect.deleted

/-- An entry that is owned stays so if the next run does not delete it. -/
theorem Owned.concat {runs : List (List Action)} {i : Item} (h : Owned runs i)
    {run : List Action} (hrun : ∀ a ∈ run, i ∉ a.effect.deleted) : Owned (runs ++ [run]) i := by
  obtain ⟨before, creator, after, rfl, hcreated, hkept⟩ := h
  refine ⟨before, creator, after ++ [run], by simp, hcreated, fun r hr => ?_⟩
  rcases List.mem_append.1 (List.cons_append ▸ hr : r ∈ (creator :: after) ++ [run]) with hr | hr
  · exact hkept r hr
  · exact List.mem_singleton.1 hr ▸ hrun

namespace Turn

/-- The actions of the applies that succeed, apply by apply. -/
def carriedOut (recorded : State) : List Turn → List (List Action)
  | [] => []
  | u :: us =>
    (if u.succeeds recorded then [u.actions recorded] else []) ++
      carriedOut (u.applied recorded).recorded us

theorem carriedOut_concat (recorded : State) (us : List Turn) (u : Turn) :
    carriedOut recorded (us ++ [u]) = carriedOut recorded us ++
      if u.succeeds (recordedAfter recorded us) then [u.actions (recordedAfter recorded us)]
      else [] := by
  induction us generalizing recorded with
  | nil => exact List.append_nil _
  | cons v us ih =>
    rw [List.cons_append, carriedOut, carriedOut, ih, List.append_assoc]
    rfl

/-- Whatever is on record after a history from the empty state is owned. -/
theorem owned_of_recorded (us : List Turn) {i : Item}
    (h : (recordedAfter .empty us).Holds i) : Owned (carriedOut .empty us) i := by
  induction us using List.reverseRecOn with
  | nil => exact absurd h (State.not_holds_empty i)
  | append_singleton us u ih =>
    rw [recordedAfter_concat] at h
    rw [carriedOut_concat]
    rcases u.recorded_cases (recordedAfter .empty us) with
      ⟨hsucceeds, hrecorded⟩ | ⟨hfails, hrecorded⟩ <;> rw [hrecorded] at h
    · rw [if_pos hsucceeds]
      obtain ⟨hcreated | hbefore, hkept⟩ := Topology.holds_settled h
      · refine ⟨_, _, [], rfl, hcreated, fun r hr => ?_⟩
        exact List.mem_singleton.1 hr ▸ hkept
      · exact (ih hbefore).concat hkept
    · rw [if_neg (Bool.eq_false_iff.1 hfails), List.append_nil]
      exact ih h

/-- **Only what was created is deleted, and only where it is allowed.** After any applies from the
empty state, successful or not, let another apply be planned. Each entry that the plan deletes was
created by an apply that succeeded, was deleted by none since, and is not desired. Unless topics may
be deleted, no topic is, and none is lost from the record. Unless accounts are managed, no action
touches one, and the recorded accounts stay what they are, their descriptions included. -/
theorem deletions_owned (us : List Turn) (u : Turn) :
    (∀ a ∈ u.actions (recordedAfter .empty us), ∀ i ∈ a.effect.deleted,
      Owned (carriedOut .empty us) i ∧ ¬u.topology.Desires i) ∧
    (u.options.deletesTopics = false →
      (∀ names, .deleteTopics names ∉ u.actions (recordedAfter .empty us)) ∧
      ∀ n ∈ (recordedAfter .empty us).topics, n ∈ (recordedAfter .empty (us ++ [u])).topics) ∧
    (u.options.managesAccounts = false →
      (∀ a ∈ u.actions (recordedAfter .empty us), a.effect.target ≠ .accounts) ∧
      (recordedAfter .empty (us ++ [u])).accounts = (recordedAfter .empty us).accounts) := by
  rw [recordedAfter_concat]
  have hrecorded := u.recorded_cases (recordedAfter .empty us)
  refine ⟨fun a ha i hi => ?_, fun hoff => ⟨fun names hnames => ?_, fun n hn => ?_⟩,
    fun hoff => ⟨fun a ha htarget => ?_, ?_⟩⟩
  · obtain ⟨hholds, hdesired⟩ := Topology.holds_of_deleted ha hi
    exact ⟨owned_of_recorded us hholds, hdesired⟩
  · exact Bool.eq_false_iff.1 hoff (Topology.deletesTopics_of_mem hnames)
  · rcases hrecorded with ⟨-, h⟩ | ⟨-, h⟩ <;> rw [h]
    · show n ∈ if u.options.deletesTopics = true then _ else _
      rw [if_neg (Bool.eq_false_iff.1 hoff), OrderedSet.mem_union]
      exact .inl hn
    · exact hn
  · exact Bool.eq_false_iff.1 hoff (Topology.managesAccounts_of_target ha htarget)
  · rcases hrecorded with ⟨-, h⟩ | ⟨-, h⟩ <;> rw [h]
    exact if_neg (Bool.eq_false_iff.1 hoff)

end Turn
end KafkaTopology
