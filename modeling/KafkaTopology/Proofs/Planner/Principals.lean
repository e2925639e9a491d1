import KafkaTopology.Proofs.Cluster.History
import KafkaTopology.Proofs.State.Items
/-!
# Principals of bindings

Bindings follow from the roles of members and instances, accounts from a list of their principals.
Both name the same principals (`Topology.exists_account`), and a plan that manages accounts makes
them before the bindings that need them and gives them up after those: between any two of its
actions each binding has an account (`Topology.throughout_accounted`).
-/
namespace KafkaTopology

/-! ## Properties on the way -/

/-- A property holds of a state and after each of the effects that follow. -/
def State.Throughout (P : State → Prop) : State → List Effect → Prop
  | s, [] => P s
  | s, e :: es => P s ∧ Throughout P (s.apply e) es

namespace State

variable {P : State → Prop} {s : State} {es fs : List Effect}

theorem Throughout.start (h : s.Throughout P es) : P s := by
  cases es with
  | nil => exact h
  | cons e es => exact h.1

/-- A property that holds throughout holds after each first part of the effects. -/
theorem Throughout.applyAll (h : s.Throughout P es) {done : List Effect} (hdone : done <+: es) :
    P (s.applyAll done) := by
  induction done generalizing s es with
  | nil => exact h.start
  | cons e done ih =>
    obtain ⟨rest, rfl⟩ := hdone
    exact ih h.2 (List.prefix_append done rest)

theorem Throughout.append (h : s.Throughout P es) (h' : (s.applyAll es).Throughout P fs) :
    s.Throughout P (es ++ fs) := by
  induction es generalizing s with
  | nil => exact h'
  | cons e es ih => exact ⟨h.1, ih h.2 h'⟩

theorem throughout_nil (h : P s) : s.Throughout P [] := h

theorem throughout_single {e : Effect} (h : P s) (h' : P (s.apply e)) : s.Throughout P [e] :=
  ⟨h, h'⟩

/-- A property that each of the effects keeps holds throughout. -/
theorem throughout_of_forall (hkeep : ∀ e ∈ es, ∀ r, P r → P (r.apply e)) (h : P s) :
    s.Throughout P es := by
  induction es generalizing s with
  | nil => exact h
  | cons e es ih =>
    exact ⟨h, ih (fun f hf => hkeep f (List.mem_cons_of_mem e hf))
      (hkeep e List.mem_cons_self s h)⟩

end State

/-! ## Who a binding is for -/

@[simp]
theorem Acl.Binding.principal_literal (resource : Resource) (name principal : String)
    (operation : Operation) : (literal resource name principal operation).principal = principal :=
  rfl

@[simp]
theorem Acl.Binding.principal_startingWith (resource : Resource) (name principal : String)
    (operation : Operation) :
    (startingWith resource name principal operation).principal = principal := rfl

theorem Consumer.principal_bindings (q : String) (m : Consumer) :
    ∀ b ∈ m.bindings q, b.principal = m.principal := by
  simp [bindings]

theorem Producer.principal_bindings (q : String) (m : Producer) :
    ∀ b ∈ m.bindings q, b.principal = m.principal := by
  rw [bindings]
  cases m.transactionId <;> cases m.idempotence.getD false <;> simp

theorem TopicAccess.principal_bindings (principal : String) (a : TopicAccess) :
    ∀ b ∈ a.bindings principal, b.principal = principal := by
  simp [bindings, or_imp, forall_and]

theorem StreamApp.principal_bindings (q : String) (m : StreamApp) :
    ∀ b ∈ m.bindings q, b.principal = m.principal := by
  simpa [bindings, or_imp, forall_and] using m.topics.principal_bindings m.principal

theorem ConnectorMember.principal_bindings (m : ConnectorMember) :
    ∀ b ∈ m.bindings, b.principal = m.principal := by
  simpa [bindings, or_imp, forall_and] using m.topics.principal_bindings m.principal

theorem ConnectInstance.principal_bindings (i : ConnectInstance) :
    ∀ b ∈ i.bindings, b.principal = i.principal := by
  simp [bindings]

theorem RegistryInstance.principal_bindings (i : RegistryInstance) :
    ∀ b ∈ i.bindings, b.principal = i.principal := by
  simp [bindings]

theorem ControlCenterInstance.principal_bindings (i : ControlCenterInstance) :
    ∀ b ∈ i.bindings, b.principal = i.principal := by
  simp [bindings]

/-- Members of any role are listed among the principals of their project. -/
theorem Project.principal_bindings (p : Project) : ∀ b ∈ p.bindings, b.principal ∈ p.principals := by
  intro b hb
  simp only [bindings, List.mem_append, List.mem_flatMap] at hb
  simp only [principals, List.mem_append, List.mem_map]
  rcases hb with ((⟨m, hm, hb⟩ | ⟨m, hm, hb⟩) | ⟨m, hm, hb⟩) | ⟨m, hm, hb⟩
  · exact .inl (.inl (.inl (.inl ⟨m, hm, (m.principal_bindings _ b hb).symm⟩)))
  · exact .inl (.inl (.inl (.inr ⟨m, hm, (m.principal_bindings _ b hb).symm⟩)))
  · exact .inl (.inl (.inr ⟨m, hm, (m.principal_bindings _ b hb).symm⟩))
  · exact .inl (.inr ⟨m, hm, (m.principal_bindings b hb).symm⟩)

theorem Platform.principal_bindings (p : Platform) :
    ∀ b ∈ p.bindings, b.principal ∈ p.principals := by
  intro b hb
  simp only [bindings, List.mem_append, List.mem_flatMap] at hb
  simp only [principals, List.mem_append, List.mem_map]
  rcases hb with (⟨i, hi, hb⟩ | ⟨i, hi, hb⟩) | ⟨i, hi, hb⟩
  · exact .inl (.inl ⟨i, hi, (i.principal_bindings b hb).symm⟩)
  · exact .inl (.inr ⟨i, hi, (i.principal_bindings b hb).symm⟩)
  · exact .inr ⟨i, hi, (i.principal_bindings b hb).symm⟩

/-- Each binding that a topology asks for is for the principal of an account that it asks for. -/
theorem Topology.exists_account (t : Topology) :
    ∀ b ∈ t.bindings, ∃ a ∈ t.accounts, a.principal = b.principal := by
  intro b hb
  have hlisted : b.principal ∈ t.projects.flatMap (·.principals) ++ t.platform.principals := by
    rcases List.mem_append.1 (OrderedSet.mem_ofList.1 hb) with hb | hb
    · obtain ⟨p, hp, hb⟩ := List.mem_flatMap.1 hb
      exact List.mem_append_left _ (List.mem_flatMap.2 ⟨p, hp, p.principal_bindings b hb⟩)
    · exact List.mem_append_right _ (t.platform.principal_bindings b hb)
  rw [← Account.isSome_find?_iff, accounts, OrderedSet.find?_ofList, List.find?_isSome]
  refine ⟨.ofPrincipal b.principal, List.mem_reverse.2 (List.mem_map_of_mem hlisted), ?_⟩
  rw [Account.compare_eq_iff.2 rfl]
  rfl

/-! ## Accounts in time -/

/-- Whether each binding is for the principal of some account. -/
def State.Accounted (s : State) : Prop :=
  ∀ b ∈ s.bindings, ∃ a ∈ s.accounts, a.principal = b.principal

instance (s : State) : Decidable s.Accounted :=
  inferInstanceAs (Decidable (∀ b ∈ s.bindings.toList, ∃ a ∈ s.accounts.toList,
    a.principal = b.principal))

namespace State

variable {s : State}

theorem accounted_empty : State.empty.Accounted := fun _ hb => absurd hb List.not_mem_nil

/-- Bindings and accounts are all that matters. -/
theorem Accounted.congr {r : State} (h : s.Accounted) (hbindings : r.bindings = s.bindings)
    (haccounts : r.accounts = s.accounts) : r.Accounted := by
  rw [Accounted, hbindings, haccounts]
  exact h

/-- An account stays when others are added. -/
theorem Accounted.addAccounts (h : s.Accounted) (accounts : List Account) :
    (s.addAccounts accounts).Accounted := by
  intro b hb
  have hfind := Account.isSome_find?_iff.2 (h b hb)
  rw [← Account.isSome_find?_iff]
  show ((s.accounts.insertAll accounts).find? _).isSome = true
  rw [OrderedSet.find?_insertAll, Option.isSome_or, hfind, Bool.true_or]

theorem Accounted.addBindings (h : s.Accounted) {bs : List Acl.Binding}
    (hbs : ∀ b ∈ bs, ∃ a ∈ s.accounts, a.principal = b.principal) :
    (s.addBindings bs).Accounted := by
  intro b hb
  rcases OrderedSet.mem_insertAll.1 hb with hb | hb
  · exact h b hb
  · exact hbs b hb

theorem Accounted.removeBindings (h : s.Accounted) (bs : List Acl.Binding) :
    (s.removeBindings bs).Accounted :=
  fun b hb => h b (OrderedSet.mem_eraseAll.1 hb).1

/-- Effects that concern topics and artefacts only. -/
def Aside (es : List Effect) : Prop := ∀ e ∈ es, e.onBindings = none ∧ e.onAccounts = none

theorem Aside.applyAll {es : List Effect} (h : Aside es) (s : State) :
    (s.applyAll es).bindings = s.bindings ∧ (s.applyAll es).accounts = s.accounts := by
  have hbindings : es.filterMap Effect.onBindings = [] :=
    List.filterMap_eq_nil_iff.2 fun e he => (h e he).1
  have haccounts : es.filterMap Effect.onAccounts = [] :=
    List.filterMap_eq_nil_iff.2 fun e he => (h e he).2
  rw [applyAll_eq, hbindings, haccounts]
  exact ⟨rfl, rfl⟩

theorem Aside.throughout {es : List Effect} (h : Aside es) (hs : s.Accounted) :
    s.Throughout Accounted es := by
  refine throughout_of_forall (fun e he r hr => ?_) hs
  have hone : Aside [e] := fun f hf => h f (List.mem_singleton.1 hf ▸ he)
  obtain ⟨hbindings, haccounts⟩ := hone.applyAll r
  exact hr.congr hbindings haccounts

end State

/-! ## The groups of a plan -/

theorem OrderedSet.eraseAll_nil {α : Type} [Ord α] [Std.TransOrd α] (s : OrderedSet α) :
    s.eraseAll [] = s :=
  ext_find? fun z => by
    rw [find?_eraseAll]
    rfl

theorem State.removeBindings_nil (s : State) : s.removeBindings [] = s := by
  rw [removeBindings, OrderedSet.eraseAll_nil]

theorem State.removeAccounts_nil (s : State) : s.removeAccounts [] = s := by
  rw [removeAccounts, OrderedSet.eraseAll_nil]

section
variable {α : Type} (make : List α → Action) {s : State} (xs : List α)

theorem throughout_actionOn {P : State → Prop} (h : P s) (h' : P (s.apply (make xs).effect)) :
    s.Throughout P ((actionOn make true xs).map (·.effect)) := by
  cases xs with
  | nil => exact State.throughout_nil h
  | cons x xs => exact State.throughout_single h h'

theorem applyAll_actionOn (hmake : s.apply (make []).effect = s) :
    s.applyAll ((actionOn make true xs).map (·.effect)) = s.apply (make xs).effect := by
  cases xs with
  | nil => exact hmake.symm
  | cons x xs => rfl

end

namespace Topology

variable {t : Topology} {options : PlanOptions} {recorded : State}

/-- What a plan adds to the recorded accounts makes up for all desired ones. -/
theorem exists_account_created {p : String} (h : ∃ a ∈ t.accounts, a.principal = p) :
    ∃ a ∈ recorded.accounts.insertAll (t.accounts.difference recorded.accounts).create,
      a.principal = p := by
  rw [← Account.isSome_find?_iff] at h ⊢
  rw [OrderedSet.find?_insertAll, OrderedSet.find?_create]
  cases hfind : recorded.accounts.find? (.ofPrincipal p) with
  | none => simpa using h
  | some a => rfl

/-- Settled accounts have the principals of the desired ones. -/
theorem exists_account_preferring {p : String} (h : ∃ a ∈ t.accounts, a.principal = p) :
    ∃ a ∈ t.accounts.preferring recorded.accounts, a.principal = p := by
  rw [← Account.isSome_find?_iff] at h ⊢
  rw [OrderedSet.find?_preferring, Option.isSome_map]
  exact h

/-- The actions that make accounts and bring the bindings in line. -/
def grants (t : Topology) (recorded : State) : List Action :=
  actionOn .createAccounts true (t.accounts.difference recorded.accounts).create ++
    (actionOn .createBindings true (t.bindings.difference recorded.bindings).create ++
      actionOn .clearBindings true (t.bindings.difference recorded.bindings).delete)

theorem throughout_grants {s : State} (hs : s.Accounted)
    (haccounts : s.accounts = recorded.accounts) :
    s.Throughout State.Accounted ((t.grants recorded).map (·.effect)) := by
  rw [grants, List.map_append, List.map_append]
  -- All desired accounts are there before any binding is added.
  have hs₁ := hs.addAccounts (t.accounts.difference recorded.accounts).create
  refine (throughout_actionOn .createAccounts _ hs hs₁).append ?_
  rw [applyAll_actionOn .createAccounts _ rfl]
  have hcreated : ∀ b ∈ (t.bindings.difference recorded.bindings).create,
      ∃ a ∈ s.accounts.insertAll (t.accounts.difference recorded.accounts).create,
        a.principal = b.principal := by
    intro b hb
    rw [haccounts]
    exact exists_account_created (t.exists_account b (OrderedSet.mem_create.1 hb).1)
  have hs₂ := hs₁.addBindings hcreated
  refine (throughout_actionOn .createBindings _ hs₁ hs₂).append ?_
  rw [applyAll_actionOn .createBindings _ rfl]
  exact throughout_actionOn .clearBindings _ hs₂ (hs₂.removeBindings _)

theorem applyAll_grants {s : State} (hbindings : s.bindings = recorded.bindings)
    (haccounts : s.accounts = recorded.accounts) :
    (s.applyAll ((t.grants recorded).map (·.effect))).bindings = t.bindings ∧
      (s.applyAll ((t.grants recorded).map (·.effect))).accounts =
        recorded.accounts.insertAll (t.accounts.difference recorded.accounts).create := by
  rw [grants, List.map_append, List.map_append, State.applyAll_append, State.applyAll_append,
    applyAll_actionOn .createAccounts _ rfl, applyAll_actionOn .createBindings _ rfl,
    applyAll_actionOn .clearBindings _ (State.removeBindings_nil _)]
  constructor
  · show (s.bindings.insertAll _).eraseAll _ = _
    rw [hbindings, OrderedSet.eraseAll_insertAll_difference, OrderedSet.preferring_eq_self]
  · show s.accounts.insertAll _ = _
    rw [haccounts]

/-- **No binding without an account.** If accounts are managed, each binding has an account before
the first action of a plan, between any two, and after the last. -/
theorem throughout_accounted (hmanaged : options.managesAccounts = true)
    (h : recorded.Accounted) :
    recorded.Throughout State.Accounted ((t.actions options recorded).map (·.effect)) := by
  have hactions : t.actions options recorded =
      t.topics.map (fun topic => .syncTopic topic.fullName topic.config) ++ (t.grants recorded ++
        ((t.artefacts.difference recorded.artefacts).delete.map .deleteArtefact ++
          (t.artefacts.difference recorded.artefacts).create.map .createArtefact ++
        (actionOn .clearAccounts true (t.accounts.difference recorded.accounts).delete ++
          actionOn .deleteTopics options.deletesTopics
            (t.topicSet.difference recorded.topics).delete))) := by
    simp only [actions, grants, hmanaged, List.append_assoc]
  have htopics : State.Aside ((t.topics.map fun topic =>
      Action.syncTopic topic.fullName topic.config).map (·.effect)) := by
    simp [State.Aside, Action.effect, Effect.onBindings, Effect.onAccounts]
  have hartefacts : State.Aside (((t.artefacts.difference recorded.artefacts).delete.map
      Action.deleteArtefact ++ (t.artefacts.difference recorded.artefacts).create.map
      Action.createArtefact).map (·.effect)) := by
    simp [State.Aside, Action.effect, Effect.onBindings, Effect.onAccounts, or_imp, forall_and]
  have hgivenUp : State.Aside ((actionOn .deleteTopics options.deletesTopics
      (t.topicSet.difference recorded.topics).delete).map (·.effect)) := by
    rw [actionOn]
    split <;> simp [State.Aside, Action.effect, Effect.onBindings, Effect.onAccounts]
  rw [hactions, List.map_append]
  refine (htopics.throughout h).append ?_
  obtain ⟨hbindings, haccounts⟩ := htopics.applyAll recorded
  have hs := h.congr hbindings haccounts
  generalize recorded.applyAll _ = s at hbindings haccounts hs ⊢
  rw [List.map_append]
  have hgrants := throughout_grants (t := t) hs haccounts
  refine hgrants.append ?_
  obtain ⟨hbindings, haccounts⟩ := applyAll_grants (t := t) hbindings haccounts
  have hs := hgrants.applyAll List.prefix_rfl
  generalize s.applyAll _ = s₁ at hbindings haccounts hs ⊢
  rw [List.map_append]
  refine (hartefacts.throughout hs).append ?_
  obtain ⟨hbindings₁, haccounts₁⟩ := hartefacts.applyAll s₁
  have hs := hs.congr hbindings₁ haccounts₁
  rw [hbindings] at hbindings₁
  rw [haccounts] at haccounts₁
  generalize s₁.applyAll _ = s₂ at hbindings₁ haccounts₁ hs ⊢
  -- The accounts that go are not needed: every binding is a desired one by now.
  rw [List.map_append]
  have hsettled : (s₂.removeAccounts
      (t.accounts.difference recorded.accounts).delete).Accounted := by
    intro b hb
    obtain ⟨a, ha⟩ := exists_account_preferring (t.exists_account b (hbindings₁ ▸ hb))
    refine ⟨a, ?_, ha.2⟩
    show a ∈ s₂.accounts.eraseAll _
    rw [haccounts₁, OrderedSet.eraseAll_insertAll_difference]
    exact ha.1
  refine (throughout_actionOn .clearAccounts _ hs hsettled).append ?_
  rw [applyAll_actionOn .clearAccounts _ (State.removeAccounts_nil _)]
  exact hgivenUp.throughout hsettled

/-- A plan that manages accounts leads to a state in which each binding has one. -/
theorem accounted_settled (hmanaged : options.managesAccounts = true) (h : recorded.Accounted) :
    (t.settled options recorded).Accounted := by
  rw [← applyAll_actions]
  exact (throughout_accounted hmanaged h).applyAll List.prefix_rfl

end Topology

/-- **No principal is left dangling.** Let accounts be managed and let each binding of a plan's state
be for the principal of some account. When the plan is populated for `t`, then after any number of
its steps each binding is still for the principal of some account. So it is for everything that is
recorded in a history of applies from the empty state, whichever of them succeed. -/
theorem Plan.principals_never_dangle {ω : Type} (admin : Admin ω) (t : Topology)
    (options : PlanOptions) (hmanaged : options.managesAccounts = true) {p : Plan ω}
    (hp : p.steps = []) (h : ∀ b ∈ p.state.bindings, ∃ a ∈ p.state.accounts,
      a.principal = b.principal) :
    (∀ done, done <+: (p.populate admin options t).steps →
      ∀ b ∈ (p.state.applyAll (done.map (·.effect))).bindings,
        ∃ a ∈ (p.state.applyAll (done.map (·.effect))).accounts, a.principal = b.principal) ∧
    ∀ us : List Turn, (∀ u ∈ us, u.options.managesAccounts = true) →
      ∀ b ∈ (Turn.recordedAfter .empty us).bindings,
        ∃ a ∈ (Turn.recordedAfter .empty us).accounts, a.principal = b.principal := by
  have hsteps : (p.populate admin options t).steps.map (·.effect) =
      (t.actions options p.state).map (·.effect) := by
    show (p.steps ++ (t.actions options p.state).map (·.toStep admin)).map _ = _
    rw [hp, List.nil_append, Topology.effects_steps]
  refine ⟨fun done hdone => ?_, fun us hus => ?_⟩
  · have hpre := hdone.map (·.effect)
    rw [hsteps] at hpre
    exact (Topology.throughout_accounted hmanaged h).applyAll hpre
  · exact Turn.recordedAfter_invariant
      (fun u hu _ hs => Topology.accounted_settled (hus u hu) hs) State.accounted_empty

/-! ## A handover -/

namespace Handover

/-- A topology with one reader. -/
def readers : Topology :=
  { (default : Topology) with
    projects := [{ (default : Project) with consumers := some [⟨"User:reader", none⟩] }] }

/-- A state with one writer. -/
def writers : State :=
  { State.empty with
    bindings := .ofList [.literal .topic "events" "User:writer" .write]
    accounts := .ofList [⟨"User:writer", some "writes"⟩] }

/-- A plan over the state with the writer. -/
def plan : Plan Rehearsal := ⟨[], ⟨writers, none⟩, .unlimited, writers⟩

/-- What is known after two steps from the writer to the reader. -/
def halfway : State :=
  let steps := (plan.populate (Rehearsal.admin none) ⟨false, true⟩ readers).steps
  writers.applyAll ((steps.take 2).map (·.effect))

end Handover

/-- A reader takes the place of a writer: halfway there are the bindings and accounts of both. -/
theorem Plan.principals_never_dangle_handover :
    Handover.writers.Accounted ∧ Handover.halfway.bindings.size = 4 ∧
      ∀ b ∈ Handover.halfway.bindings,
        ∃ a ∈ Handover.halfway.accounts, a.principal = b.principal := by
  have hwriters : Handover.writers.Accounted := by decide +kernel
  have hbindings : Handover.halfway.bindings.size = 4 := by decide +kernel
  obtain ⟨hbetween, -⟩ := Plan.principals_never_dangle (p := Handover.plan) (Rehearsal.admin none)
    Handover.readers ⟨false, true⟩ rfl rfl hwriters
  exact ⟨hwriters, hbindings, hbetween _ (List.take_prefix 2 _)⟩

end KafkaTopology
