import KafkaTopology.Proofs.Planner.Convergence
import KafkaTopology.Proofs.Topology.Widening
/-!
# The order of projects, members and instances

Documents that differ in the order of their projects, and in the order of their members and
instances and how often these are listed, ask for the same (`Rearranges.exists_alike`). What is
planned for them then differs in the order in which topics are brought in line, and what is
committed does not differ at all.
-/
namespace KafkaTopology

variable {ω : Type}

/-- The action that brings a topic in line. -/
def Topic.sync (topic : Topic) : Action := .syncTopic topic.fullName topic.config

namespace Topology

/-! ## Topologies that ask for the same -/

/-- Whether two topologies ask for the same, with their topics in any order. -/
structure AsksAlike (t t' : Topology) : Prop where
  bindings : t.bindings = t'.bindings
  accounts : t.accounts = t'.accounts
  topicSet : t.topicSet = t'.topicSet
  artefacts : t.artefacts = t'.artefacts
  topics : t.topics.Perm t'.topics

namespace AsksAlike
variable {t t' t'' : Topology}

theorem symm (h : t.AsksAlike t') : t'.AsksAlike t :=
  ⟨h.bindings.symm, h.accounts.symm, h.topicSet.symm, h.artefacts.symm, h.topics.symm⟩

theorem trans (h : t.AsksAlike t') (h' : t'.AsksAlike t'') : t.AsksAlike t'' :=
  ⟨h.bindings.trans h'.bindings, h.accounts.trans h'.accounts, h.topicSet.trans h'.topicSet,
    h.artefacts.trans h'.artefacts, h.topics.trans h'.topics⟩

end AsksAlike

theorem topicSet_congr {t t' : Topology} (h : t.topics.Perm t'.topics) :
    t.topicSet = t'.topicSet :=
  OrderedSet.ext_mem fun n => by
    rw [topicSet, topicSet, OrderedSet.mem_ofList, OrderedSet.mem_ofList, topicNames, topicNames,
      (h.map _).mem_iff]

/-- Topologies that are within each other ask for the same. -/
theorem Within.asksAlike {t t' : Topology} (h : t.Within t') (h' : t'.Within t) :
    t.AsksAlike t' where
  bindings := OrderedSet.ext_mem fun b => ⟨h.bindings b, h'.bindings b⟩
  accounts := OrderedSet.ext_mem fun a => ⟨h.accounts a, h'.accounts a⟩
  topicSet := topicSet_congr (h.topics ▸ .refl _)
  artefacts := OrderedSet.ext_mem fun a => ⟨h.artefacts a, h'.artefacts a⟩
  topics := h.topics ▸ .refl _

/-- The order of the projects does not matter. -/
theorem asksAlike_of_perm {t : Topology} {projects : List Project}
    (h : projects.Perm t.projects) : AsksAlike { t with projects } t := by
  have htopics : (projects.flatMap (·.topics)).Perm t.topics := h.flatMap_right _
  refine ⟨OrderedSet.ext_mem fun b => ?_, OrderedSet.ext_mem fun a => ?_, topicSet_congr htopics,
    OrderedSet.ext_mem fun a => ?_, htopics⟩
  · simp only [mem_bindings, h.mem_iff]
  · simp only [mem_accounts, h.mem_iff]
  · simp only [mem_artefacts, h.mem_iff]

/-! ## Documents in another order -/

/-- Whether documents differ only in the order of their projects, or only in the order of members,
principals of roles and instances and how often these are listed, or in several such ways. -/
inductive Rearranges : Document → Document → Prop where
  | projects {root root' : Entries} {items items' : List Document} (hframe : SameFrame root root')
    (hitems : Entries.get? "projects" root = some (.list items))
    (hitems' : Entries.get? "projects" root' = some (.list items')) (hperm : items.Perm items') :
    Rearranges (.mapping root) (.mapping root')
  | members {root root' : Entries} (hd : (Document.mapping root).Distinct)
    (hd' : (Document.mapping root').Distinct) (h : WidensRoot root root')
    (h' : WidensRoot root' root) : Rearranges (.mapping root) (.mapping root')
  | trans {d d' d'' : Document} (h : Rearranges d d') (h' : Rearranges d' d'') : Rearranges d d''

namespace Rearranges
variable {naming : Naming} {d d' : Document}

theorem symm (h : Rearranges d d') : Rearranges d' d := by
  induction h with
  | projects hframe hitems hitems' hperm =>
    exact .projects hframe.symm hitems' hitems hperm.symm
  | members hd hd' h h' => exact .members hd' hd h' h
  | trans _ _ ih ih' => exact .trans ih' ih

/-- A rearranged document is accepted if the other one is, and asks for the same. -/
theorem exists_alike (h : Rearranges d d') {t' : Topology} (ht' : ofDocument naming d' = .ok t') :
    ∃ t, ofDocument naming d = .ok t ∧ t.AsksAlike t' := by
  induction h generalizing t' with
  | projects hframe hitems hitems' hperm =>
    obtain ⟨_, hlisted, hread⟩ := exists_items ht'
    cases hitems'.symm.trans hlisted
    obtain ⟨projects, hprojects, hperm⟩ := exists_mapM_perm hperm hread
    refine ⟨_, hframe.symm.exists_ofDocument ht' hitems hprojects fun p hp => ?_,
      asksAlike_of_perm hperm⟩
    exact isLegal_of_ofDocument ht' p (hperm.mem_iff.1 hp)
  | members hd hd' h h' =>
    obtain ⟨t, ht, hwithin⟩ := h.exists_within hd hd' ht'
    obtain ⟨u, hu, hwithin'⟩ := h'.exists_within hd' hd ht
    obtain rfl : u = t' := Except.ok.inj (hu.symm.trans ht')
    exact ⟨t, ht, hwithin.asksAlike hwithin'⟩
  | trans _ _ ih ih' =>
    obtain ⟨u, hu, halike'⟩ := ih' ht'
    obtain ⟨t, ht, halike⟩ := ih hu
    exact ⟨t, ht, halike.trans halike'⟩

theorem isOk_eq (h : Rearranges d d') :
    (ofDocument naming d).isOk = (ofDocument naming d').isOk := by
  refine Bool.eq_iff_iff.2 ?_
  rw [Except.isOk_iff, Except.isOk_iff]
  exact ⟨fun ⟨_, ht⟩ => (h.symm.exists_alike ht).imp fun _ => And.left,
    fun ⟨_, ht'⟩ => (h.exists_alike ht').imp fun _ => And.left⟩

theorem asksAlike (h : Rearranges d d') {t t' : Topology} (ht : ofDocument naming d = .ok t)
    (ht' : ofDocument naming d' = .ok t') : t.AsksAlike t' := by
  obtain ⟨u, hu, halike⟩ := h.exists_alike ht'
  obtain rfl : u = t := Except.ok.inj (hu.symm.trans ht)
  exact halike

end Rearranges

/-! ## Plans -/

/-- Whether plans for two topologies differ in the order in which topics are brought in line, and
in nothing else, whichever plan they are added to. -/
def PlansAlike (options : PlanOptions) (t t' : Topology) : Prop :=
  t.topics.Perm t'.topics ∧ ∀ (ω : Type) (admin : Admin ω) (p : Plan ω), ∃ rest : List Action,
    (p.populate admin options t).steps =
      p.steps ++ (t.topics.map Topic.sync ++ rest).map (·.toStep admin) ∧
    (p.populate admin options t').steps =
      p.steps ++ (t'.topics.map Topic.sync ++ rest).map (·.toStep admin)

/-- Whether every execution of a plan for a topology over a recorded state commits one state, if it
ends well at all: the state is the plan's afterwards, and the last that its medium has saved. -/
def CommitsOnly (t : Topology) (options : PlanOptions) (recorded committed : State) : Prop :=
  ∀ (ω : Type) (medium : Medium ω) (admin : Admin ω) (p applied : Plan ω) (summary : RunSummary)
    (w w' : ω), p.steps = [] → p.state = recorded →
    ((p.populate admin options t).run medium false).run w = ((.ok summary, applied), w') →
    applied.state = committed ∧
      ∃ w₁ writtenAt, (medium.save committed).on w₁ = (.ok writtenAt, w')

theorem commitsOnly_settled (t : Topology) (options : PlanOptions) (recorded : State) :
    t.CommitsOnly options recorded (t.settled options recorded) := by
  rintro ω medium admin p applied summary w w' hsteps rfl hrun
  have hpopulated : (p.populate admin options t).steps =
      (t.actions options p.state).map (·.toStep admin) := by
    rw [Plan.populate, Plan.addAll, hsteps, List.nil_append]
  have hstate : (p.populate admin options t).state = p.state := rfl
  rw [Plan.run, if_neg Bool.false_ne_true, Plan.runAll_run, hpopulated, hstate] at hrun
  rcases hexecute : (Plan.execute ((t.actions options p.state).map (·.toStep admin)) p.state
    (.start false)).run w with ⟨e | ⟨s, counted⟩, w₁⟩
  · rw [hexecute] at hrun
    cases hrun
  · obtain ⟨-, hs, -⟩ := Plan.execute_ok hexecute
    rw [effects_steps, applyAll_actions] at hs
    simp only [hexecute, Plan.commit_run] at hrun
    rcases hsave : (medium.save s).on w₁ with ⟨f | writtenAt, w₂⟩
    · rw [hsave] at hrun
      cases hrun
    · rw [hsave] at hrun
      cases hrun
      subst hs
      exact ⟨rfl, w₁, writtenAt, hsave⟩

/-- Whether a plan that is made for a topology over what a desk holds runs well and commits a
state. -/
def Commits (t : Topology) (options : PlanOptions) (admin : Admin ω) (d : Desk ω)
    (committed : State) : Prop :=
  ∀ sink, ∃ plan applied summary d',
    (Plan.init Desk.medium sink).run.run d = (.ok plan, d) ∧
    ((plan.populate admin.outer options t).run Desk.medium false).run d =
      ((.ok summary, applied), d') ∧
    applied.state = committed ∧ d'.store.stored = committed

theorem commits_of_succeed (t : Topology) (options : PlanOptions) (admin : Admin ω)
    (recorded : State) (w : ω)
    (h : Plan.Succeed ((t.actions options recorded).map (·.toStep admin)) w) :
    t.Commits options admin (.holding recorded w) (t.settled options recorded) := by
  intro sink
  obtain ⟨summary, w', hrun⟩ := t.run_populate options admin (d := Desk.holding recorded w)
    (p := ⟨[], ⟨recorded, none⟩, sink, recorded⟩) rfl rfl h
  exact ⟨_, _, summary, _, Plan.init_desk sink (Desk.holding recorded w) rfl, hrun, rfl, rfl⟩

namespace AsksAlike
variable {t t' : Topology}

theorem settled (h : t.AsksAlike t') (options : PlanOptions) (recorded : State) :
    t.settled options recorded = t'.settled options recorded := by
  simp only [Topology.settled, h.bindings, h.accounts, h.topicSet, h.artefacts]

/-- All but the topics is planned from what is asked for. -/
theorem exists_actions (h : t.AsksAlike t') (options : PlanOptions) (recorded : State) :
    ∃ rest, t.actions options recorded = t.topics.map Topic.sync ++ rest ∧
      t'.actions options recorded = t'.topics.map Topic.sync ++ rest := by
  simp only [actions, h.bindings, h.accounts, h.topicSet, h.artefacts, List.append_assoc]
  exact ⟨_, rfl, rfl⟩

theorem plansAlike (h : t.AsksAlike t') (options : PlanOptions) : PlansAlike options t t' := by
  refine ⟨h.topics, fun ω admin p => ?_⟩
  obtain ⟨rest, hrest, hrest'⟩ := h.exists_actions options p.state
  exact ⟨rest, congrArg (p.steps ++ List.map _ ·) hrest, congrArg (p.steps ++ List.map _ ·) hrest'⟩

end AsksAlike

/-! ## The union -/

/-- **What is desired is a union.** The projects of two accepted documents that have everything else
in common may be put together in any order, and what is desired is then what both desire. A document
is accepted if one with further members or instances is, and then all that it desires is desired by
the other one too. Documents that differ in the order of projects, or in the order and the number of
occurrences of members and instances, are accepted alike and desire the same; over any recorded
state the plans for them differ in the order in which topics are brought in line, and whichever of
the plans runs well commits the same state. -/
theorem desired_is_union (naming : Naming) :
    (∀ (root₁ root₂ root : Entries) (items₁ items₂ items : List Document) (t₁ t₂ : Topology),
      SameFrame root₁ root₂ → SameFrame root₁ root →
      Entries.get? "projects" root₁ = some (.list items₁) →
      Entries.get? "projects" root₂ = some (.list items₂) →
      Entries.get? "projects" root = some (.list items) → items.Perm (items₁ ++ items₂) →
      ofDocument naming (.mapping root₁) = .ok t₁ → ofDocument naming (.mapping root₂) = .ok t₂ →
      ∃ t, ofDocument naming (.mapping root) = .ok t ∧ t.Unites t₁ t₂) ∧
    (∀ (root root' : Entries) (t' : Topology), (Document.mapping root).Distinct →
      (Document.mapping root').Distinct → WidensRoot root root' →
      ofDocument naming (.mapping root') = .ok t' →
      ∃ t, ofDocument naming (.mapping root) = .ok t ∧ t.Within t') ∧
    (∀ d d' : Document, Rearranges d d' →
      (ofDocument naming d).isOk = (ofDocument naming d').isOk ∧
      ∀ t t', ofDocument naming d = .ok t → ofDocument naming d' = .ok t' →
        t.AsksAlike t' ∧ ∀ (options : PlanOptions) (recorded : State), PlansAlike options t t' ∧
          ∃ committed, t.CommitsOnly options recorded committed ∧
            t'.CommitsOnly options recorded committed ∧
            ∀ (ω : Type) (admin : Admin ω) (w : ω),
              (Plan.Succeed ((t.actions options recorded).map (·.toStep admin)) w →
                t.Commits options admin (.holding recorded w) committed) ∧
              (Plan.Succeed ((t'.actions options recorded).map (·.toStep admin)) w →
                t'.Commits options admin (.holding recorded w) committed)) := by
  refine ⟨fun _ _ _ _ _ _ _ _ hframe hframe' h₁ h₂ h hperm ht₁ ht₂ =>
      exists_unites hframe hframe' h₁ h₂ h hperm ht₁ ht₂,
    fun _ _ _ hd hd' h ht' => h.exists_within hd hd' ht',
    fun d d' h => ⟨h.isOk_eq, fun t t' ht ht' => ?_⟩⟩
  have halike := h.asksAlike ht ht'
  refine ⟨halike, fun options recorded => ⟨halike.plansAlike options, t.settled options recorded,
    t.commitsOnly_settled options recorded, ?_, fun ω admin w =>
    ⟨t.commits_of_succeed options admin recorded w, fun hsucceed => ?_⟩⟩⟩
  · rw [halike.settled]
    exact t'.commitsOnly_settled options recorded
  · rw [halike.settled]
    exact t'.commits_of_succeed options admin recorded w hsucceed

/-! ## Two projects with consumers -/

namespace Staffed

/-- A project with one topic that these principals read. -/
def project (name : String) (principals : List String) : Entries := [
  ("name", .text name),
  ("consumers", .list (principals.map fun p => .mapping [("principal", .text p)])),
  ("topics", .list [.mapping [("name", .text "events")]])]

def pay : Entries := project "pay" ["ann", "bob"]

def hr : Entries := project "hr" ["cid"]

/-- The first project with its readers in another order, one of them twice. -/
def pay' : Entries := project "pay" ["bob", "ann", "bob"]

def root (projects : List Entries) : Entries :=
  [("context", .text "prod"), ("projects", .list (projects.map .mapping))]

theorem exists_pay : ∃ t, ofDocument ⟨∅, "."⟩ (.mapping (root [pay])) = .ok t :=
  Except.isOk_iff.1 (by decide +kernel)

theorem exists_hr : ∃ t, ofDocument ⟨∅, "."⟩ (.mapping (root [hr])) = .ok t :=
  Except.isOk_iff.1 (by decide +kernel)

theorem sameFrame_root (projects projects' : List Entries) :
    SameFrame (root projects) (root projects') :=
  ⟨rfl, rfl, rfl⟩

theorem distinct_project (name : String) (principals : List String) :
    (Document.mapping (project name principals)).Distinct := by
  have hsingle (key text : String) : (Document.mapping [(key, .text text)]).Distinct :=
    .mapping (List.forall_mem_singleton.2 (.leaf rfl)) (List.nodup_singleton key)
  refine .mapping ?_ (show ["name", "consumers", "topics"].Nodup by decide)
  simp only [project, List.forall_mem_cons]
  exact ⟨.leaf rfl, .list (List.forall_mem_map.2 fun p _ => hsingle "principal" p),
    .list (List.forall_mem_singleton.2 (hsingle "name" "events")), List.forall_mem_nil _⟩

theorem distinct_root {projects : List Entries}
    (h : ∀ entries ∈ projects, (Document.mapping entries).Distinct) :
    (Document.mapping (root projects)).Distinct := by
  refine .mapping ?_ (show ["context", "projects"].Nodup by decide)
  simp only [root, List.forall_mem_cons]
  exact ⟨.leaf rfl, .list (List.forall_mem_map.2 h), List.forall_mem_nil _⟩

theorem widens_project (name : String) {principals principals' : List String}
    (h : principals ⊆ principals') :
    WidensProject (project name principals) (project name principals') where
  name := rfl
  members role hrole := by
    cases role with
    | consumers => exact .more (List.map_subset _ h)
    | connectors => exact absurd rfl hrole
    | producers | streams | schemas => exact .same none
  connectors := .members (.same none)
  rbac := .same none
  topics := rfl

theorem widens_root {projects projects' : List Entries}
    (h : List.Forall₂ WidensProject projects projects') :
    WidensRoot (root projects) (root projects') :=
  ⟨rfl, rfl, .same none, projects, projects', rfl, rfl, h⟩

/-- The projects change places, and so do the readers of one of them. -/
theorem rearranges_root :
    Rearranges (.mapping (root [pay, hr])) (.mapping (root [hr, pay'])) := by
  have hswap : Rearranges (.mapping (root [pay, hr])) (.mapping (root [hr, pay])) :=
    .projects (sameFrame_root _ _) rfl rfl (.swap _ _ [])
  have hwidens : WidensProject hr hr := widens_project _ (List.Subset.refl _)
  refine hswap.trans (.members (distinct_root ?_) (distinct_root ?_)
    (widens_root (.cons hwidens (.cons (widens_project _ (by decide)) .nil)))
    (widens_root (.cons hwidens (.cons (widens_project _ (by decide)) .nil))))
  · exact List.forall_mem_cons.2 ⟨distinct_project _ _,
      List.forall_mem_singleton.2 (distinct_project _ _)⟩
  · exact List.forall_mem_cons.2 ⟨distinct_project _ _,
      List.forall_mem_singleton.2 (distinct_project _ _)⟩

/-- Two documents and the one with the projects of both, a document with one reader less, and a
rearranged document, for which the same state is committed. -/
theorem desired_of_staffed :
    let accepts (projects : List Entries) (t : Topology) : Prop :=
      ofDocument ⟨∅, "."⟩ (.mapping (root projects)) = .ok t
    let commits (t : Topology) (committed : State) : Prop :=
      t.Commits ⟨true, true⟩ (Rehearsal.admin none) (.holding .empty default) committed
    ∃ t t' t₁ t₂ t₃ committed, accepts [pay] t₁ ∧ accepts [hr] t₂ ∧ accepts [pay, hr] t ∧
      accepts [hr, pay'] t' ∧ accepts [project "pay" ["bob"]] t₃ ∧ t.Unites t₁ t₂ ∧
      t₃.Within t₁ ∧ t.AsksAlike t' ∧ commits t committed ∧ commits t' committed := by
  intro accepts commits
  obtain ⟨hunion, hwider, hrearranged⟩ := desired_is_union ⟨∅, "."⟩
  obtain ⟨t₁, ht₁⟩ := exists_pay
  obtain ⟨t₂, ht₂⟩ := exists_hr
  obtain ⟨t, ht, hunites⟩ := hunion (root [pay]) (root [hr]) (root [pay, hr]) _ _ _ t₁ t₂
    (sameFrame_root _ _) (sameFrame_root _ _) rfl rfl rfl (.refl _) ht₁ ht₂
  obtain ⟨t₃, ht₃, hwithin⟩ := hwider (root [project "pay" ["bob"]]) (root [pay]) t₁
    (distinct_root (List.forall_mem_singleton.2 (distinct_project _ _)))
    (distinct_root (List.forall_mem_singleton.2 (distinct_project _ _)))
    (widens_root (.cons (widens_project "pay" (by decide)) .nil)) ht₁
  obtain ⟨hok, halike⟩ := hrearranged _ _ rearranges_root
  obtain ⟨t', ht'⟩ := Except.isOk_iff.1 (hok.symm.trans (Except.isOk_iff.2 ⟨t, ht⟩))
  obtain ⟨halike, hplans⟩ := halike t t' ht ht'
  obtain ⟨-, committed, -, -, hcommits⟩ := hplans ⟨true, true⟩ .empty
  obtain ⟨hcommits, hcommits'⟩ := hcommits Rehearsal (Rehearsal.admin none) default
  exact ⟨t, t', t₁, t₂, t₃, committed, ht₁, ht₂, ht, ht', ht₃, hunites, hwithin, halike,
    hcommits (Rehearsal.succeed_admin _ _), hcommits' (Rehearsal.succeed_admin _ _)⟩

end Staffed

end Topology
end KafkaTopology
