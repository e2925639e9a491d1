import KafkaTopology.Proofs.Document.KeyOrder
import KafkaTopology.Proofs.OrderedSet
import KafkaTopology.Proofs.Orders
import KafkaTopology.Proofs.Topology.Declared
import KafkaTopology.Proofs.Topology.Grammar
import KafkaTopology.Topology.Grants
/-!
# What is desired is a union

A topology asks for what its projects and its platform ask for, and a project or a platform for what
its members and instances ask for, each on its own. So the projects of two documents may be put
together in any order: the document is accepted, and asks for what the two ask for
(`exists_unites`).
-/
/-- Whatever stands on the left has something on the right. -/
theorem List.Forall₂.exists_right {α β : Type} {r : α → β → Prop} {xs : List α} {ys : List β}
    (h : List.Forall₂ r xs ys) {x : α} (hx : x ∈ xs) : ∃ y ∈ ys, r x y :=
  h.flip.exists_left hx

/-- Some of what stands on the left has some of what stands on the right. -/
theorem List.Forall₂.exists_of_subset {α β : Type} {r : α → β → Prop} {xs xs' : List α}
    {ys' : List β} (h : List.Forall₂ r xs' ys') (hxs : xs ⊆ xs') :
    ∃ ys, List.Forall₂ r xs ys ∧ ys ⊆ ys' := by
  induction xs with
  | nil => exact ⟨[], .nil, List.nil_subset _⟩
  | cons x xs ih =>
    obtain ⟨hx, hrest⟩ := List.cons_subset.1 hxs
    obtain ⟨y, hy, hxy⟩ := h.exists_right hx
    obtain ⟨ys, hys, hsubset⟩ := ih hrest
    exact ⟨y :: ys, .cons hxy hys, List.cons_subset.2 ⟨hy, hsubset⟩⟩

namespace KafkaTopology

open Std

namespace Topology

open Except (bind_eq_ok_iff pure_eq_ok_iff mapM_eq_ok_iff)

/-! ## What is desired -/

section
variable {t : Topology}

theorem mem_bindings {b : Acl.Binding} :
    b ∈ t.bindings ↔ (∃ p ∈ t.projects, b ∈ p.bindings) ∨ b ∈ t.platform.bindings := by
  rw [bindings, OrderedSet.mem_ofList, List.mem_append, List.mem_flatMap]

theorem mem_artefacts {a : Artefact} : a ∈ t.artefacts ↔ ∃ p ∈ t.projects, a ∈ p.artefacts := by
  rw [artefacts, OrderedSet.mem_ofList, List.mem_flatMap]

theorem mem_topicSet {n : String} :
    n ∈ t.topicSet ↔ ∃ p ∈ t.projects, ∃ topic ∈ p.topics, topic.fullName = n := by
  rw [topicSet, OrderedSet.mem_ofList, topicNames, List.mem_map, topics]
  simp only [List.mem_flatMap]
  constructor
  · rintro ⟨topic, ⟨p, hp, htopic⟩, h⟩
    exact ⟨p, hp, topic, htopic, h⟩
  · rintro ⟨p, hp, topic, htopic, h⟩
    exact ⟨topic, ⟨p, hp, htopic⟩, h⟩

/-- The accounts are those of all principals, without a description. -/
theorem mem_accounts {a : Account} :
    a ∈ t.accounts ↔ ∃ principal, a = .ofPrincipal principal ∧
      ((∃ p ∈ t.projects, principal ∈ p.principals) ∨ principal ∈ t.platform.principals) := by
  have hlisted {principal : String} :
      principal ∈ t.projects.flatMap (·.principals) ++ t.platform.principals ↔
        (∃ p ∈ t.projects, principal ∈ p.principals) ∨ principal ∈ t.platform.principals := by
    rw [List.mem_append, List.mem_flatMap]
  constructor
  · intro h
    obtain ⟨principal, hprincipal, rfl⟩ := List.mem_map.1 (OrderedSet.mem_of_mem_ofList h)
    exact ⟨principal, rfl, hlisted.1 hprincipal⟩
  · rintro ⟨principal, rfl, hprincipal⟩
    obtain ⟨b, hb⟩ := Option.isSome_iff_exists.1 <|
      show (t.accounts.find? (.ofPrincipal principal)).isSome = true by
        rw [accounts, OrderedSet.find?_ofList, List.find?_isSome]
        exact ⟨_, List.mem_reverse.2 (List.mem_map_of_mem (hlisted.2 hprincipal)),
          beq_iff_eq.2 ReflOrd.compare_self⟩
    obtain ⟨hmem, hcompare⟩ := OrderedSet.find?_eq_some_iff.1 hb
    obtain ⟨other, -, rfl⟩ := List.mem_map.1 (OrderedSet.mem_of_mem_ofList hmem)
    rwa [show principal = other from Account.compare_eq_iff.1 hcompare]

end

/-! ## The projects of two documents -/

/-- Whether two roots are the same but for their projects. -/
structure SameFrame (root root' : Entries) : Prop where
  context : Entries.get? "context" root = Entries.get? "context" root'
  attributes : attributesOf root = attributesOf root'
  platform : Entries.get? "platform" root = Entries.get? "platform" root'

theorem SameFrame.symm {root root' : Entries} (h : SameFrame root root') : SameFrame root' root :=
  ⟨h.context.symm, h.attributes.symm, h.platform.symm⟩

theorem SameFrame.trans {root root' root'' : Entries} (h : SameFrame root root')
    (h' : SameFrame root' root'') : SameFrame root root'' :=
  ⟨h.context.trans h'.context, h.attributes.trans h'.attributes, h.platform.trans h'.platform⟩

variable {naming : Naming}

theorem readContext_congr {root root' : Entries}
    (h : Entries.get? "context" root = Entries.get? "context" root') :
    readContext root = readContext root' := by
  rw [readContext, readContext, h]

/-- Where the projects are listed, only the context may be missing. -/
theorem checkRequiredKeys_congr {root root' : Entries} {items items' : List Document}
    (h : Entries.get? "context" root = Entries.get? "context" root')
    (hitems : Entries.get? "projects" root = some (.list items))
    (hitems' : Entries.get? "projects" root' = some (.list items')) :
    checkRequiredKeys root = checkRequiredKeys root' := by
  simp only [checkRequiredKeys, requiredKeys, List.filter_cons, List.filter_nil, present?, h,
    hitems, hitems', Option.isNone_some]

theorem exists_mapM_perm {α β ε : Type} {f : α → Except ε β} {xs xs' : List α} {ys' : List β}
    (hperm : xs.Perm xs') (h : xs'.mapM f = .ok ys') : ∃ ys, xs.mapM f = .ok ys ∧ ys.Perm ys' := by
  obtain ⟨ys, hys, hperm⟩ := List.perm_comp_forall₂ hperm (mapM_eq_ok_iff.1 h)
  exact ⟨ys, mapM_eq_ok_iff.2 hys, hperm⟩

theorem mapM_append_eq_ok {α β ε : Type} {f : α → Except ε β} {xs xs' : List α} {ys ys' : List β}
    (h : xs.mapM f = .ok ys) (h' : xs'.mapM f = .ok ys') : (xs ++ xs').mapM f = .ok (ys ++ ys') :=
  mapM_eq_ok_iff.2 (List.rel_append (mapM_eq_ok_iff.1 h) (mapM_eq_ok_iff.1 h'))

/-- Accepted documents with the same frame have everything but the projects in common. -/
theorem SameFrame.eq_of_ofDocument {root root' : Entries} (h : SameFrame root root')
    {t t' : Topology} (ht : ofDocument naming (.mapping root) = .ok t)
    (ht' : ofDocument naming (.mapping root') = .ok t') :
    t.context = t'.context ∧ t.attributes = t'.attributes ∧ t.separator = t'.separator ∧
      t.platform = t'.platform ∧ t.fullContext = t'.fullContext ∧ t.order = t'.order := by
  obtain ⟨_, ⟨⟩, -, hcontext, hattributes, hseparator, hplatform, -⟩ := ofDocument_eq_ok_iff.1 ht
  obtain ⟨_, ⟨⟩, -, hcontext', hattributes', hseparator', hplatform', -⟩ :=
    ofDocument_eq_ok_iff.1 ht'
  rw [readContext_congr h.context, hcontext', Except.ok.injEq] at hcontext
  rw [h.platform, hplatform', Except.ok.injEq] at hplatform
  rw [h.attributes, ← hattributes'] at hattributes
  rw [← hseparator'] at hseparator
  refine ⟨hcontext.symm, hattributes, hseparator, hplatform.symm, ?_, ?_⟩
  · rw [fullContext, fullContext, hcontext, hattributes, hseparator]
  · rw [order, order, hattributes]

/-- A document with the frame of an accepted one is read as its projects are. -/
theorem SameFrame.draft_eq {root root' : Entries} (h : SameFrame root root') {t : Topology}
    (ht : ofDocument naming (.mapping root) = .ok t) {items' : List Document}
    (hitems' : Entries.get? "projects" root' = some (.list items')) :
    draft naming (.mapping root') =
      items'.mapM (readProject naming t.fullContext t.order) >>= fun projects =>
        .ok { t with projects } := by
  obtain ⟨_, ⟨⟩, hrequired, hcontext, hattributes, hseparator, hplatform, hprojects, -⟩ :=
    ofDocument_eq_ok_iff.1 ht
  obtain ⟨items, hitems, -⟩ := readProjects_eq_ok_iff.1 hprojects
  rw [checkRequiredKeys_congr h.context hitems hitems'] at hrequired
  rw [readContext_congr h.context] at hcontext
  rw [h.platform] at hplatform
  rw [h.attributes] at hattributes
  have hread : readProjects naming t.fullContext t.order root' =
      items'.mapM (readProject naming t.fullContext t.order) := by rw [readProjects, hitems']
  rw [← hread, draft, hrequired, hcontext, hplatform, ← hseparator, ← hattributes]
  rfl

/-- A document is accepted if it has the frame of an accepted one, and projects that are read under
the context of that one with legal names. -/
theorem SameFrame.exists_ofDocument {root root' : Entries} (h : SameFrame root root')
    {t : Topology} (ht : ofDocument naming (.mapping root) = .ok t) {items' : List Document}
    (hitems' : Entries.get? "projects" root' = some (.list items')) {projects' : List Project}
    (hread : items'.mapM (readProject naming t.fullContext t.order) = .ok projects')
    (hlegal : ∀ p ∈ projects', ∀ topic ∈ p.topics, isLegalTopicName topic.fullName = true) :
    ofDocument naming (.mapping root') = .ok { t with projects := projects' } := by
  refine ofDocument_eq_ok_iff_draft.2 ⟨?_, forall_topicNames_iff.2 hlegal⟩
  rw [h.draft_eq ht hitems', hread]
  rfl

theorem isLegal_of_ofDocument {d : Document} {t : Topology} (ht : ofDocument naming d = .ok t) :
    ∀ p ∈ t.projects, ∀ topic ∈ p.topics, isLegalTopicName topic.fullName = true := by
  obtain ⟨-, -, -, -, -, -, -, -, hnames⟩ := ofDocument_eq_ok_iff.1 ht
  exact forall_topicNames_iff.1 hnames

theorem exists_items {root : Entries} {t : Topology}
    (ht : ofDocument naming (.mapping root) = .ok t) :
    ∃ items, Entries.get? "projects" root = some (.list items) ∧
      items.mapM (readProject naming t.fullContext t.order) = .ok t.projects := by
  obtain ⟨_, ⟨⟩, -, -, -, -, -, hprojects, -⟩ := ofDocument_eq_ok_iff.1 ht
  exact readProjects_eq_ok_iff.1 hprojects

/-- A document with the projects of two accepted ones, in any order, is accepted with the projects
of both. -/
theorem exists_projects {root₁ root₂ root : Entries} {items₁ items₂ items : List Document}
    {t₁ t₂ : Topology} (hframe : SameFrame root₁ root₂) (hframe' : SameFrame root₁ root)
    (hitems₁ : Entries.get? "projects" root₁ = some (.list items₁))
    (hitems₂ : Entries.get? "projects" root₂ = some (.list items₂))
    (hitems : Entries.get? "projects" root = some (.list items))
    (hperm : items.Perm (items₁ ++ items₂))
    (h₁ : ofDocument naming (.mapping root₁) = .ok t₁)
    (h₂ : ofDocument naming (.mapping root₂) = .ok t₂) :
    ∃ projects, ofDocument naming (.mapping root) = .ok { t₁ with projects } ∧
      projects.Perm (t₁.projects ++ t₂.projects) ∧ t₁.platform = t₂.platform := by
  obtain ⟨-, -, -, hplatform, hcontext, horder⟩ := hframe.eq_of_ofDocument h₁ h₂
  obtain ⟨_, hlisted₁, hread₁⟩ := exists_items h₁
  obtain ⟨_, hlisted₂, hread₂⟩ := exists_items h₂
  cases hitems₁.symm.trans hlisted₁
  cases hitems₂.symm.trans hlisted₂
  rw [← hcontext, ← horder] at hread₂
  obtain ⟨projects, hread, hprojects⟩ := exists_mapM_perm hperm (mapM_append_eq_ok hread₁ hread₂)
  refine ⟨projects, hframe'.exists_ofDocument h₁ hitems hread fun p hp => ?_, hprojects, hplatform⟩
  exact (List.mem_append.1 (hprojects.mem_iff.1 hp)).elim (isLegal_of_ofDocument h₁ p)
    (isLegal_of_ofDocument h₂ p)

/-- What is desired by the topology of both projects. -/
structure Unites (t t₁ t₂ : Topology) : Prop where
  bindings : ∀ b, b ∈ t.bindings ↔ b ∈ t₁.bindings ∨ b ∈ t₂.bindings
  accounts : ∀ a, a ∈ t.accounts ↔ a ∈ t₁.accounts ∨ a ∈ t₂.accounts
  topics : ∀ n, n ∈ t.topicSet ↔ n ∈ t₁.topicSet ∨ n ∈ t₂.topicSet
  artefacts : ∀ a, a ∈ t.artefacts ↔ a ∈ t₁.artefacts ∨ a ∈ t₂.artefacts

theorem unites_of_projects {t t₁ t₂ : Topology}
    (hprojects : ∀ p, p ∈ t.projects ↔ p ∈ t₁.projects ∨ p ∈ t₂.projects)
    (hplatform₁ : t.platform = t₁.platform) (hplatform₂ : t.platform = t₂.platform) :
    t.Unites t₁ t₂ := by
  have hsplit {q : Project → Prop} : (∃ p ∈ t.projects, q p) ↔
      (∃ p ∈ t₁.projects, q p) ∨ ∃ p ∈ t₂.projects, q p := by
    simp only [hprojects, or_and_right, exists_or]
  refine ⟨fun b => ?_, fun a => ?_, fun n => ?_, fun a => ?_⟩
  · rw [mem_bindings, mem_bindings, mem_bindings, hsplit, ← hplatform₁, ← hplatform₂,
      or_or_distrib_right]
  · rw [mem_accounts, mem_accounts, mem_accounts, ← exists_or, ← hplatform₁, ← hplatform₂]
    refine exists_congr fun principal => ?_
    rw [hsplit, or_or_distrib_right, and_or_left]
  · rw [mem_topicSet, mem_topicSet, mem_topicSet, hsplit]
  · rw [mem_artefacts, mem_artefacts, mem_artefacts, hsplit]

/-- A document with the projects of two accepted ones, in any order, asks for what the two ask
for. -/
theorem exists_unites {root₁ root₂ root : Entries} {items₁ items₂ items : List Document}
    {t₁ t₂ : Topology} (hframe : SameFrame root₁ root₂) (hframe' : SameFrame root₁ root)
    (hitems₁ : Entries.get? "projects" root₁ = some (.list items₁))
    (hitems₂ : Entries.get? "projects" root₂ = some (.list items₂))
    (hitems : Entries.get? "projects" root = some (.list items))
    (hperm : items.Perm (items₁ ++ items₂))
    (h₁ : ofDocument naming (.mapping root₁) = .ok t₁)
    (h₂ : ofDocument naming (.mapping root₂) = .ok t₂) :
    ∃ t, ofDocument naming (.mapping root) = .ok t ∧ t.Unites t₁ t₂ := by
  obtain ⟨projects, ht, hprojects, hplatform⟩ :=
    exists_projects hframe hframe' hitems₁ hitems₂ hitems hperm h₁ h₂
  refine ⟨_, ht, unites_of_projects (fun p => ?_) rfl hplatform⟩
  rw [hprojects.mem_iff, List.mem_append]

end Topology
end KafkaTopology
