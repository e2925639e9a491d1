import KafkaTopology.Proofs.Bindings
import KafkaTopology.Proofs.Cluster.Requests
import Mathlib.Data.Set.Function
/-!
# Worlds in sync

A site is a world with the state that is recorded for it. They are in sync if exactly the recorded
bindings, accounts and artefacts stand in the world, and the recorded topics among others.
`World.Halfway` is what a world keeps to while applies of one topology break off, however often and
wherever, and `Connectors.Halfway` is what its connectors keep to.

* `World.Halfway.after`, `Connectors.Halfway.after` — one more apply, wherever it breaks off, leads
  halfway again.
* `Connectors.Halfway.holds_iff` — from anywhere halfway, an apply that is carried out leads to the
  desired connectors if and only if its deletions can reach what they are meant for.
-/
namespace KafkaTopology

/-- The elements of a set, as a set of Mathlib's. -/
def OrderedSet.elements {α : Type} [Ord α] (s : OrderedSet α) : Set α := {x | x ∈ s}

theorem OrderedSet.mem_elements {α : Type} [Ord α] {s : OrderedSet α} {x : α} :
    x ∈ s.elements ↔ x ∈ s := Iff.rfl

/-- What is recorded stands in the world. -/
structure World.InSync (w : World) (servers : ConnectServers) (s : State) : Prop where
  topics : s.topics.elements ⊆ w.topics
  acls : w.acls = KafkaTools.bindingArguments '' s.bindings.elements
  users : w.users = Action.user '' s.accounts.elements
  connectors : (w.connectors servers).Holds s.artefacts.elements

/-- The world that holds what is recorded and nothing else. -/
def World.holding (servers : ConnectServers) (s : State) : World where
  topics := s.topics.elements
  acls := KafkaTools.bindingArguments '' s.bindings.elements
  users := Action.user '' s.accounts.elements
  registry := fun place name =>
    (s.artefacts.toList.find? fun a =>
      servers.address? a.server == some place && a.name == name).map (·.path)

theorem World.inSync_holding {servers : ConnectServers} (hservers : servers.Apart) {s : State}
    (hplaces : ∀ a ∈ s.artefacts, (servers.address? a.server).isSome = true)
    (h : Artefact.Distinct s.artefacts.elements) : (holding servers s).InSync servers s := by
  refine ⟨subset_rfl, rfl, rfl, fun server name path => ?_⟩
  have hfound {place : Address} (hplace : servers.address? server = some place) :
      (holding servers s).registry place name =
        (s.artefacts.toList.find? (·.isAt server name)).map (·.path) := by
    refine congrArg (fun p => (s.artefacts.toList.find? p).map Artefact.path) (funext fun a => ?_)
    rw [Bool.eq_iff_iff, Artefact.isAt_iff, Bool.and_eq_true, beq_iff_eq, beq_iff_eq]
    refine and_congr_left fun _ => ⟨fun ha => hservers.address _ _ _ ha hplace, ?_⟩
    rintro rfl
    exact hplace
  constructor
  · intro hsome
    obtain ⟨place, hplace, hpath⟩ := Option.bind_eq_some_iff.1 hsome
    rw [hfound hplace] at hpath
    obtain ⟨a, ha, rfl⟩ := Option.map_eq_some_iff.1 hpath
    obtain ⟨hmem, hat⟩ := Artefact.of_find?_isAt ha
    exact Artefact.eq_mk_of_isAt hat ▸ hmem
  · intro hmem
    obtain ⟨place, hplace⟩ := Option.isSome_iff_exists.1 (hplaces _ hmem)
    refine Option.bind_eq_some_iff.2 ⟨place, hplace, ?_⟩
    rw [hfound hplace]
    exact congrArg (Option.map (·.path)) (h.find?_isAt (fun _ ha => ha) hmem)

/-! ## Sites -/

/-- A world and the state that is recorded for it. -/
structure Site where
  world : World
  recorded : State

namespace Site

/-- Applies a topology at a site. -/
def apply (s : Site) (t : Topology) (options : PlanOptions) (c : Circumstances) :
    Except PlanError RunSummary × Site :=
  ((t.apply options c s.recorded).outcome,
    ⟨s.world.after (t.apply options c s.recorded).done, (t.apply options c s.recorded).recorded⟩)

variable {s s' : Site} {t : Topology} {options : PlanOptions} {c : Circumstances}

/-- A successful apply carries all operations out and records the settled state. -/
theorem apply_ok {summary : RunSummary} (h : s.apply t options c = (.ok summary, s')) :
    s' = ⟨s.world.after (t.operations options c s.recorded), t.settled options s.recorded⟩ := by
  obtain ⟨houtcome, rfl⟩ := Prod.mk.inj h
  obtain ⟨hdone, hrecorded⟩ := Topology.done_and_recorded houtcome
  rw [hdone, hrecorded]

/-- What a successful apply has to carry out can all be sent. -/
theorem map_operations {summary : RunSummary} (h : s.apply t options c = (.ok summary, s')) :
    (t.operations options c s.recorded).map some = t.agenda options c s.recorded :=
  (Topology.map_done (Prod.mk.inj h).1).1

/-- A failed apply carries some operations out and records nothing. -/
theorem apply_error {e : PlanError} (h : s.apply t options c = (.error e, s')) :
    (t.apply options c s.recorded).done.map some <+: t.agenda options c s.recorded ∧
      s' = ⟨s.world.after (t.apply options c s.recorded).done, s.recorded⟩ := by
  obtain ⟨houtcome, rfl⟩ := Prod.mk.inj h
  obtain ⟨hpre, ⟨_, hok, -⟩ | ⟨_, -, hrecorded⟩⟩ := t.apply_cases options c s.recorded
  · rw [hok] at houtcome
    cases houtcome
  · exact ⟨hpre, by rw [hrecorded]⟩

/-- An apply on a host that lasts for everything on its agenda. -/
theorem exists_apply_ok {n : Nat} (hlasts : c.host.Lasts n) (hflush : c.flushRefusal = none)
    (herrands : ∀ e ∈ (t.actions options s.recorded).flatMap (·.errands c.config c.host),
      e.isOk = true)
    (hn : (t.agenda options c s.recorded).length ≤ n) :
    ∃ summary s', s.apply t options c = (.ok summary, s') := by
  obtain ⟨-, houtcome⟩ := Topology.apply_of_lasts hlasts hflush herrands
  rw [if_pos hn] at houtcome
  obtain ⟨summary, hsummary⟩ := houtcome
  exact ⟨summary, _, by rw [apply, hsummary]⟩

/-- An apply on a host that does not last for everything on its agenda. -/
theorem exists_apply_error {n : Nat} (hlasts : c.host.Lasts n) (hflush : c.flushRefusal = none)
    (herrands : ∀ e ∈ (t.actions options s.recorded).flatMap (·.errands c.config c.host),
      e.isOk = true)
    (hn : ¬(t.agenda options c s.recorded).length ≤ n) :
    ∃ description cause done, s.apply t options c =
        (.error (.action description cause), ⟨s.world.after done, s.recorded⟩) ∧
      done = (t.apply options c s.recorded).done ∧
      done.map some = (t.agenda options c s.recorded).take n := by
  obtain ⟨hdone, houtcome⟩ := Topology.apply_of_lasts hlasts hflush herrands
  rw [if_neg hn] at houtcome
  obtain ⟨description, cause, herror⟩ := houtcome
  have hfail : s.apply t options c =
      (.error (.action description cause), (s.apply t options c).2) := by rw [apply, herror]
  obtain ⟨-, hsite⟩ := apply_error hfail
  exact ⟨description, cause, _, by rw [hfail, hsite], rfl, hdone⟩

end Site

/-! ## Half-applied topologies -/

/-- Whether all artefacts that a plan withdraws have names that are segments of a path as they
stand. -/
def Topology.WithdrawsSegments (t : Topology) (recorded : State) : Prop :=
  ∀ a ∈ recorded.artefacts, a ∉ t.artefacts → Url.IsSegment a.name.toList

/-- A world that applies of `t` which broke off can have led to from `w₀`. -/
structure World.Halfway (t : Topology) (options : PlanOptions) (recorded : State) (w₀ w : World) :
    Prop where
  topics : Mark.Between w₀.topics t.topicNames (t.givenUp options recorded) w.topics
  acls : Mark.Between w₀.acls (t.newAcls recorded) (t.oldAcls recorded) w.acls
  users : Mark.Between w₀.users (t.newUsers options recorded) (t.oldUsers options recorded) w.users

/-- Connectors that applies of `t` which broke off can have led to. -/
structure Connectors.Halfway (servers : ConnectServers) (t : Topology) (recorded : State)
    (cs : Connectors) : Prop where
  /-- A connector is live as long as no deletion is about it, whichever it is meant for. -/
  live : ∀ a ∈ recorded.artefacts,
    (∀ b ∈ t.oldArtefacts recorded, ¬servers.reaches b a.server a.name = true) →
    cs a.server a.name = some a.path
  between : t.WithdrawsSegments recorded →
    Between recorded.artefacts.elements t.artefacts.elements cs

namespace World.Halfway

variable {t : Topology} {options : PlanOptions} {recorded : State} {w₀ w : World}
  {c : Circumstances} {done : List Operation}

theorem refl : Halfway t options recorded w₀ w₀ := ⟨.refl _ _ _, .refl _ _ _, .refl _ _ _⟩

/-- Operations of one more apply, wherever it breaks off. -/
theorem after (h : Halfway t options recorded w₀ w)
    (hdone : done.map some <+: t.agenda options c recorded) :
    Halfway t options recorded w₀ (w.after done) := by
  have hoperations := Topology.prefix_operations hdone
  rw [World.after_eq]
  constructor
  · refine h.topics.onAll fun m hm => ?_
    rw [← t.topicMarks_operations options c recorded]
    exact (hoperations.filterMap _).subset hm
  · refine h.acls.onAll fun m hm => ?_
    rw [← t.aclMarks_operations options c recorded]
    exact (hoperations.filterMap _).subset hm
  · refine h.users.onAll fun m hm => ?_
    rw [← t.userMarks_operations options c recorded]
    exact (hoperations.filterMap _).subset hm

/-- All operations of an apply, after any number of applies that broke off. -/
theorem after_operations (h : Halfway t options recorded w₀ w) (c : Circumstances) :
    (w.after (t.operations options c recorded)).topics =
        Mark.onAll w₀.topics (Mark.script t.topicNames (t.givenUp options recorded)) ∧
      (w.after (t.operations options c recorded)).acls =
        Mark.onAll w₀.acls (Mark.script (t.newAcls recorded) (t.oldAcls recorded)) ∧
      (w.after (t.operations options c recorded)).users =
        Mark.onAll w₀.users
          (Mark.script (t.newUsers options recorded) (t.oldUsers options recorded)) := by
  rw [World.after_eq, t.topicMarks_operations, t.aclMarks_operations, t.userMarks_operations]
  exact ⟨h.topics.onAll_script, h.acls.onAll_script, h.users.onAll_script⟩

end World.Halfway

/-- Where all names are segments, what was carried out of a plan did to the connectors what is meant
by it. -/
theorem Topology.exists_precise_marks {servers : ConnectServers} {t : Topology}
    (options : PlanOptions) {c : Circumstances} {recorded : State} {done : List Operation}
    (hservers : servers.Apart) (hfits : c.Fits servers t)
    (hsegments : t.WithdrawsSegments recorded)
    (hdone : done.map some <+: t.agenda options c recorded) :
    ∃ ms, ms <+: Connectors.script (t.newArtefacts recorded) (t.oldArtefacts recorded) ∧
      (∀ w : World, (w.after done).connectors servers =
        (w.connectors servers).onAll Artefact.isAt ms) ∧
      (ms = [] ↔ ∀ o ∈ done, o.connectorChange? = none) ∧
      (done.map some = t.agenda options c recorded →
        ms = Connectors.script (t.newArtefacts recorded) (t.oldArtefacts recorded)) := by
  obtain ⟨ms, hms, hsent, hafter, hnil, hall⟩ := t.exists_marks options hservers hfits hdone
  refine ⟨ms, hms, fun w => ?_, hnil, hall⟩
  rw [hafter]
  refine Connectors.onAll_of_precise fun a ha => ?_
  obtain ⟨hrecorded, hgiven⟩ := t.mem_oldArtefacts.1 (Connectors.drop_mem_script (hms.subset ha))
  exact ConnectServers.reaches_eq_isAt hservers (hsent _ ha) (hsegments a hrecorded hgiven)

namespace Connectors.Halfway

variable {servers : ConnectServers} {t : Topology} {options : PlanOptions} {recorded : State}
  {w : World} {c : Circumstances} {done : List Operation}

theorem of_holds {cs : Connectors} (h : cs.Holds recorded.artefacts.elements) :
    Halfway servers t recorded cs :=
  ⟨fun _ ha _ => (h _ _ _).2 ha, fun _ => h.between _⟩

variable (hservers : servers.Apart) (hfits : c.Fits servers t)
include hservers hfits

/-- Operations of one more apply, wherever it breaks off. -/
theorem after (h : Halfway servers t recorded (w.connectors servers))
    (hdistinct : Artefact.Distinct recorded.artefacts.elements)
    (hdone : done.map some <+: t.agenda options c recorded) :
    Halfway servers t recorded ((w.after done).connectors servers) := by
  constructor
  · intro a ha hunreached
    obtain ⟨ms, hms, -, hafter, -⟩ := t.exists_marks options hservers hfits hdone
    rw [hafter]
    exact onAll_of_eq (fun _ hm => hms.subset hm) (h.live a ha hunreached) hunreached
  · intro hsegments
    obtain ⟨ms, hms, hafter, -⟩ := t.exists_precise_marks options hservers hfits hsegments hdone
    rw [hafter]
    exact (h.between hsegments).onAll hdistinct (fun _ => t.mem_newArtefacts)
      (fun _ => t.mem_oldArtefacts) fun m hm => hms.subset hm

/-- All operations of an apply lead to the desired connectors if and only if the names of those
that it withdraws are segments. -/
theorem holds_iff (h : Halfway servers t recorded (w.connectors servers))
    (hrecorded : Artefact.Distinct recorded.artefacts.elements)
    (hdesired : Artefact.Distinct t.artefacts.elements)
    (hall : done.map some = t.agenda options c recorded) :
    ((w.after done).connectors servers).Holds t.artefacts.elements ↔
      t.WithdrawsSegments recorded := by
  have hdone : done.map some <+: t.agenda options c recorded := hall ▸ List.prefix_rfl
  constructor
  · intro hholds a ha hgiven
    obtain ⟨ms, -, hsent, hafter, -, hscript⟩ := t.exists_marks options hservers hfits hdone
    rw [hafter, hscript hall] at hholds
    rw [hscript hall] at hsent
    refine ConnectServers.isSegment_of_holds hservers (fun b hb => hsent _ ?_) (fun b hb => ?_)
      (fun b hb => (t.mem_oldArtefacts.1 hb).2) hholds a (t.mem_oldArtefacts.2 ⟨ha, hgiven⟩)
    · exact List.mem_append_left _ (List.mem_map_of_mem hb)
    · exact h.live b (t.mem_oldArtefacts.1 hb).1
  · intro hsegments
    obtain ⟨ms, -, hafter, -, hscript⟩ :=
      t.exists_precise_marks options hservers hfits hsegments hdone
    rw [hafter, hscript hall]
    exact (h.between hsegments).holds_onAll_script hrecorded hdesired
      (fun _ => t.mem_newArtefacts) (fun _ => t.mem_oldArtefacts)

end Connectors.Halfway

/-! ## Where a whole script leads -/

namespace Topology

variable (t : Topology) (options : PlanOptions) (recorded : State)

variable {recorded} in
theorem acls_settled (hnamed : ∀ b ∈ recorded.bindings, b.Named) :
    Mark.onAll (KafkaTools.bindingArguments '' recorded.bindings.elements)
        (Mark.script (t.newAcls recorded) (t.oldAcls recorded)) =
      KafkaTools.bindingArguments '' t.bindings.elements := by
  refine Mark.onAll_script_image ?_ (fun _ => OrderedSet.mem_create)
    (fun _ => OrderedSet.mem_delete)
  have hall : ∀ b ∈ recorded.bindings.elements ∪ t.bindings.elements, b.Named := by
    rintro b (hb | hb)
    · exact hnamed b hb
    · exact t.named_bindings b hb
  exact fun a ha b hb heq => KafkaTools.bindingArguments_inj (hall a ha) (hall b hb) heq

theorem mem_image_principal {s : OrderedSet Account} {p : String} :
    p ∈ Account.principal '' s.elements ↔ p ∈ s.toList.map (·.principal) :=
  List.mem_map.symm

/-- An account is left out if another one has its principal. -/
theorem mem_diff_accounts {s u : OrderedSet Account} {a : Account} :
    a ∈ s.diff u ↔ a ∈ s ∧ ∀ b ∈ u, b.principal ≠ a.principal := by
  rw [OrderedSet.mem_diff_iff]
  refine and_congr_right fun _ => forall₂_congr fun b _ => ?_
  rw [ne_eq, Account.compare_eq_iff, ne_comm]

theorem mem_principals_diff {s u : OrderedSet Account} {p : String} :
    p ∈ (s.diff u).toList.map (·.principal) ↔
      p ∈ Account.principal '' s.elements ∧ p ∉ Account.principal '' u.elements := by
  constructor
  · intro hp
    obtain ⟨a, ha, rfl⟩ := List.mem_map.1 hp
    obtain ⟨has, hau⟩ := mem_diff_accounts.1 ha
    exact ⟨⟨a, has, rfl⟩, fun ⟨b, hb, heq⟩ => hau b hb heq⟩
  · rintro ⟨⟨a, ha, rfl⟩, hnot⟩
    exact List.mem_map.2 ⟨a, mem_diff_accounts.2 ⟨ha, fun b hb heq => hnot ⟨b, hb, heq⟩⟩, rfl⟩

/-- The users of a set of accounts, by way of their principals. -/
theorem image_user (s : OrderedSet Account) :
    Action.user '' s.elements = KafkaTools.userName '' (Account.principal '' s.elements) :=
  (Set.image_image KafkaTools.userName Account.principal s.elements).symm

/-- Settled accounts have the users of the desired ones. -/
theorem image_user_preferring (accounts : OrderedSet Account) :
    Action.user '' (t.accounts.preferring accounts).elements =
      Action.user '' t.accounts.elements := by
  rw [image_user, image_user]
  congr 1
  ext p
  rw [mem_image_principal, mem_image_principal, principals_preferring]

variable {recorded} in
theorem users_settled (husers : Set.InjOn KafkaTools.userName
      (Account.principal '' recorded.accounts.elements ∪
        Account.principal '' t.accounts.elements)) :
    Mark.onAll (Action.user '' recorded.accounts.elements)
        (Mark.script (t.newUsers options recorded) (t.oldUsers options recorded)) =
      if options.managesAccounts then Action.user '' t.accounts.elements
      else Action.user '' recorded.accounts.elements := by
  have hmap : ∀ xs : List Account,
      xs.map Action.user = (xs.map Account.principal).map KafkaTools.userName := by
    intro xs
    rw [List.map_map]
    rfl
  rw [newUsers, oldUsers]
  cases options.managesAccounts with
  | false => rfl
  | true =>
    simp only [↓reduceIte, image_user, hmap]
    exact Mark.onAll_script_image husers (fun _ => mem_principals_diff)
      (fun _ => mem_principals_diff)

/-- The topics that are given up, if any may be. -/
def abandoned : Set String :=
  if options.deletesTopics then recorded.topics.elements \ t.topicSet.elements else ∅

theorem topics_settled (s : Set String) :
    Mark.onAll s (Mark.script t.topicNames (t.givenUp options recorded)) =
      (s ∪ t.topicSet.elements) \ t.abandoned options recorded := by
  ext n
  have hnames : n ∈ t.topicNames ↔ n ∈ t.topicSet.elements := OrderedSet.mem_ofList.symm
  have hgiven : n ∈ t.givenUp options recorded ↔ n ∈ t.abandoned options recorded := by
    rw [givenUp, abandoned]
    cases options.deletesTopics with
    | false => simp
    | true => exact OrderedSet.mem_delete
  rw [Mark.mem_onAll_script, hnames, hgiven]
  rfl

theorem elements_topics_settled :
    (t.settled options recorded).topics.elements =
      (recorded.topics.elements ∪ t.topicSet.elements) \ t.abandoned options recorded := by
  ext n
  simp only [settled, abandoned]
  cases options.deletesTopics with
  | false => simp [OrderedSet.mem_elements, OrderedSet.mem_union]
  | true =>
    simp only [↓reduceIte, Set.mem_sdiff, Set.mem_union]
    constructor
    · exact fun hn => ⟨.inr hn, fun h => h.2 hn⟩
    · rintro ⟨hn | hn, hnot⟩
      · by_contra hnt
        exact hnot ⟨hn, hnt⟩
      · exact hn

end Topology

/-- All operations of an apply lead to the settled topics, bindings and users, after any number of
applies that broke off. -/
theorem World.Halfway.settled {t : Topology} {options : PlanOptions} {recorded : State}
    {w₀ w : World} {servers : ConnectServers} (h : Halfway t options recorded w₀ w)
    (c : Circumstances) (hsync : w₀.InSync servers recorded)
    (hnamed : ∀ b ∈ recorded.bindings, b.Named)
    (husers : Set.InjOn KafkaTools.userName
      (Account.principal '' recorded.accounts.elements ∪
        Account.principal '' t.accounts.elements)) :
    (w.after (t.operations options c recorded)).acls =
        KafkaTools.bindingArguments '' t.bindings.elements ∧
      (w.after (t.operations options c recorded)).users =
        (if options.managesAccounts then Action.user '' t.accounts.elements else w₀.users) ∧
      (w.after (t.operations options c recorded)).topics =
        (w₀.topics ∪ t.topicSet.elements) \ t.abandoned options recorded := by
  obtain ⟨htopics, hacls, hwusers⟩ := h.after_operations c
  rw [t.topics_settled] at htopics
  rw [hsync.acls, t.acls_settled hnamed] at hacls
  rw [hsync.users, t.users_settled options husers, ← hsync.users] at hwusers
  exact ⟨hacls, hwusers, htopics⟩

/-- From anywhere halfway, an apply leads to a world in sync if and only if it leads to the desired
connectors. -/
theorem World.Halfway.inSync_iff {t : Topology} {options : PlanOptions} {recorded : State}
    {w₀ w : World} {servers : ConnectServers} (h : Halfway t options recorded w₀ w)
    (c : Circumstances) (hsync : w₀.InSync servers recorded)
    (hnamed : ∀ b ∈ recorded.bindings, b.Named)
    (husers : Set.InjOn KafkaTools.userName
      (Account.principal '' recorded.accounts.elements ∪
        Account.principal '' t.accounts.elements)) :
    (w.after (t.operations options c recorded)).InSync servers (t.settled options recorded) ↔
      ((w.after (t.operations options c recorded)).connectors servers).Holds
        t.artefacts.elements := by
  obtain ⟨hacls, hwusers, htopics⟩ := h.settled c hsync hnamed husers
  refine ⟨fun h => h.connectors, fun hconnectors => ?_⟩
  constructor
  · rw [htopics, t.elements_topics_settled]
    exact Set.sdiff_subset_sdiff_left (Set.union_subset_union_left _ hsync.topics)
  · exact hacls
  · rw [hwusers, Topology.settled, hsync.users]
    cases options.managesAccounts with
    | false => rfl
    | true => exact (t.image_user_preferring _).symm
  · exact hconnectors

end KafkaTopology
