import KafkaTopology.Proofs.Cluster.Brokers
import KafkaTopology.Proofs.Host.FileTree
import KafkaTopology.Proofs.Planner.Ownership
/-!
# Settings of topics

Every apply sets the settings that its topology declares, on topics that exist and on those that it
makes. No command takes a setting away, so what one topology declares is laid over what earlier ones
did.

* `Topology.brokers_after` — an apply lays the declared settings of a topic over those that it has.
* `Topology.settings_accumulate` — after two applies a topic has what the second declares and what
  the first declared besides. That is what the second declares if and only if it declares every
  setting that the first did.
* `Ledger.dropped_setting_stays` — a setting that is no longer declared stays.
-/
namespace KafkaTopology

/-! ## Applies -/

/-- The settings that a topic declares and that it can be given when it exists. -/
def Topic.plain (topic : Topic) : Settings := (KafkaTools.plainConfig topic.config).get?

namespace Topology

variable {t : Topology} {options : PlanOptions} {c : Circumstances} {recorded : State}

/-- Whether the settings of all topics are written in words. -/
def InWords (t : Topology) : Prop := ∀ topic ∈ t.topics, KafkaTools.InWords topic.config

/-- The topic with a name. -/
def topic? (t : Topology) (name : String) : Option Topic :=
  t.topics.find? (·.fullName == name)

/-- The settings that are declared for a name. -/
def plainOf (t : Topology) (name : String) : Settings :=
  ((t.topic? name).map Topic.plain).getD Settings.none

theorem topic?_eq_some (h : t.topicNames.Nodup) {topic : Topic} (htopic : topic ∈ t.topics) :
    t.topic? topic.fullName = some topic := by
  obtain ⟨other, hother⟩ : ∃ other, t.topic? topic.fullName = some other :=
    Option.isSome_iff_exists.1 (List.find?_isSome.2 ⟨topic, htopic, beq_self_eq_true _⟩)
  have hname : other.fullName = topic.fullName := by simpa using List.find?_some hother
  rw [hother, List.inj_on_of_nodup_map h (List.mem_of_find?_eq_some hother) htopic hname]

/-- What a plan does to the settings of topics: every declared topic is brought in line, and then
those that are given up go. -/
theorem topicChanges_operations (h : t.InWords) :
    (t.operations options c recorded).filterMap Operation.topicChange? =
      (t.topics.flatMap fun topic =>
        (Action.syncTopic topic.fullName topic.config).topicChanges) ++
      (t.givenUp options recorded).map .delete := by
  have hactions : ∀ a ∈ t.actions options recorded, a.InWords := by
    intro a ha
    rcases mem_actions ha with ⟨topic, htopic, rfl⟩ | ⟨-, rfl⟩ | rfl | rfl | ⟨_, -, rfl⟩ |
      ⟨_, -, rfl⟩ | ⟨-, rfl⟩ | ⟨-, rfl⟩
    case inl => exact h topic htopic
    all_goals trivial
  rw [filterMap_operations _ _ _ _ fun _ _ => rfl, List.flatMap_congr fun a ha =>
    Action.filterMap_topicChange? _ _ (hactions a ha),
    flatMap_actions t options recorded rfl rfl rfl rfl rfl]
  simp only [Action.topicChanges, flatMap_none, ite_self, List.append_nil, givenUp]
  cases options.deletesTopics <;> rfl

/-- Bringing topics in line, each of which is declared once. -/
theorem foldl_topics {topics : List Topic} (h : (topics.map (·.fullName)).Nodup) (b : Brokers)
    (name : String) :
    (topics.flatMap fun topic =>
        (Action.syncTopic topic.fullName topic.config).topicChanges).foldl Brokers.change b name =
      match topics.find? (·.fullName == name) with
      | some topic => some ((b.settings name).set (KafkaTools.plainConfig topic.config).toPairs)
      | none => b name := by
  induction topics generalizing b with
  | nil => rfl
  | cons topic topics ih =>
    rw [List.map_cons, List.nodup_cons] at h
    rw [List.flatMap_cons, List.foldl_append, Action.foldl_syncTopic, ih h.2, List.find?_cons]
    by_cases hname : topic.fullName = name
    · -- No later topic has this name.
      have hnone : topics.find? (·.fullName == name) = none := by
        rw [List.find?_eq_none]
        exact fun other hother heq =>
          h.1 (List.mem_map.2 ⟨other, hother, (beq_iff_eq.1 heq).trans hname.symm⟩)
      simp [hnone, hname]
    · have hsame : ∀ v, Function.update b topic.fullName v name = b name := fun v =>
        Function.update_of_ne (Ne.symm hname) v b
      simp only [beq_false_of_ne hname, hsame, Brokers.settings]

/-- A name that is given up is not declared. -/
theorem topic?_eq_none {name : String} (hgone : name ∈ t.givenUp options recorded) :
    t.topic? name = none := by
  rw [givenUp] at hgone
  split at hgone
  · refine List.find?_eq_none.2 fun topic htopic heq => (OrderedSet.mem_delete.1 hgone).2 ?_
    exact OrderedSet.mem_ofList.2 (List.mem_map.2 ⟨topic, htopic, beq_iff_eq.1 heq⟩)
  · cases hgone

/-- **Settings after an apply.** A declared topic is there, with its declared settings laid over
those that it had. Of the others those that are given up are gone, and the rest is as it was. -/
theorem brokers_after (hwords : t.InWords) (hdistinct : t.topicNames.Nodup) (b : Brokers)
    (name : String) :
    b.after (t.operations options c recorded) name =
      if name ∈ t.givenUp options recorded then none
      else match t.topic? name with
        | some topic => some fun key => (topic.plain key).or (b.settings name key)
        | none => b name := by
  rw [Brokers.after, topicChanges_operations hwords, List.foldl_append, Brokers.foldl_delete,
    foldl_topics hdistinct, topic?]
  simp only [Settings.set_toPairs, Topic.plain]

/-- On brokers without topics an apply leaves what it declares. -/
theorem settings_after_empty (hwords : t.InWords) (hdistinct : t.topicNames.Nodup)
    (name : String) :
    (Brokers.empty.after (t.operations options c recorded)).settings name = t.plainOf name := by
  rw [Brokers.settings, brokers_after hwords hdistinct, plainOf]
  by_cases hgone : name ∈ t.givenUp options recorded
  · rw [if_pos hgone, topic?_eq_none hgone]
    rfl
  · rw [if_neg hgone]
    cases t.topic? name with
    | none => rfl
    | some topic =>
      funext key
      exact Option.or_none

/-- The topic that a name is declared for, after an apply. -/
theorem brokers_after_topic (hwords : t.InWords) (hdistinct : t.topicNames.Nodup) (b : Brokers)
    {topic : Topic} (htopic : topic ∈ t.topics) :
    b.after (t.operations options c recorded) topic.fullName =
      some fun key => (topic.plain key).or (b.settings topic.fullName key) := by
  have hsome := topic?_eq_some hdistinct htopic
  have hkept : topic.fullName ∉ t.givenUp options recorded := fun hgone => by
    rw [topic?_eq_none hgone] at hsome
    cases hsome
  rw [brokers_after hwords hdistinct, if_neg hkept, hsome]

/-- **Settings accumulate.** Let two applies succeed, the first on brokers without topics. Each topic
of the second topology then has the settings that it declares there and, under all other keys, those
that the first one declared for its name. These are exactly the settings that it declares there if
and only if none is dropped: every key that the first topology has is declared again. -/
theorem settings_accumulate {t₁ t₂ : Topology} {options₁ options₂ : PlanOptions}
    {c₁ c₂ : Circumstances} {recorded : State} {summary₁ summary₂ : RunSummary}
    (hwords₁ : t₁.InWords) (hwords₂ : t₂.InWords) (hdistinct₁ : t₁.topicNames.Nodup)
    (hdistinct₂ : t₂.topicNames.Nodup)
    (hfirst : (t₁.apply options₁ c₁ recorded).outcome = .ok summary₁)
    (hsecond : (t₂.apply options₂ c₂ (t₁.apply options₁ c₁ recorded).recorded).outcome =
      .ok summary₂) :
    let first := t₁.apply options₁ c₁ recorded
    let second := t₂.apply options₂ c₂ first.recorded
    let brokers := (Brokers.empty.after first.done).after second.done
    ∀ topic ∈ t₂.topics,
      (brokers topic.fullName =
        some fun key => (topic.plain key).or (t₁.plainOf topic.fullName key)) ∧
      (brokers topic.fullName = some topic.plain ↔
        ∀ key, (t₁.plainOf topic.fullName key).isSome → (topic.plain key).isSome) := by
  intro first second brokers topic htopic
  have hleft : brokers topic.fullName =
      some fun key => (topic.plain key).or (t₁.plainOf topic.fullName key) := by
    show (Brokers.empty.after first.done).after second.done topic.fullName = _
    rw [(done_and_recorded hfirst).1, (done_and_recorded hsecond).1,
      brokers_after_topic hwords₂ hdistinct₂ _ htopic, settings_after_empty hwords₁ hdistinct₁]
  refine ⟨hleft, ?_⟩
  rw [hleft, Option.some.injEq, funext_iff]
  refine forall_congr' fun key => ?_
  cases topic.plain key <;> cases t₁.plainOf topic.fullName key <;> simp

end Topology

/-! ## A dropped setting -/

namespace Ledger

/-- A topology as it is written, with one topic. -/
def document (config : Entries) : Document :=
  .mapping [
    ("context", .text "acme"),
    ("projects", .list [.mapping [
      ("name", .text "orders"),
      ("topics", .list [.mapping [("name", .text "ledger"), ("config", .mapping config)]])]])]

/-- The topology with that topic. -/
def topology (config : OrderedMap String String) : Topology where
  context := "acme"
  attributes := []
  separator := "."
  platform := .empty
  projects := [{
    name := "orders"
    qualifiedName := "acme.orders"
    order := ["context"]
    consumers := none
    producers := none
    streams := none
    connectors := none
    schemas := none
    rbac := ∅
    topics := [⟨"ledger", none, config, "acme.orders.ledger"⟩] }]

/-- The settings that are declared at first. -/
def compacted : OrderedMap String String :=
  .ofPairs [("cleanup.policy", "compact"), ("retention.ms", "1000")]

/-- The settings that are declared later: the policy is dropped. -/
def plain : OrderedMap String String := .ofPairs [("retention.ms", "2000")]

/-- A host on which all tools end well. -/
def host (calls : List Call) : Host where
  files := ⟨[(["kafka-topics"], .file .binary true), (["kafka-configs"], .file .binary true)]⟩
  environment := ⟨[], none⟩
  searchPath := [""]
  tools := fun _ _ => .success
  servers := fun _ _ => .unreachable "timed out"
  clock := default
  consent := none
  output := ""
  calls

/-- What an apply meets on the host. -/
def circumstances : Circumstances := ⟨.standard, host [], none⟩

/-- Topics stay, and accounts are not managed. -/
def options : PlanOptions := ⟨false, false⟩

/-- The tools of the host. -/
def tools : KafkaTools := .ofConfig .standard (host []).environment

/-- Whether a command is fit for the host. -/
def fit (c : Command) : Bool :=
  (c.tool == "kafka-topics" || c.tool == "kafka-configs") &&
    (c.tool :: c.arguments).all fun word =>
      !word.toList.contains '\x00' && word.utf8ByteSize < 131072

theorem run_ok {c : Command} (h : fit c = true) (message : String) (calls : List Call) :
    (KafkaTools.run message c).on (host calls) = (.ok (), host (calls ++ [.ran c .success])) := by
  rw [fit, Bool.and_eq_true, Bool.or_eq_true, beq_iff_eq, beq_iff_eq] at h
  have hstart : (host calls).checkStartable c.tool = .ok () := by
    rcases h.1 with htool | htool <;> rw [htool]
    · exact Host.checkStartable_plain (by decide +kernel) rfl rfl
    · exact Host.checkStartable_plain (by decide +kernel) rfl rfl
  have hcheck : (host calls).checkCommand c = .ok () := by
    rw [Host.checkCommand_plain h.2, hstart]
    rfl
  exact KafkaTools.run_success message hcheck rfl

/-- A topic with plain settings is brought in line by two commands. -/
theorem syncTopic_ok {name : String} {config : OrderedMap String String} {c : Command}
    (hcreate : fit (tools.createTopic name config) = true)
    (halter : tools.alterTopic? name config = some c) (hfit : fit c = true) :
    ((tools.syncTopic name config).on (host [])).1 = .ok () := by
  rw [KafkaTools.syncTopic, Attempt.on_bind_ok (run_ok hcreate _ []), halter]
  exact congrArg Prod.fst (run_ok hfit _ _)

/-- An apply that has one topic to bring in line succeeds. -/
theorem apply_ok {t : Topology} {recorded : State} (name : String)
    (config : OrderedMap String String) {c : Command}
    (hactions : t.actions options recorded = [.syncTopic name config])
    (hcreate : fit (tools.createTopic name config) = true)
    (halter : tools.alterTopic? name config = some c) (hfit : fit c = true) :
    ∃ summary, (t.apply options circumstances recorded).outcome = .ok summary := by
  refine Topology.apply_of_succeed (c := circumstances) rfl ?_
  rw [hactions]
  exact ⟨syncTopic_ok hcreate halter hfit, trivial⟩

theorem apply_compacted :
    ∃ summary, ((topology compacted).apply options circumstances .empty).outcome = .ok summary :=
  apply_ok "acme.orders.ledger" compacted rfl (by decide +kernel) rfl
    (by decide +kernel)

theorem apply_plain :
    ∃ summary, ((topology plain).apply options circumstances
      ((topology compacted).apply options circumstances .empty).recorded).outcome = .ok summary := by
  obtain ⟨_, hfirst⟩ := apply_compacted
  rw [(Topology.done_and_recorded hfirst).2]
  exact apply_ok "acme.orders.ledger" plain rfl (by decide +kernel) rfl
    (by decide +kernel)

theorem inWords (config : OrderedMap String String) (h : KafkaTools.InWords config) :
    (topology config).InWords := by
  intro topic htopic
  obtain rfl := List.mem_singleton.1 htopic
  exact h

theorem nodup_topicNames (config : OrderedMap String String) :
    (topology config).topicNames.Nodup := List.nodup_singleton _

/-- What is on the brokers after both applies. -/
def brokers : Brokers :=
  let first := (topology compacted).apply options circumstances .empty
  let second := (topology plain).apply options circumstances first.recorded
  (Brokers.empty.after first.done).after second.done

/-- The policy of the topic is declared at first and then dropped, but it stays on the brokers. -/
theorem dropped_setting_stays :
    Topology.ofDocument ⟨∅, "."⟩ (document
        [("cleanup.policy", .text "compact"), ("retention.ms", .text "1000")]) =
      .ok (topology compacted) ∧
    Topology.ofDocument ⟨∅, "."⟩ (document [("retention.ms", .text "2000")]) =
      .ok (topology plain) ∧
    (topology compacted).InWords ∧ (topology plain).InWords ∧
    (topology compacted).topicNames.Nodup ∧ (topology plain).topicNames.Nodup ∧
    (∃ summary, ((topology compacted).apply options circumstances .empty).outcome =
      .ok summary) ∧
    (∃ summary, ((topology plain).apply options circumstances
      ((topology compacted).apply options circumstances .empty).recorded).outcome =
        .ok summary) ∧
    ∃ topic ∈ (topology plain).topics, topic.plain "cleanup.policy" = none ∧
      (brokers.settings topic.fullName) "cleanup.policy" = some "compact" ∧
      brokers topic.fullName ≠ some topic.plain := by
  obtain ⟨summary₁, h₁⟩ := apply_compacted
  obtain ⟨summary₂, h₂⟩ := apply_plain
  have hwords₁ := inWords compacted (by decide +kernel)
  have hwords₂ := inWords plain (by decide +kernel)
  have hleft : brokers "acme.orders.ledger" = some fun key =>
      ((KafkaTools.plainConfig plain).get? key).or
        ((topology compacted).plainOf "acme.orders.ledger" key) := by
    rw [brokers, (Topology.done_and_recorded h₁).1, (Topology.done_and_recorded h₂).1,
      ← Topology.settings_after_empty hwords₁ (nodup_topicNames _)]
    exact Topology.brokers_after_topic hwords₂ (nodup_topicNames _) _ (List.mem_singleton.2 rfl)
  have hpolicy : (brokers.settings "acme.orders.ledger") "cleanup.policy" = some "compact" := by
    rw [Brokers.settings, hleft]
    decide +kernel
  refine ⟨rfl, rfl, hwords₁, hwords₂, nodup_topicNames _, nodup_topicNames _, ⟨summary₁, h₁⟩,
    ⟨summary₂, h₂⟩, _, List.mem_singleton.2 rfl, by decide +kernel, hpolicy, fun heq => ?_⟩
  have hnone : (brokers.settings "acme.orders.ledger") "cleanup.policy" = none := by
    rw [Brokers.settings, heq]
    decide +kernel
  rw [hpolicy] at hnone
  cases hnone

end Ledger

/-- A topic is applied with two settings and then with one of them: it does not have exactly the
settings that are declared. -/
theorem Topology.settings_accumulate_ledger :
    (Ledger.topology Ledger.compacted).InWords ∧ (Ledger.topology Ledger.plain).InWords ∧
      (Ledger.topology Ledger.compacted).topicNames.Nodup ∧
      (Ledger.topology Ledger.plain).topicNames.Nodup ∧
      (∃ summary, ((Ledger.topology Ledger.compacted).apply Ledger.options Ledger.circumstances
        .empty).outcome = .ok summary) ∧
      (∃ summary, ((Ledger.topology Ledger.plain).apply Ledger.options Ledger.circumstances
        ((Ledger.topology Ledger.compacted).apply Ledger.options Ledger.circumstances
          .empty).recorded).outcome = .ok summary) ∧
      ∀ topic ∈ (Ledger.topology Ledger.plain).topics,
        Ledger.brokers topic.fullName ≠ some topic.plain := by
  have hwords₁ := Ledger.inWords Ledger.compacted (by decide +kernel)
  have hwords₂ := Ledger.inWords Ledger.plain (by decide +kernel)
  obtain ⟨summary₁, h₁⟩ := Ledger.apply_compacted
  obtain ⟨summary₂, h₂⟩ := Ledger.apply_plain
  refine ⟨hwords₁, hwords₂, Ledger.nodup_topicNames _, Ledger.nodup_topicNames _, ⟨_, h₁⟩,
    ⟨_, h₂⟩, fun topic htopic heq => ?_⟩
  have hall := (settings_accumulate hwords₁ hwords₂ (Ledger.nodup_topicNames _)
    (Ledger.nodup_topicNames _) h₁ h₂ topic htopic).2.1 heq "cleanup.policy"
  obtain rfl := List.mem_singleton.1 htopic
  exact absurd (hall (by decide +kernel)) (by decide +kernel)

end KafkaTopology
