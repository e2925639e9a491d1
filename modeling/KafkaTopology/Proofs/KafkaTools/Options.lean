import KafkaTopology.Proofs.Cluster.Settings
/-!
# Options of commands

A tool reads its arguments as options: a flag that is followed by its value, unless it is a switch.
The settings of a topic are passed as options of the command that makes it, and those that a topic
can be given later also as one list to the command that alters it.

* `KafkaTools.createTopic_options` — which setting is passed by which option, and how often.
* `Spellings.partitions_twice` — the number of partitions under two spellings of its key.
-/
namespace KafkaTopology

/-- An option of a command; a switch has no value. -/
structure CommandOption where
  flag : String
  value : Option String
deriving DecidableEq, Repr

namespace CommandOption

/-- The flags that stand alone. -/
def switches : List String := ["--create", "--delete", "--alter", "--if-exists", "--if-not-exists"]

/-- The options that arguments are read as. -/
def ofArguments : List String → List CommandOption
  | [] => []
  | [flag] => [⟨flag, none⟩]
  | flag :: value :: rest =>
    if flag ∈ switches then ⟨flag, none⟩ :: ofArguments (value :: rest)
    else ⟨flag, some value⟩ :: ofArguments rest

/-- The value that an option gives a flag. -/
def valueOf? (flag : String) (option : CommandOption) : Option String :=
  if option.flag = flag then option.value else none

/-- The values that a flag is given, in order. -/
def values (options : List CommandOption) (flag : String) : List String :=
  options.filterMap (valueOf? flag)

@[simp] theorem valueOf?_self (flag : String) (value : Option String) :
    valueOf? flag ⟨flag, value⟩ = value := if_pos rfl

theorem valueOf?_of_ne {flag other : String} (h : other ≠ flag) (value : Option String) :
    valueOf? flag ⟨other, value⟩ = none := if_neg h

theorem values_append (options others : List CommandOption) (flag : String) :
    values (options ++ others) flag = values options flag ++ values others flag :=
  List.filterMap_append

theorem ofArguments_switch (flag : String) (h : flag ∈ switches) (rest : List String) :
    ofArguments (flag :: rest) = ⟨flag, none⟩ :: ofArguments rest := by
  cases rest with
  | nil => rfl
  | cons value rest => rw [ofArguments, if_pos h]

theorem ofArguments_value (flag : String) (h : flag ∉ switches) (value : String)
    (rest : List String) :
    ofArguments (flag :: value :: rest) = ⟨flag, some value⟩ :: ofArguments rest := by
  rw [ofArguments, if_neg h]

end CommandOption

namespace KafkaTools

open CommandOption

/-- The keys that say how many partitions a topic is made with, in order. -/
def partitionKeys : List String := ["num.partitions", "partitions"]

/-- The keys that say how often a topic is replicated when it is made. -/
def replicationKeys : List String := ["replication.factor"]

/-- The settings of a topic that may be passed at any time, as they are passed. -/
def lastingSettings (config : OrderedMap String String) : List String :=
  (config.toPairs.filter fun (key, _) => key ∉ partitionKeys ++ replicationKeys).map
    fun (key, value) => key ++ "=" ++ value

/-- The values of a setting with several keys. -/
def valuesOf (config : OrderedMap String String) (keys : List String) : List String :=
  keys.filterMap config.get?

/-- The option that passes a setting when a topic is made. -/
def settingOption (key value : String) : CommandOption :=
  match creationFlag? key with
  | some flag => ⟨flag, some value⟩
  | none => ⟨"--config", some (key ++ "=" ++ value)⟩

/-! ## Flags of settings -/

theorem creationFlag?_partitions {key : String} :
    creationFlag? key = some "--partitions" ↔ key ∈ partitionKeys := by
  simp only [creationFlag?, partitionKeys, Bool.or_eq_true, beq_iff_eq, List.mem_cons,
    List.not_mem_nil, or_false, or_comm (a := key = "num.partitions")]
  split
  · simp [*]
  · split <;> simp [*]

theorem creationFlag?_replication {key : String} :
    creationFlag? key = some "--replication-factor" ↔ key ∈ replicationKeys := by
  simp only [creationFlag?, replicationKeys, Bool.or_eq_true, beq_iff_eq, List.mem_singleton]
  split
  · rename_i hkey
    rcases hkey with rfl | rfl <;> decide
  · split <;> simp [*]

theorem creationFlag?_eq_none {key : String} :
    creationFlag? key = none ↔ key ∉ partitionKeys ++ replicationKeys := by
  rw [List.mem_append, ← creationFlag?_partitions, ← creationFlag?_replication]
  rw [creationFlag?]
  split
  · simp
  · split <;> simp

theorem plainSettings_eq_lastingSettings (config : OrderedMap String String) :
    plainSettings config = lastingSettings config := by
  rw [plainSettings, lastingSettings]
  congr 2
  funext entry
  rw [Bool.eq_iff_iff, Option.isNone_iff_eq_none, creationFlag?_eq_none, decide_eq_true_iff]

/-! ## Options of settings -/

theorem settingOption_of_some {key flag : String} (h : creationFlag? key = some flag)
    (value : String) : settingOption key value = ⟨flag, some value⟩ := by rw [settingOption, h]

theorem settingOption_of_none {key : String} (h : creationFlag? key = none) (value : String) :
    settingOption key value = ⟨"--config", some (key ++ "=" ++ value)⟩ := by rw [settingOption, h]

theorem ofArguments_settingArguments (key value : String) (rest : List String) :
    ofArguments (settingArguments key value ++ rest) =
      settingOption key value :: ofArguments rest := by
  rw [settingArguments]
  cases h : creationFlag? key with
  | none =>
    rw [settingOption_of_none h]
    exact ofArguments_value "--config" (by decide) _ rest
  | some flag =>
    have hflag : flag ∉ switches := by
      rcases creationFlag?_cases h with rfl | rfl <;> decide
    rw [settingOption_of_some h]
    exact ofArguments_value flag hflag value rest

theorem ofArguments_settings (entries : List (String × String)) :
    ofArguments (entries.flatMap fun (key, value) => settingArguments key value) =
      entries.map fun (key, value) => settingOption key value := by
  induction entries with
  | nil => rfl
  | cons entry entries ih =>
    rw [List.flatMap_cons, List.map_cons, ← ih]
    exact ofArguments_settingArguments entry.1 entry.2 _

theorem valueOf?_settingOption {flag : String} {keys : List String}
    (hkeys : ∀ key, creationFlag? key = some flag ↔ key ∈ keys) (hflag : "--config" ≠ flag)
    (key value : String) :
    valueOf? flag (settingOption key value) = if key ∈ keys then some value else none := by
  by_cases hkey : key ∈ keys
  · rw [settingOption_of_some ((hkeys key).2 hkey), valueOf?_self, if_pos hkey]
  · rw [if_neg hkey]
    cases h : creationFlag? key with
    | none => rw [settingOption_of_none h, valueOf?_of_ne hflag]
    | some other =>
      have hother : other ≠ flag := fun heq => hkey ((hkeys key).1 (heq ▸ h))
      rw [settingOption_of_some h, valueOf?_of_ne hother]

theorem valueOf?_config (key value : String) :
    valueOf? "--config" (settingOption key value) =
      if key ∉ partitionKeys ++ replicationKeys then some (key ++ "=" ++ value) else none := by
  cases h : creationFlag? key with
  | none => rw [settingOption_of_none h, valueOf?_self, if_pos (creationFlag?_eq_none.1 h)]
  | some flag =>
    have hkey : ¬key ∉ partitionKeys ++ replicationKeys := fun hnot => by
      rw [creationFlag?_eq_none.2 hnot] at h
      cases h
    rw [settingOption_of_some h, if_neg hkey]
    rcases creationFlag?_cases h with rfl | rfl <;> rfl

/-- The values of a flag for settings with some keys. -/
theorem values_settings {flag : String} {keys : List String}
    (hkeys : ∀ key, creationFlag? key = some flag ↔ key ∈ keys) (hflag : "--config" ≠ flag)
    (h : Increasing keys) (config : OrderedMap String String) :
    values (config.toPairs.map fun (key, value) => settingOption key value) flag =
      valuesOf config keys := by
  calc values (config.toPairs.map fun (key, value) => settingOption key value) flag
      = config.toPairs.filterMap fun entry => if entry.1 ∈ keys then some entry.2 else none := by
        rw [values, List.filterMap_map]
        exact List.filterMap_congr fun entry _ => valueOf?_settingOption hkeys hflag _ _
    _ = (config.toPairs.filter fun entry => decide (entry.1 ∈ keys)).map (·.2) := by
        rw [← List.filterMap_eq_map, List.filterMap_filter]
        simp only [decide_eq_true_eq, Function.comp_apply]
    _ = valuesOf config keys := by
        rw [OrderedMap.filter_toPairs h, List.map_filterMap, valuesOf]
        simp only [Option.map_map, Function.comp_def, Option.map_id']

/-- The settings behind the flag of all others. -/
theorem values_config (config : OrderedMap String String) :
    values (config.toPairs.map fun (key, value) => settingOption key value) "--config" =
      lastingSettings config := by
  rw [lastingSettings, values, List.filterMap_map, ← List.filterMap_eq_map, List.filterMap_filter]
  refine List.filterMap_congr fun entry _ => (valueOf?_config entry.1 entry.2).trans ?_
  simp only [decide_eq_true_eq, Function.comp_apply]

/-! ## Commands -/

/-- The options that all commands have. -/
def commonOptions (k : KafkaTools) : List CommandOption :=
  ⟨"--bootstrap-server", some k.bootstrapServers⟩ ::
    k.commandConfig.toList.map fun file => ⟨"--command-config", some file⟩

theorem ofArguments_command (k : KafkaTools) (tool : String) (arguments : List String) :
    ofArguments (k.command tool arguments).arguments =
      k.commonOptions ++ ofArguments arguments := by
  rw [command, List.append_assoc, commonOptions]
  refine (ofArguments_value "--bootstrap-server" (by decide) _ _).trans ?_
  cases k.commandConfig with
  | none => rfl
  | some file => exact congrArg _ (ofArguments_value "--command-config" (by decide) file arguments)

theorem values_commonOptions (k : KafkaTools) {flag : String}
    (hserver : flag ≠ "--bootstrap-server") (hfile : flag ≠ "--command-config") :
    values k.commonOptions flag = [] := by
  rw [values, List.filterMap_eq_nil_iff]
  intro option hoption
  rw [commonOptions, List.mem_cons, List.mem_map] at hoption
  rcases hoption with rfl | ⟨file, -, rfl⟩
  · exact valueOf?_of_ne hserver.symm _
  · exact valueOf?_of_ne hfile.symm _

/-- The options of the command that makes a topic: one for each setting, behind those that all
commands have. -/
theorem ofArguments_createTopic (k : KafkaTools) (name : String)
    (config : OrderedMap String String) :
    ofArguments (k.createTopic name config).arguments =
      k.commonOptions ++
        ⟨"--create", none⟩ :: ⟨"--if-not-exists", none⟩ :: ⟨"--topic", some name⟩ ::
          config.toPairs.map fun (key, value) => settingOption key value := by
  rw [createTopic, ofArguments_command, ← ofArguments_settings]
  refine congrArg _ ?_
  refine (ofArguments_switch "--create" (by decide) _).trans (congrArg _ ?_)
  refine (ofArguments_switch "--if-not-exists" (by decide) _).trans (congrArg _ ?_)
  exact ofArguments_value "--topic" (by decide) name _

/-- What a flag of the settings is given when a topic is made. -/
theorem values_createTopic (k : KafkaTools) (name : String) (config : OrderedMap String String)
    {flag : String} (h : flag ∉ ["--bootstrap-server", "--command-config", "--topic"]) :
    values (ofArguments (k.createTopic name config).arguments) flag =
      values (config.toPairs.map fun (key, value) => settingOption key value) flag := by
  simp only [List.mem_cons, List.not_mem_nil, or_false, not_or] at h
  obtain ⟨hserver, hfile, htopic⟩ := h
  rw [ofArguments_createTopic, values_append, values_commonOptions k hserver hfile,
    List.nil_append]
  simp only [values, List.filterMap_cons, valueOf?, ite_self, if_neg (Ne.symm htopic)]

/-- The list of settings that a topic is altered by. -/
theorem values_alterTopic? (k : KafkaTools) (name : String) (config : OrderedMap String String) :
    ((k.alterTopic? name config).map fun alter =>
        values (ofArguments alter.arguments) "--add-config") =
      if lastingSettings config = [] then none
      else some [",".intercalate (lastingSettings config)] := by
  rw [alterTopic?_eq, plainSettings_eq_lastingSettings, apply_ite (Option.map _), Option.map_none,
    Option.map_some, ofArguments_command, values_append,
    values_commonOptions k (by decide) (by decide)]
  rfl

/-- **Options of settings.** The command that makes a topic gives each flag of the settings exactly
the values that the topic has under the keys of that flag, in order of the keys. The settings that
are left are those that the command to alter the topic joins into one list, and there is no such
command when there are none. So `--replication-factor` stands there once at most, and `--partitions`
does unless the topic has both of its keys. -/
theorem createTopic_options (k : KafkaTools) (name : String) (config : OrderedMap String String) :
    let create := ofArguments (k.createTopic name config).arguments
    values create "--partitions" = valuesOf config partitionKeys ∧
    values create "--replication-factor" = valuesOf config replicationKeys ∧
    values create "--config" = lastingSettings config ∧
    ((k.alterTopic? name config).map fun alter =>
        values (ofArguments alter.arguments) "--add-config") =
      (if lastingSettings config = [] then none
        else some [",".intercalate (lastingSettings config)]) ∧
    (values create "--replication-factor").length ≤ 1 ∧
    ((values create "--partitions").length ≤ 1 ↔
      ¬∀ key ∈ partitionKeys, (config.get? key).isSome) := by
  intro create
  have hpartitions : values create "--partitions" = valuesOf config partitionKeys :=
    (values_createTopic k name config (by decide)).trans <|
      values_settings (fun _ => creationFlag?_partitions) (by decide)
        (List.pairwise_pair.2 rfl) config
  have hreplication : values create "--replication-factor" = valuesOf config replicationKeys :=
    (values_createTopic k name config (by decide)).trans <|
      values_settings (fun _ => creationFlag?_replication) (by decide)
        (List.pairwise_singleton _ _) config
  have hconfig : values create "--config" = lastingSettings config :=
    (values_createTopic k name config (by decide)).trans (values_config config)
  refine ⟨hpartitions, hreplication, hconfig, values_alterTopic? k name config, ?_, ?_⟩
  · rw [hreplication]
    exact List.length_filterMap_le _ _
  · have hlength : (valuesOf config partitionKeys).length ≤ 2 := List.length_filterMap_le _ _
    have hall : (valuesOf config partitionKeys).length = 2 ↔
        ∀ key ∈ partitionKeys, (config.get? key).isSome := List.filterMap_length_eq_length
    rw [hpartitions, ← hall]
    omega

end KafkaTools

/-! ## Two spellings of one setting -/

namespace Spellings

open KafkaTools CommandOption

/-- The number of partitions under both of its keys. -/
def config : OrderedMap String String := .ofPairs [("num.partitions", "3"), ("partitions", "4")]

/-- A topology may have both keys, and the command that makes its topic has the flag twice. -/
theorem partitions_twice :
    Topology.ofDocument ⟨∅, "."⟩
        (Ledger.document [("num.partitions", .text "3"), ("partitions", .text "4")]) =
      .ok (Ledger.topology config) ∧
    (Ledger.topology config).actions Ledger.options .empty =
      [.syncTopic "acme.orders.ledger" config] ∧
    values (ofArguments (Ledger.tools.createTopic "acme.orders.ledger" config).arguments)
      "--partitions" = ["3", "4"] ∧
    ¬(values (ofArguments (Ledger.tools.createTopic "acme.orders.ledger" config).arguments)
      "--partitions").length ≤ 1 := by
  have hvalues : values (ofArguments
      (Ledger.tools.createTopic "acme.orders.ledger" config).arguments) "--partitions" =
        ["3", "4"] := by decide +kernel
  refine ⟨rfl, rfl, hvalues, ?_⟩
  rw [hvalues]
  decide

end Spellings

end KafkaTopology
