import KafkaTopology.Proofs.Cluster.Script
import KafkaTopology.Proofs.OrderedMap
import Mathlib.Logic.Function.Basic
/-!
# Settings on the brokers

The settings that topics have on the brokers. `Brokers.change` says what the tools do to them, by
reading the arguments of a command: making a topic gives it settings only if there is no such topic
yet, and altering it sets those that are listed and leaves all others alone. What is written into a
command can be read from it as long as keys and values have neither commas nor equals signs.
-/
namespace KafkaTopology

/-- The settings of a topic, by their keys. -/
abbrev Settings := String → Option String

namespace Settings

/-- No settings. -/
def none : Settings := fun _ => Option.none

/-- Sets entries, in order; settings without an entry stay. -/
def set (m : Settings) (entries : List (String × String)) : Settings :=
  entries.foldl (fun m entry => Function.update m entry.1 (some entry.2)) m

/-- The last entry of a key counts. -/
theorem set_apply (m : Settings) (entries : List (String × String)) (key : String) :
    m.set entries key = ((entries.reverse.find? (·.1 == key)).map (·.2)).or (m key) := by
  induction entries generalizing m with
  | nil => rfl
  | cons entry entries ih =>
    have hcons : m.set (entry :: entries) =
        (set (Function.update m entry.1 (some entry.2)) entries) := rfl
    rw [hcons, ih, List.reverse_cons, List.find?_append]
    cases entries.reverse.find? (·.1 == key) with
    | some found => rfl
    | none =>
      by_cases hkey : entry.1 = key
      · simp [hkey]
      · simp [hkey, Function.update_of_ne (Ne.symm hkey)]

/-- Setting the entries of a map. -/
theorem set_toPairs (m : Settings) (config : OrderedMap String String) :
    m.set config.toPairs = fun key => (config.get? key).or (m key) := by
  funext key
  have hfind : (config.toPairs.reverse.find? (·.1 == key)).map (·.2) = config.get? key := by
    have hsame : (fun e : Entry String String => e.key == key) =
        fun e => compare (⟨key, ""⟩ : Entry String String) e == .eq := by
      funext e
      rw [Bool.eq_iff_iff, beq_iff_eq, beq_iff_eq]
      exact eq_comm.trans Std.LawfulEqOrd.compare_eq_iff_eq.symm
    have hmem : ∀ e, e ∈ config.toList.reverse ↔ e ∈ config := fun _ => List.mem_reverse
    have hreverse := OrderedSet.find?_of_mem_iff hmem ⟨key, ""⟩
    rw [OrderedMap.toPairs, ← List.map_reverse, List.find?_map, Option.map_map]
    show (config.toList.reverse.find? fun e => e.key == key).map Entry.value = _
    rw [hsame, hreverse]
    rfl
  rw [set_apply, hfind]

/-- Setting the same entries twice. -/
theorem set_set (m : Settings) (config : OrderedMap String String) :
    (m.set config.toPairs).set config.toPairs = m.set config.toPairs := by
  simp only [set_toPairs, ← Option.or_assoc, Option.or_self]

end Settings

/-! ## Reading settings -/

namespace KafkaTools

/-- Whether a text has neither of the signs by which settings are told apart. -/
def IsWord (s : String) : Prop := ',' ∉ s.toList ∧ '=' ∉ s.toList

instance (s : String) : Decidable (IsWord s) := inferInstanceAs (Decidable (_ ∧ _))

/-- Whether settings are written in words. -/
def InWords (config : OrderedMap String String) : Prop :=
  ∀ entry ∈ config.toPairs, IsWord entry.1 ∧ IsWord entry.2

instance (config : OrderedMap String String) : Decidable (InWords config) :=
  inferInstanceAs (Decidable (∀ entry ∈ config.toPairs, IsWord entry.1 ∧ IsWord entry.2))

/-- The settings that an existing topic can be given. -/
def plainConfig (config : OrderedMap String String) : OrderedMap String String :=
  config.filter fun entry => (creationFlag? entry.key).isNone

/-- A setting as it is read: a key, and the value after the first equals sign. -/
def readSetting (s : String) : String × String :=
  (.ofList (s.toList.takeWhile (· != '=')), .ofList ((s.toList.dropWhile (· != '=')).drop 1))

/-- The settings among arguments that come in pairs of a flag and its value. -/
def readFlags : List String → List (String × String)
  | flag :: value :: rest =>
    if flag = "--config" then readSetting value :: readFlags rest else readFlags rest
  | _ => []

/-- The settings of a list with commas. -/
def readList (s : String) : List (String × String) :=
  (s.toList.splitOn ',').map fun setting => readSetting (.ofList setting)

theorem toList_setting (key value : String) :
    (key ++ "=" ++ value).toList = key.toList ++ '=' :: value.toList := by
  simp

theorem readSetting_append {key : String} (h : '=' ∉ key.toList) (value : String) :
    readSetting (key ++ "=" ++ value) = (key, value) := by
  have hall : ∀ c ∈ key.toList, (c != '=') = true := fun c hc =>
    bne_iff_ne.2 fun heq => h (heq ▸ hc)
  rw [readSetting, toList_setting, List.takeWhile_append_of_pos hall,
    List.dropWhile_append_of_pos hall]
  simp

theorem toPairs_plainConfig (config : OrderedMap String String) :
    (plainConfig config).toPairs = config.toPairs.filter fun entry =>
      (creationFlag? entry.1).isNone := by
  rw [OrderedMap.toPairs, OrderedMap.toPairs, List.filter_map]
  rfl

theorem InWords.plainConfig {config : OrderedMap String String} (h : InWords config) :
    InWords (plainConfig config) := by
  intro entry hentry
  rw [toPairs_plainConfig] at hentry
  exact h entry (List.mem_of_mem_filter hentry)

theorem creationFlag?_cases {key flag : String} (h : creationFlag? key = some flag) :
    flag = "--partitions" ∨ flag = "--replication-factor" := by
  rw [creationFlag?] at h
  split at h
  · exact .inl (Option.some.inj h).symm
  · split at h
    · exact .inr (Option.some.inj h).symm
    · cases h

/-- What is read from the flags of a new topic. -/
theorem readFlags_settings {entries : List (String × String)}
    (h : ∀ entry ∈ entries, IsWord entry.1) :
    readFlags (entries.flatMap fun (key, value) => settingArguments key value) =
      entries.filter fun entry => (creationFlag? entry.1).isNone := by
  induction entries with
  | nil => rfl
  | cons entry entries ih =>
    obtain ⟨hentry, hentries⟩ := List.forall_mem_cons.1 h
    have hflag : ∀ flag, creationFlag? entry.1 = some flag → flag ≠ "--config" := by
      intro flag hflag
      rcases creationFlag?_cases hflag with rfl | rfl <;> decide
    rw [List.flatMap_cons]
    show readFlags (settingArguments entry.1 entry.2 ++ _) = _
    rw [settingArguments]
    cases hkey : creationFlag? entry.1 with
    | some flag => simp [readFlags, hflag flag hkey, ih hentries, hkey]
    | none => simp [readFlags, readSetting_append hentry.2, ih hentries, hkey]

/-- What is read from the list of altered settings. -/
theorem readList_settings {entries : List (String × String)} (hne : entries ≠ [])
    (h : ∀ entry ∈ entries, IsWord entry.1 ∧ ',' ∉ entry.2.toList) :
    readList (",".intercalate (entries.map fun (key, value) => key ++ "=" ++ value)) =
      entries := by
  have hlist : (",".intercalate (entries.map fun (key, value) => key ++ "=" ++ value)).toList =
      [','].intercalate (entries.map fun (key, value) => (key ++ "=" ++ value).toList) := by
    rw [String.toList_intercalate, List.map_map]
    rfl
  have hcomma : ∀ setting ∈ entries.map fun (key, value) => (key ++ "=" ++ value).toList,
      ',' ∉ setting := by
    intro setting hsetting
    obtain ⟨entry, hentry, rfl⟩ := List.mem_map.1 hsetting
    simp [(h entry hentry).1.1, (h entry hentry).2]
  rw [readList, hlist, List.splitOn_intercalate ',' hcomma (by simpa using hne), List.map_map]
  refine (List.map_congr_left fun entry hentry => ?_).trans (List.map_id entries)
  show readSetting (.ofList (entry.1 ++ "=" ++ entry.2).toList) = entry
  rw [String.ofList_toList, readSetting_append (h entry hentry).1.2]

end KafkaTools

/-! ## Brokers -/

/-- What an operation does to the settings of a topic. -/
inductive TopicChange where
  | create (name : String) (settings : List (String × String))
  | alter (name : String) (settings : List (String × String))
  | delete (name : String)

/-- What an operation does to the settings of topics. -/
def Operation.topicChange? : Operation → Option TopicChange
  | .tool "kafka-topics" ("--create" :: "--if-not-exists" :: "--topic" :: name :: flags) =>
    some (.create name (KafkaTools.readFlags flags))
  | .tool "kafka-topics" ["--delete", "--if-exists", "--topic", name] => some (.delete name)
  | .tool "kafka-configs"
      ["--alter", "--entity-type", "topics", "--entity-name", name, "--add-config", settings] =>
    some (.alter name (KafkaTools.readList settings))
  | _ => none

/-- The topics of the brokers, each with its settings. -/
abbrev Brokers := String → Option Settings

namespace Brokers

/-- Brokers without topics. -/
def empty : Brokers := fun _ => none

/-- The brokers after a change. Only a topic that is made is given the settings it is made with. -/
def change (b : Brokers) : TopicChange → Brokers
  | .create name settings =>
    Function.update b name (some ((b name).getD (Settings.none.set settings)))
  | .alter name settings => Function.update b name ((b name).map (·.set settings))
  | .delete name => Function.update b name none

/-- The brokers after operations, in order. -/
def after (b : Brokers) (ops : List Operation) : Brokers :=
  (ops.filterMap Operation.topicChange?).foldl change b

/-- The settings that a topic has, if there is such a topic. -/
def settings (b : Brokers) (name : String) : Settings := (b name).getD Settings.none

/-- Topics that are deleted are gone, and others stay. -/
theorem foldl_delete (b : Brokers) (names : List String) (name : String) :
    (names.map TopicChange.delete).foldl change b name =
      if name ∈ names then none else b name := by
  induction names generalizing b with
  | nil => rfl
  | cons other names ih =>
    rw [List.map_cons, List.foldl_cons, ih, change]
    by_cases hother : name = other
    · simp [hother]
    · simp [hother]

end Brokers

/-! ## Actions -/

namespace KafkaTools

theorem plainSettings_eq (config : OrderedMap String String) :
    plainSettings config =
      (plainConfig config).toPairs.map fun (key, value) => key ++ "=" ++ value := by
  rw [plainSettings, toPairs_plainConfig]

theorem plainSettings_eq_nil_iff {config : OrderedMap String String} :
    plainSettings config = [] ↔ (plainConfig config).toPairs = [] := by
  rw [plainSettings_eq, List.map_eq_nil_iff]

/-- The command that alters a topic, if there is one. -/
theorem alterTopic?_eq (k : KafkaTools) (name : String) (config : OrderedMap String String) :
    k.alterTopic? name config =
      if plainSettings config = [] then none
      else some (k.command "kafka-configs" ["--alter", "--entity-type", "topics", "--entity-name",
        name, "--add-config", ",".intercalate (plainSettings config)]) := by
  rw [alterTopic?]
  split
  · rename_i hnone
    rw [if_pos hnone]
  · rename_i hsome
    rw [if_neg hsome]

/-- The operation that alters a topic, if there is one. -/
theorem map_read_alterTopic (k : KafkaTools) (name : String) (config : OrderedMap String String) :
    (k.alterTopic? name config).map k.read =
      if (plainConfig config).toPairs = [] then none
      else some (.tool "kafka-configs" ["--alter", "--entity-type", "topics", "--entity-name",
        name, "--add-config", ",".intercalate (plainSettings config)]) := by
  rw [alterTopic?_eq, apply_ite (Option.map k.read), Option.map_none, Option.map_some,
    k.read_command (by simp [names])]
  simp only [plainSettings_eq_nil_iff]

end KafkaTools

namespace Action

/-- What an action does to the settings of topics. -/
def topicChanges : Action → List TopicChange
  | .syncTopic name config =>
    .create name (KafkaTools.plainConfig config).toPairs ::
      if (KafkaTools.plainConfig config).toPairs = [] then []
      else [.alter name (KafkaTools.plainConfig config).toPairs]
  | .deleteTopics names => names.map .delete
  | _ => []

/-- Whether the settings in an action are written in words. -/
def InWords : Action → Prop
  | .syncTopic _ config => KafkaTools.InWords config
  | _ => True

theorem topicChange?_createTopic (k : KafkaTools) (name : String)
    {config : OrderedMap String String} (h : KafkaTools.InWords config) :
    (k.read (k.createTopic name config)).topicChange? =
      some (.create name (KafkaTools.plainConfig config).toPairs) := by
  rw [k.read_createTopic, KafkaTools.toPairs_plainConfig,
    ← KafkaTools.readFlags_settings fun entry hentry => (h entry hentry).1]
  rfl

theorem filterMap_alterTopic (k : KafkaTools) (name : String)
    {config : OrderedMap String String} (h : KafkaTools.InWords config) :
    ((k.alterTopic? name config).toList.map k.read).filterMap Operation.topicChange? =
      if (KafkaTools.plainConfig config).toPairs = [] then []
      else [.alter name (KafkaTools.plainConfig config).toPairs] := by
  rw [← Option.toList_map, k.map_read_alterTopic]
  by_cases hnone : (KafkaTools.plainConfig config).toPairs = []
  · rw [if_pos hnone, if_pos hnone]
    rfl
  · have hread := KafkaTools.readList_settings hnone fun entry hentry =>
      ⟨(h.plainConfig entry hentry).1, (h.plainConfig entry hentry).2.1⟩
    rw [← KafkaTools.plainSettings_eq] at hread
    rw [if_neg hnone, if_neg hnone, ← hread]
    rfl

theorem filterMap_topicChange? (k : KafkaTools) (password : String) {a : Action}
    (h : a.InWords) :
    ((a.commands k password).map k.read).filterMap Operation.topicChange? = a.topicChanges := by
  cases a with
  | syncTopic name config =>
    rw [commands, List.map_cons, List.filterMap_cons, topicChange?_createTopic k name h,
      filterMap_alterTopic k name h]
    rfl
  | deleteTopics names =>
    exact filterMap_read_some k (fun n => by rw [k.read_deleteTopic]; rfl) names
  | createBindings bs => exact filterMap_read_none k (fun b => by rw [k.read_addBinding]; rfl) bs
  | clearBindings bs => exact filterMap_read_none k (fun b => by rw [k.read_removeBinding]; rfl) bs
  | createAccounts accounts =>
    exact filterMap_read_none k (fun a => by rw [k.read_upsertAccount]; rfl) accounts
  | clearAccounts accounts =>
    exact filterMap_read_none k (fun a => by rw [k.read_deleteAccount]; rfl) accounts
  | createArtefact a => rfl
  | deleteArtefact a => rfl

/-- Bringing a topic in line lays its declared settings over those that it has, also if it has to be
made first. -/
theorem foldl_syncTopic (b : Brokers) (name : String) (config : OrderedMap String String) :
    (syncTopic name config).topicChanges.foldl Brokers.change b =
      Function.update b name
        (some ((b.settings name).set (KafkaTools.plainConfig config).toPairs)) := by
  rw [topicChanges, List.foldl_cons, Brokers.change, Brokers.settings]
  by_cases hnone : (KafkaTools.plainConfig config).toPairs = []
  · rw [if_pos hnone, hnone]
    rfl
  · rw [if_neg hnone, List.foldl_cons, List.foldl_nil, Brokers.change, Function.update_self,
      Function.update_idem, Option.map_some]
    -- A topic that is made with its settings keeps them when they are set once more.
    cases b name with
    | none => rw [Option.getD_none, Option.getD_none, Settings.set_set]
    | some m => rfl

end Action

end KafkaTopology
