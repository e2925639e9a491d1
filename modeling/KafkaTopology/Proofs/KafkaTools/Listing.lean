import KafkaTopology.Proofs.KafkaTools.Options
import Mathlib.Data.Finset.Card
/-!
# Lists of settings

The settings that a topic is altered by are joined into one text, each as a key, an equals sign and
a value, with commas between them. Nothing is escaped, so one text can be the list of different
settings.

* `KafkaTools.alterTopic?_determines_iff` — the command tells the settings if and only if its text
  can be read in one way at most as a single setting.
* `Ambiguous.same_command` — two topologies with different settings and the same command.
-/
namespace KafkaTopology

namespace KafkaTools

/-! ## Readings -/

/-- The ways to cut a text at an equals sign. -/
def cuts : List Char → List (List Char × List Char)
  | [] => []
  | c :: cs =>
    let later := (cuts cs).map fun (before, behind) => (c :: before, behind)
    if c = '=' then ([], cs) :: later else later

/-- The single settings of existing topics that a text can be read as. -/
def readings (text : String) : List (String × String) :=
  ((cuts text.toList).map fun (key, value) => (String.ofList key, String.ofList value)).filter
    fun (key, _) => (creationFlag? key).isNone

theorem mem_cuts_iff {cs before behind : List Char} :
    (before, behind) ∈ cuts cs ↔ cs = before ++ '=' :: behind := by
  induction cs generalizing before with
  | nil => simp [cuts]
  | cons c cs ih =>
    cases before with
    | nil => by_cases hc : c = '=' <;> simp [cuts, hc, eq_comm]
    | cons d before => by_cases hc : c = '=' <;> simp [cuts, hc, ih, and_comm, eq_comm]

theorem nodup_cuts (cs : List Char) : (cuts cs).Nodup := by
  induction cs with
  | nil => exact .nil
  | cons c cs ih =>
    have hlater : ((cuts cs).map fun (before, behind) => (c :: before, behind)).Nodup :=
      ih.map fun _ _ h => by simpa [Prod.ext_iff] using h
    rw [cuts]
    split
    · exact List.nodup_cons.2 ⟨by simp, hlater⟩
    · exact hlater

theorem mem_readings_iff {text key value : String} :
    (key, value) ∈ readings text ↔ text = key ++ "=" ++ value ∧ creationFlag? key = none := by
  rw [readings, List.mem_filter, Option.isNone_iff_eq_none]
  refine and_congr_left' ?_
  rw [← String.toList_inj, toList_setting, List.mem_map]
  constructor
  · rintro ⟨⟨before, behind⟩, hcut, heq⟩
    obtain ⟨rfl, rfl⟩ := Prod.mk.inj heq
    simpa using mem_cuts_iff.1 hcut
  · intro htext
    exact ⟨(key.toList, value.toList), mem_cuts_iff.2 htext, by simp⟩

theorem nodup_readings (text : String) : (readings text).Nodup :=
  ((nodup_cuts text.toList).map fun _ _ h => by
    simpa only [Prod.ext_iff, String.ofList_inj] using h).filter _

theorem length_readings_le_one_iff {text : String} :
    (readings text).length ≤ 1 ↔
      ∀ entry ∈ readings text, ∀ other ∈ readings text, entry = other := by
  rw [← List.toFinset_card_of_nodup (nodup_readings text), Finset.card_le_one]
  simp only [List.mem_toFinset]

/-- A key with an equals sign is none that only matters when a topic is made. -/
theorem creationFlag?_of_equals {key : String} (h : '=' ∈ key.toList) :
    creationFlag? key = none := by
  have hwords : ∀ word ∈ partitionKeys ++ replicationKeys, '=' ∉ word.toList := by decide
  exact creationFlag?_eq_none.2 fun hkey => hwords key hkey h

/-! ## Lists -/

/-- Settings as they are joined into one text. -/
def listing (entries : List (String × String)) : String :=
  ",".intercalate (entries.map fun (key, value) => key ++ "=" ++ value)

theorem listing_singleton (entry : String × String) :
    listing [entry] = entry.1 ++ "=" ++ entry.2 := String.intercalate_singleton

theorem listing_cons_cons (entry next : String × String) (entries : List (String × String)) :
    listing (entry :: next :: entries) =
      entry.1 ++ "=" ++ (entry.2 ++ "," ++ listing (next :: entries)) := by
  have hcons : listing (entry :: next :: entries) =
      entry.1 ++ "=" ++ entry.2 ++ "," ++ listing (next :: entries) :=
    String.intercalate_cons_cons
  rw [hcons]
  simp only [String.append_assoc]

/-- A list begins with its first key and an equals sign. -/
theorem listing_cons (entry : String × String) (entries : List (String × String)) :
    ∃ rest, listing (entry :: entries) = entry.1 ++ "=" ++ rest := by
  cases entries with
  | nil => exact ⟨entry.2, listing_singleton entry⟩
  | cons next entries => exact ⟨_, listing_cons_cons entry next entries⟩

theorem listing_eq_empty_iff {entries : List (String × String)} :
    listing entries = "" ↔ entries = [] := by
  cases entries with
  | nil => simp [listing]
  | cons entry entries =>
    obtain ⟨rest, hrest⟩ := listing_cons entry entries
    simp [hrest]

/-- A list of two settings or more can be read as a single one in two ways: its key ends before the
first equals sign, or before the one of the second setting. -/
theorem readings_listing_cons_cons (entry next : String × String)
    (entries : List (String × String)) (h : creationFlag? entry.1 = none) :
    ¬(readings (listing (entry :: next :: entries))).length ≤ 1 := by
  rw [length_readings_le_one_iff]
  intro hsame
  obtain ⟨rest, hrest⟩ := listing_cons next entries
  have htext := listing_cons_cons entry next entries
  have hlater : listing (entry :: next :: entries) =
      (entry.1 ++ "=" ++ entry.2 ++ "," ++ next.1) ++ "=" ++ rest := by
    rw [htext, hrest]
    simp only [String.append_assoc]
  have hfirst := mem_readings_iff.2 ⟨htext, h⟩
  have hsecond := mem_readings_iff.2 ⟨hlater, creationFlag?_of_equals (by simp)⟩
  have hlength := congrArg (fun e => e.1.toList.length) (hsame _ hfirst _ hsecond)
  simp only [String.toList_append, List.length_append] at hlength
  have hequals : "=".toList.length = 1 := rfl
  omega

/-- A text that can be read as a single setting in one way at most is the list of no others. -/
theorem readings_listing {entries : List (String × String)}
    (hplain : ∀ entry ∈ entries, creationFlag? entry.1 = none)
    (h : (readings (listing entries)).length ≤ 1) : readings (listing entries) = entries := by
  match entries with
  | [] => rfl
  | [entry] =>
    have hmem : entry ∈ readings (listing [entry]) :=
      mem_readings_iff.2 ⟨listing_singleton entry, hplain entry (List.mem_singleton_self _)⟩
    obtain ⟨single, hsingle⟩ :=
      List.length_eq_one_iff.1 (le_antisymm h (List.length_pos_of_mem hmem))
    rw [hsingle, List.mem_singleton] at hmem
    rw [hsingle, hmem]
  | entry :: next :: entries =>
    exact absurd h (readings_listing_cons_cons entry next entries
      (hplain entry List.mem_cons_self))

/-- Whether settings can be told apart in a list: commas only stand between them. -/
def Separable (entries : List (String × String)) : Prop :=
  ∀ entry ∈ entries, IsWord entry.1 ∧ ',' ∉ entry.2.toList

instance (entries : List (String × String)) : Decidable (Separable entries) :=
  inferInstanceAs (Decidable (∀ entry ∈ entries, IsWord entry.1 ∧ ',' ∉ entry.2.toList))

theorem Separable.eq_of_listing {entries others : List (String × String)}
    (h : Separable entries) (hothers : Separable others)
    (hsame : listing entries = listing others) : entries = others := by
  by_cases hnone : entries = []
  · rw [hnone, listing_eq_empty_iff.2 rfl, eq_comm, listing_eq_empty_iff] at hsame
    rw [hnone, hsame]
  · have hsome : others ≠ [] := fun hothers =>
      hnone (listing_eq_empty_iff.1 (hsame.trans (listing_eq_empty_iff.2 hothers)))
    have hread : readList (listing entries) = entries := readList_settings hnone h
    have hreadOthers : readList (listing others) = others := readList_settings hsome hothers
    rw [← hread, hsame, hreadOthers]

/-! ## Commands -/

/-- The text of the settings that an existing topic is given. -/
def altered (config : OrderedMap String String) : String := listing (plainConfig config).toPairs

theorem creationFlag?_of_mem_plainConfig {config : OrderedMap String String} :
    ∀ entry ∈ (plainConfig config).toPairs, creationFlag? entry.1 = none := by
  intro entry hentry
  rw [toPairs_plainConfig] at hentry
  exact Option.isNone_iff_eq_none.1 (List.mem_filter.1 hentry).2

theorem altered_eq (config : OrderedMap String String) :
    altered config = ",".intercalate (plainSettings config) := by
  rw [plainSettings_eq]
  rfl

theorem altered_eq_empty_iff {config : OrderedMap String String} :
    altered config = "" ↔ plainSettings config = [] :=
  listing_eq_empty_iff.trans plainSettings_eq_nil_iff.symm

theorem alterTopic?_eq_altered (k : KafkaTools) (name : String)
    (config : OrderedMap String String) :
    k.alterTopic? name config =
      if altered config = "" then none
      else some (k.command "kafka-configs" ["--alter", "--entity-type", "topics", "--entity-name",
        name, "--add-config", altered config]) := by
  rw [alterTopic?_eq, ← altered_eq]
  simp only [altered_eq_empty_iff]

/-- Commands are equal when their texts are. -/
theorem alterTopic?_eq_iff {k : KafkaTools} {name : String}
    {config other : OrderedMap String String} :
    k.alterTopic? name config = k.alterTopic? name other ↔ altered config = altered other := by
  constructor
  · intro h
    rw [alterTopic?_eq_altered, alterTopic?_eq_altered] at h
    split at h
    · rename_i hnone
      split at h
      · rename_i hother
        rw [hnone, hother]
      · cases h
    · split at h
      · cases h
      · have harguments := congrArg Command.arguments (Option.some.inj h)
        simpa [command] using harguments
  · intro h
    rw [alterTopic?_eq_altered, alterTopic?_eq_altered, h]

/-- A reading as settings of its own. -/
theorem toPairs_plainConfig_single {key value : String} (h : creationFlag? key = none) :
    (plainConfig (.ofPairs [(key, value)])).toPairs = [(key, value)] := by
  rw [toPairs_plainConfig]
  exact List.filter_eq_self.2 fun entry hentry => by
    obtain rfl := List.mem_singleton.1 hentry
    rw [h]
    rfl

theorem altered_single {text key value : String} (h : (key, value) ∈ readings text) :
    altered (.ofPairs [(key, value)]) = text := by
  obtain ⟨htext, hkey⟩ := mem_readings_iff.1 h
  rw [altered, toPairs_plainConfig_single hkey, listing_singleton, htext]

theorem toPairs_plainConfig_of_readings {config : OrderedMap String String}
    (h : (readings (altered config)).length ≤ 1) :
    (plainConfig config).toPairs = readings (altered config) :=
  (readings_listing creationFlag?_of_mem_plainConfig h).symm

/-- **The command tells the settings** that it gives an existing topic if and only if its text can
be read in one way at most as a single setting. So it never does for two settings or more: the same
command is made for a single one under the first of their keys. Settings whose values have no commas
and whose keys have no commas and no equals signs are told apart from all others of this kind. -/
theorem alterTopic?_determines_iff (k : KafkaTools) (name : String)
    (config : OrderedMap String String) :
    ((∀ other, k.alterTopic? name other = k.alterTopic? name config →
        plainConfig other = plainConfig config) ↔ (readings (altered config)).length ≤ 1) ∧
    (∀ entry next entries, (plainConfig config).toPairs = entry :: next :: entries →
      ∃ value, let single := OrderedMap.ofPairs [(entry.1, value)]
        (plainConfig single).toPairs = [(entry.1, value)] ∧
        k.alterTopic? name single = k.alterTopic? name config) ∧
    ∀ other, Separable (plainConfig config).toPairs → Separable (plainConfig other).toPairs →
      k.alterTopic? name other = k.alterTopic? name config →
      plainConfig other = plainConfig config := by
  simp only [alterTopic?_eq_iff]
  refine ⟨⟨fun h => ?unique, fun h other hsame => ?told⟩, fun entry next entries h => ?shared,
    fun other hconfig hother hsame => ?separable⟩
  case unique =>
    rw [length_readings_le_one_iff]
    rintro ⟨key, value⟩ hentry ⟨key', value'⟩ hother
    have hpairs := (h _ (altered_single hentry)).trans (h _ (altered_single hother)).symm
    rw [← OrderedMap.toPairs_inj, toPairs_plainConfig_single (mem_readings_iff.1 hentry).2,
      toPairs_plainConfig_single (mem_readings_iff.1 hother).2] at hpairs
    exact List.singleton_inj.1 hpairs
  case told =>
    rw [← OrderedMap.toPairs_inj, toPairs_plainConfig_of_readings h,
      toPairs_plainConfig_of_readings (by rwa [hsame]), hsame]
  case shared =>
    have hkey : creationFlag? entry.1 = none :=
      creationFlag?_of_mem_plainConfig entry (h ▸ List.mem_cons_self)
    have hreading : (entry.1, entry.2 ++ "," ++ listing (next :: entries)) ∈
        readings (altered config) := by
      rw [altered, h]
      exact mem_readings_iff.2 ⟨listing_cons_cons entry next entries, hkey⟩
    exact ⟨_, toPairs_plainConfig_single hkey, altered_single hreading⟩
  case separable => exact OrderedMap.toPairs_inj.1 (hother.eq_of_listing hconfig hsame)

end KafkaTools

/-! ## Settings that share a command -/

namespace Ambiguous

open KafkaTools

/-- One setting whose value is written like the end of a list. -/
def joined : OrderedMap String String := .ofPairs [("cleanup.policy", "compact,retention.ms=1000")]

/-- A policy and a time, and a number of partitions that is not part of the command. -/
def parted : OrderedMap String String :=
  .ofPairs [("cleanup.policy", "compact"), ("partitions", "3"), ("retention.ms", "1000")]

/-- One topology gives a topic a single setting, another gives it two, and the topic is altered by
the same command. -/
theorem same_command :
    Topology.ofDocument ⟨∅, "."⟩
        (Ledger.document [("cleanup.policy", .text "compact,retention.ms=1000")]) =
      .ok (Ledger.topology joined) ∧
    Topology.ofDocument ⟨∅, "."⟩ (Ledger.document
        [("cleanup.policy", .text "compact"), ("retention.ms", .text "1000")]) =
      .ok (Ledger.topology Ledger.compacted) ∧
    Ledger.tools.alterTopic? "acme.orders.ledger" joined =
      Ledger.tools.alterTopic? "acme.orders.ledger" Ledger.compacted ∧
    (Ledger.tools.alterTopic? "acme.orders.ledger" joined).isSome ∧
    plainConfig joined ≠ plainConfig Ledger.compacted := by
  refine ⟨rfl, rfl, by decide +kernel, by decide +kernel, fun hsame => ?_⟩
  have hpairs := OrderedMap.toPairs_inj.2 hsame
  revert hpairs
  decide +kernel

end Ambiguous

/-- A command with one setting, and settings that differ by a number of partitions only. -/
theorem KafkaTools.alterTopic?_determines_iff_ledger :
    (∀ other, Ledger.tools.alterTopic? "acme.orders.ledger" other =
        Ledger.tools.alterTopic? "acme.orders.ledger" Ledger.plain →
      plainConfig other = plainConfig Ledger.plain) ∧
    (plainConfig Ledger.compacted).toPairs =
      [("cleanup.policy", "compact"), ("retention.ms", "1000")] ∧
    (∃ value, Ledger.tools.alterTopic? "acme.orders.ledger" (.ofPairs [("cleanup.policy", value)]) =
      Ledger.tools.alterTopic? "acme.orders.ledger" Ledger.compacted) ∧
    Separable (plainConfig Ledger.compacted).toPairs ∧
    Separable (plainConfig Ambiguous.parted).toPairs ∧
    Ledger.tools.alterTopic? "acme.orders.ledger" Ambiguous.parted =
      Ledger.tools.alterTopic? "acme.orders.ledger" Ledger.compacted ∧
    plainConfig Ambiguous.parted = plainConfig Ledger.compacted := by
  have hplain := alterTopic?_determines_iff Ledger.tools "acme.orders.ledger" Ledger.plain
  obtain ⟨-, hshared, hseparable⟩ :=
    alterTopic?_determines_iff Ledger.tools "acme.orders.ledger" Ledger.compacted
  have hpairs : (plainConfig Ledger.compacted).toPairs =
      [("cleanup.policy", "compact"), ("retention.ms", "1000")] := by decide +kernel
  have hcompacted : Separable (plainConfig Ledger.compacted).toPairs := by decide +kernel
  have hparted : Separable (plainConfig Ambiguous.parted).toPairs := by decide +kernel
  have hsame : Ledger.tools.alterTopic? "acme.orders.ledger" Ambiguous.parted =
      Ledger.tools.alterTopic? "acme.orders.ledger" Ledger.compacted := by decide +kernel
  obtain ⟨value, -, hsingle⟩ := hshared _ _ _ hpairs
  exact ⟨hplain.1.2 (by decide +kernel), hpairs, ⟨value, hsingle⟩, hcompacted, hparted, hsame,
    hseparable Ambiguous.parted hcompacted hparted hsame⟩

end KafkaTopology
