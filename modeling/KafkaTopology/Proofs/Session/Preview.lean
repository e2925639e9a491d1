import Mathlib.Algebra.GroupWithZero.Nat
import KafkaTopology.Proofs.Planner.Ownership
import KafkaTopology.Proofs.Session.ReadOnly
import KafkaTopology.Proofs.Text.SplitOn
import KafkaTopology.Proofs.Topology.Reading
/-!
# The lines of a preview

A preview writes the description of every step and ends it with a line break. Descriptions show
texts of entries as they are, and only the names of topics are known to be without line breaks. So
a preview has one line for each step exactly if no other text that it shows has a line break
(`Topology.preview_lines_iff`); with one, the rest of a description can be taken for a step that is
not in the plan (`Topology.preview_shows_deletion`).
-/
namespace KafkaTopology

open Host (printed)

/-! ## Line breaks -/

namespace Text

/-- The number of line breaks of a text. -/
def breaks (s : String) : Nat := s.toList.count '\n'

theorem breaks_append (s t : String) : breaks (s ++ t) = breaks s + breaks t := by
  rw [breaks, String.toList_append, List.count_append, breaks, breaks]

theorem breaks_eq_zero_iff {s : String} : breaks s = 0 ↔ '\n' ∉ s.toList := List.count_eq_zero

theorem breaks_intercalate {separator : String} (h : breaks separator = 0) (ss : List String) :
    breaks (separator.intercalate ss) = (ss.map breaks).sum := by
  induction ss with
  | nil => rfl
  | cons s ss ih =>
    cases ss with
    | nil => simp
    | cons s' ss =>
      rw [String.intercalate_cons_cons, breaks_append, breaks_append, h, ih, Nat.add_zero]
      rfl

theorem breaks_toString (n : Nat) : breaks (toString n) = 0 := by
  show n.repr.toList.count '\n' = 0
  rw [Nat.toList_repr, List.count_eq_zero]
  intro h
  have hdigit := Nat.isDigit_of_mem_toDigits (by decide) (by decide) h
  exact absurd hdigit (by decide)

/-- A text has one line more than line breaks. -/
theorem length_splitOn (s : String) : (s.splitOn "\n").length = breaks s + 1 := by
  rw [splitOn_eq s (c := '\n') rfl, List.length_map, breaks]
  induction s.toList with
  | nil => rfl
  | cons c cs ih =>
    rw [List.splitOn_cons_eq_if_modifyHead, List.count_cons]
    split
    · rw [List.length_cons, ih]
    · rw [List.length_modifyHead, ih]

/-- Printed texts are split into the lines of each of them, and an empty one at the end. -/
theorem splitOn_printed (ss : List String) :
    (printed ss).splitOn "\n" = ss.flatMap (·.splitOn "\n") ++ [""] := by
  simp only [splitOn_eq _ (c := '\n') rfl, printed, String.toList_join, List.flatMap_map]
  induction ss with
  | nil => rfl
  | cons s ss ih =>
    have hended : (s ++ "\n").toList = s.toList ++ ['\n'] := String.toList_append
    rw [List.flatMap_cons, List.flatMap_cons, List.append_assoc, ← ih, hended, List.append_assoc,
      List.singleton_append, List.splitOn_append_cons_self, List.map_append]

theorem length_splitOn_printed (ss : List String) :
    ((printed ss).splitOn "\n").length = ss.length + (ss.map breaks).sum + 1 := by
  rw [splitOn_printed, List.length_append, List.length_singleton, List.length_flatMap]
  induction ss with
  | nil => rfl
  | cons s ss ih =>
    rw [List.map_cons, List.sum_cons, List.map_cons, List.sum_cons, List.length_cons,
      length_splitOn]
    omega

/-- The lines are the printed texts exactly if no text has a line break. -/
theorem splitOn_printed_eq_iff {ss : List String} :
    (printed ss).splitOn "\n" = ss ++ [""] ↔ ∀ s ∈ ss, breaks s = 0 := by
  constructor
  · -- As many lines as texts leave no line for a line break within a text.
    intro h
    have hlength := length_splitOn_printed ss
    rw [h, List.length_append, List.length_singleton] at hlength
    have hsum : (ss.map breaks).sum = 0 := by omega
    exact List.forall_mem_map.1 (List.sum_eq_zero_iff_forall_eq_nat.1 hsum)
  · intro h
    have hself : ∀ s ∈ ss, s.splitOn "\n" = [s] := by
      intro s hs
      rw [splitOn_eq s (c := '\n') rfl, List.splitOn_eq_singleton (breaks_eq_zero_iff.1 (h s hs))]
      simp
    rw [splitOn_printed, List.flatMap_congr hself, List.flatMap_singleton']

end Text

/-! ## What descriptions show -/

open Text (breaks breaks_append breaks_intercalate breaks_toString breaks_eq_zero_iff)

namespace Action

/-- The texts of entries that a description shows as they are, but for the name of a topic that is
brought in line. -/
def entryTexts : Action → List String
  | .syncTopic _ config => config.toPairs.flatMap fun (k, v) => [k, v]
  | .deleteTopics names => names.take listedNames
  | .createBindings bs | .clearBindings bs =>
    (bs.take listedNames).flatMap fun b => [b.principal, b.name, b.host]
  | .createAccounts accounts | .clearAccounts accounts =>
    (accounts.take listedNames).map (·.principal)
  | .createArtefact a | .deleteArtefact a => [a.name, a.server, a.path]

theorem breaks_enumerate (names : List String) :
    breaks (enumerate names) = ((names.take listedNames).map breaks).sum := by
  rw [enumerate, breaks_intercalate (by decide), List.map_append, List.sum_append]
  split
  · rw [List.map_singleton, List.sum_singleton, breaks_append, breaks_append, breaks_toString]
    rfl
  · rfl

theorem breaks_binding (b : Acl.Binding) :
    breaks b.shown = breaks b.principal + breaks b.name + breaks b.host := by
  have hoperation : breaks b.operation.shown = 0 := by cases b.operation <;> decide
  have hresource : breaks b.resource.shown = 0 := by cases b.resource <;> decide
  have hpattern : breaks b.pattern.word = 0 := by cases b.pattern <;> decide
  simp only [Acl.Binding.shown, breaks_append, hoperation, hresource, hpattern]
  simp [breaks]

theorem breaks_artefact (a : Artefact) :
    breaks a.shown = breaks a.name + breaks a.server + breaks a.path := by
  simp only [Artefact.shown, breaks_append]
  simp [breaks]

theorem breaks_bindings (bs : List Acl.Binding) :
    breaks (enumerate (bs.map (·.shown))) =
      (((bs.take listedNames).flatMap fun b => [b.principal, b.name, b.host]).map breaks).sum := by
  rw [breaks_enumerate, ← List.map_take, List.map_map]
  induction bs.take listedNames with
  | nil => rfl
  | cons b bs ih =>
    simp only [List.map_cons, List.sum_cons, List.flatMap_cons, List.map_append, List.sum_append,
      ih, Function.comp_apply, breaks_binding]
    simp [Nat.add_assoc]

theorem breaks_settings (config : OrderedMap String String) :
    breaks (", ".intercalate (settings config)) =
      ((config.toPairs.flatMap fun (k, v) => [k, v]).map breaks).sum := by
  rw [breaks_intercalate (by decide), settings, List.map_map]
  induction config.toPairs with
  | nil => rfl
  | cons e es ih =>
    have hequals : breaks "=" = 0 := by decide
    simp only [List.map_cons, List.sum_cons, List.flatMap_cons, List.map_append, List.sum_append,
      ih, Function.comp_apply, breaks_append, hequals]
    simp [Nat.add_assoc]

/-- A description has the line breaks of the texts that it shows. -/
theorem breaks_description {a : Action}
    (hname : ∀ name config, a = .syncTopic name config → breaks name = 0) :
    breaks a.description = (a.entryTexts.map breaks).sum := by
  cases a with
  | syncTopic name config =>
    have hsync : breaks ("Sync topic " ++ name) = 0 := by
      rw [breaks_append, hname name config rfl]
      decide
    show breaks (if config.isEmpty then "Sync topic " ++ name
      else "Sync topic " ++ name ++ " [" ++ ", ".intercalate (settings config) ++ "]") = _
    split
    · next hempty =>
      have hlist : config.toList = [] := List.isEmpty_iff.1 hempty
      rw [hsync, entryTexts, OrderedMap.toPairs, hlist]
      rfl
    · have hopen : breaks " [" = 0 := by decide
      have hclose : breaks "]" = 0 := by decide
      rw [breaks_append, breaks_append, breaks_append, hsync, hopen, hclose, breaks_settings,
        Nat.zero_add, Nat.add_zero]
      rfl
  | deleteTopics names =>
    show breaks ("Delete topics " ++ enumerate names) = _
    rw [breaks_append, breaks_enumerate]
    exact Nat.zero_add _
  | createBindings bs =>
    show breaks ("Create " ++ toString bs.length ++ " bindings: " ++
      enumerate (bs.map (·.shown))) = _
    rw [breaks_append, breaks_append, breaks_append, breaks_toString, breaks_bindings]
    exact Nat.zero_add _
  | clearBindings bs =>
    show breaks ("Clear " ++ toString bs.length ++ " bindings: " ++
      enumerate (bs.map (·.shown))) = _
    rw [breaks_append, breaks_append, breaks_append, breaks_toString, breaks_bindings]
    exact Nat.zero_add _
  | createAccounts accounts =>
    show breaks ("Create service accounts " ++ enumerate (accounts.map (·.principal))) = _
    rw [breaks_append, breaks_enumerate, ← List.map_take]
    exact Nat.zero_add _
  | clearAccounts accounts =>
    show breaks ("Delete service accounts " ++ enumerate (accounts.map (·.principal))) = _
    rw [breaks_append, breaks_enumerate, ← List.map_take]
    exact Nat.zero_add _
  | createArtefact a =>
    show breaks ("Create connector " ++ a.shown) = _
    rw [breaks_append, breaks_artefact, Nat.add_assoc (breaks a.name)]
    exact Nat.zero_add _
  | deleteArtefact a =>
    show breaks ("Delete connector " ++ a.shown) = _
    rw [breaks_append, breaks_artefact, Nat.add_assoc (breaks a.name)]
    exact Nat.zero_add _

end Action

/-! ## Previews -/

variable {ω : Type}

theorem Plan.run_dry_unlimited {p : Plan ω} (hsink : p.sink = .unlimited) (medium : Medium ω)
    (w : ω) :
    (p.run medium true).run w =
      ((.ok { RunSummary.start true with previewed := p.size },
        { p with sink := ⟨printed (p.steps.map (·.description)), none, none⟩ }), w) := by
  rw [run, if_pos rfl, preview_unlimited hsink]
  rfl

namespace Topology

theorem isTopicNameChar_lineBreak : isTopicNameChar '\n' = false := by decide

/-- A name that a cluster accepts has no line break. -/
theorem breaks_of_isLegalTopicName {name : String} (h : isLegalTopicName name = true) :
    breaks name = 0 := by
  refine breaks_eq_zero_iff.2 fun hbreak => ?_
  have hlegal := List.all_eq_true.1 (Bool.and_eq_true_iff.1 h).2 _ hbreak
  rw [isTopicNameChar_lineBreak] at hlegal
  cases hlegal

theorem descriptions_populate (t : Topology) (options : PlanOptions) (admin : Admin ω)
    {p : Plan ω} (hp : p.steps = []) :
    (p.populate admin options t).steps.map (·.description) =
      (t.actions options p.state).map (·.description) := by
  show (p.steps ++ _).map _ = _
  rw [hp, List.nil_append, List.map_map]
  rfl

/-- The only names that an accepted topology brings in line are legal. -/
theorem breaks_description_of_mem {naming : Naming} {d : Document} {t : Topology}
    (ht : ofDocument naming d = .ok t) {options : PlanOptions} {recorded : State} {a : Action}
    (ha : a ∈ t.actions options recorded) :
    breaks a.description = (a.entryTexts.map breaks).sum := by
  refine Action.breaks_description fun name config heq => ?_
  obtain ⟨-, -, -, -, -, -, -, -, hlegal⟩ := ofDocument_eq_ok_iff.1 ht
  rcases mem_actions ha with ⟨topic, htopic, h⟩ | ⟨-, h⟩ | h | h | ⟨_, -, h⟩ | ⟨_, -, h⟩ | ⟨-, h⟩ |
    ⟨-, h⟩ <;> rw [heq] at h <;> cases h
  exact breaks_of_isLegalTopicName (hlegal _ (List.mem_map_of_mem htopic))

/-- **The lines of a preview.** A dry run of the plan for an accepted topology counts every queued
action and writes a line for each of them, and a further line for every line break in a text that
the descriptions show. So the lines are the descriptions exactly if none of these texts has one. -/
theorem preview_lines_iff {naming : Naming} {d : Document} {t : Topology}
    (ht : ofDocument naming d = .ok t) (options : PlanOptions) (admin : Admin ω)
    (medium : Medium ω) {p : Plan ω} (hp : p.steps = []) (hsink : p.sink = .unlimited) (w : ω) :
    ∃ summary shown,
      ((p.populate admin options t).run medium true).run w = ((.ok summary, shown), w) ∧
      summary.previewed = (t.actions options p.state).length ∧
      (shown.sink.written.splitOn "\n").length = (t.actions options p.state).length +
        ((t.actions options p.state).map fun a => (a.entryTexts.map breaks).sum).sum + 1 ∧
      (shown.sink.written.splitOn "\n" =
          (p.populate admin options t).steps.map (·.description) ++ [""] ↔
        ∀ a ∈ t.actions options p.state, ∀ text ∈ a.entryTexts, '\n' ∉ text.toList) := by
  refine ⟨_, _, Plan.run_dry_unlimited (p := p.populate admin options t) hsink medium w, ?_, ?_, ?_⟩
  · show (p.steps ++ (t.actions options p.state).map (·.toStep admin)).length = _
    rw [hp, List.nil_append, List.length_map]
  · rw [Text.length_splitOn_printed, descriptions_populate t options admin hp, List.length_map,
      List.map_map]
    have hbreaks : (t.actions options p.state).map (breaks ∘ (·.description)) =
        (t.actions options p.state).map fun a => (a.entryTexts.map breaks).sum :=
      List.map_congr_left fun a ha => breaks_description_of_mem ht ha
    rw [hbreaks]
  · rw [Text.splitOn_printed_eq_iff, descriptions_populate t options admin hp, List.forall_mem_map]
    refine forall₂_congr fun a ha => ?_
    rw [breaks_description_of_mem ht ha, List.sum_eq_zero_iff_forall_eq_nat, List.forall_mem_map]
    exact forall₂_congr fun text _ => breaks_eq_zero_iff

/-! ## A description of two lines -/

namespace Misread

/-- A principal that holds a line break. -/
def principal : String := "User:app\nDelete topics acme.orders.ledger"

def document : Document := .mapping [
  ("context", .text "acme"),
  ("projects", .list [.mapping [
    ("name", .text "orders"),
    ("schemas", .list [.mapping [("principal", .text principal)]]),
    ("topics", .list [.mapping [("name", .text "ledger")]])]])]

def naming : Naming := ⟨∅, "."⟩

/-- The topology of the document. -/
def topology : Topology where
  context := "acme"
  attributes := []
  separator := "."
  platform := .empty
  projects := [{
    name := "orders"
    qualifiedName := "acme.orders"
    order := ["context"]
    consumers := none
    producers := none
    streams := none
    connectors := none
    schemas := some [⟨principal, []⟩]
    rbac := ∅
    topics := [⟨"ledger", none, ∅, "acme.orders.ledger"⟩] }]

/-- An empty plan over an empty state. -/
def plan : Plan Rehearsal := ⟨[], .fresh, .unlimited, .empty⟩

/-- Accounts are managed. -/
def options : PlanOptions := ⟨false, true⟩

/-- The plan for the topology. -/
def populated : Plan Rehearsal := plan.populate (Rehearsal.admin none) options topology

theorem ofDocument_document : ofDocument naming document = .ok topology := rfl

theorem descriptions_populated : populated.steps.map (·.description) =
    ["Sync topic acme.orders.ledger", "Create service accounts " ++ principal] := by decide +kernel

end Misread

/-- The principal has a line break, so the preview of two actions has three lines. -/
theorem preview_lines_misread :
    ofDocument Misread.naming Misread.document = .ok Misread.topology ∧
      Misread.plan.steps = [] ∧ Misread.plan.sink = .unlimited ∧
      ∃ summary shown,
        (Misread.populated.run Rehearsal.medium true).run default =
          ((.ok summary, shown), default) ∧
        summary.previewed = 2 ∧ (shown.sink.written.splitOn "\n").length = 4 := by
  obtain ⟨summary, shown, hrun, hcount, hlines, -⟩ :=
    preview_lines_iff Misread.ofDocument_document Misread.options (Rehearsal.admin none)
      Rehearsal.medium (p := Misread.plan) rfl rfl default
  refine ⟨Misread.ofDocument_document, rfl, rfl, summary, shown, hrun, hcount, ?_⟩
  rw [hlines]
  decide +kernel

/-- The preview of a topic and of an account shows a deletion of topics, which is not planned. -/
theorem preview_shows_deletion :
    ofDocument Misread.naming Misread.document = .ok Misread.topology ∧
      Misread.populated.outline =
        [(.create, "Sync topic acme.orders.ledger"),
          (.create, "Create service accounts User:app\nDelete topics acme.orders.ledger")] ∧
      ((Misread.populated.run Rehearsal.medium true).run default).1.2.sink.written.splitOn "\n" =
        ["Sync topic acme.orders.ledger", "Create service accounts User:app",
          "Delete topics acme.orders.ledger", ""] ∧
      ((Misread.populated.run Rehearsal.medium true).run default).1.2.sink.written.splitOn "\n" ≠
        Misread.populated.steps.map (·.description) ++ [""] := by
  have hrun := Plan.run_dry_unlimited (p := Misread.populated) rfl Rehearsal.medium default
  have hlines : (printed (Misread.populated.steps.map (·.description))).splitOn "\n" =
      ["Sync topic acme.orders.ledger", "Create service accounts User:app",
        "Delete topics acme.orders.ledger", ""] := by
    rw [Misread.descriptions_populated, Text.splitOn_eq _ (c := '\n') rfl]
    decide +kernel
  refine ⟨Misread.ofDocument_document, by decide +kernel, ?_, ?_⟩
  · rw [hrun]
    exact hlines
  · rw [hrun, hlines, Misread.descriptions_populated]
    decide +kernel

end Topology
end KafkaTopology
