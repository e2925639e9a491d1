import KafkaTopology.Proofs.Topology.KeyOrder
import KafkaTopology.Proofs.Topology.Union
/-!
# More members and more instances

One document widens another one if its lists of members, of principals with a role and of instances
have at least the same entries, however often and in whichever order, and everything else that is
read is the same. What is read of the narrower document is then within what is read of the wider one
(`WidensRoot.exists_within`). Documents that widen each other, such as two that differ in the order
of some members, ask for the same.
-/
theorem List.append_subset_append {α : Type} {xs xs' ys ys' : List α} (h : xs ⊆ xs')
    (h' : ys ⊆ ys') : xs ++ ys ⊆ xs' ++ ys' :=
  List.append_subset.2 ⟨fun _ hx => List.mem_append_left _ (h hx),
    fun _ hy => List.mem_append_right _ (h' hy)⟩

theorem List.flatMap_subset_flatMap {α β : Type} {xs xs' : List α} (f : α → List β)
    (h : xs ⊆ xs') : xs.flatMap f ⊆ xs'.flatMap f := fun _ hy =>
  have ⟨x, hx, hy⟩ := List.mem_flatMap.1 hy
  List.mem_flatMap.2 ⟨x, h hx, hy⟩

namespace KafkaTopology

open Document (Distinct)
open Except (bind_eq_ok_iff pure_eq_ok_iff)
open List (append_subset_append flatMap_subset_flatMap map_subset)

/-! ## Within -/

/-- Whether a project asks for no more than another one does, and for the same topics. -/
structure Project.Within (p p' : Project) : Prop where
  bindings : p.bindings ⊆ p'.bindings
  principals : p.principals ⊆ p'.principals
  artefacts : p.artefacts ⊆ p'.artefacts
  topics : p.topics = p'.topics

/-- The same for a platform, which has no topics. -/
structure Platform.Within (p p' : Platform) : Prop where
  bindings : p.bindings ⊆ p'.bindings
  principals : p.principals ⊆ p'.principals

theorem Platform.Within.refl (p : Platform) : p.Within p :=
  ⟨List.Subset.refl _, List.Subset.refl _⟩

theorem Platform.within_of_instances {p p' : Platform}
    (hconnect : p.kafkaConnect.getD [] ⊆ p'.kafkaConnect.getD [])
    (hregistry : p.schemaRegistry.getD [] ⊆ p'.schemaRegistry.getD [])
    (hcontrol : p.controlCenter.getD [] ⊆ p'.controlCenter.getD []) : p.Within p' where
  bindings := append_subset_append
    (append_subset_append (flatMap_subset_flatMap _ hconnect) (flatMap_subset_flatMap _ hregistry))
    (flatMap_subset_flatMap _ hcontrol)
  principals := append_subset_append
    (append_subset_append (map_subset _ hconnect) (map_subset _ hregistry)) (map_subset _ hcontrol)

namespace Topology

/-- Whether a topology asks for no more than another one does, and for the same topics. -/
structure Within (t t' : Topology) : Prop where
  bindings : ∀ b ∈ t.bindings, b ∈ t'.bindings
  accounts : ∀ a ∈ t.accounts, a ∈ t'.accounts
  artefacts : ∀ a ∈ t.artefacts, a ∈ t'.artefacts
  topics : t.topics = t'.topics

theorem within_of_projects {t t' : Topology}
    (hprojects : List.Forall₂ Project.Within t.projects t'.projects)
    (hplatform : t.platform.Within t'.platform) : t.Within t' := by
  have hex {q q' : Project → Prop} (hq : ∀ p p', p.Within p' → q p → q' p')
      (h : ∃ p ∈ t.projects, q p) : ∃ p' ∈ t'.projects, q' p' := by
    obtain ⟨p, hp, hqp⟩ := h
    obtain ⟨p', hp', hwithin⟩ := hprojects.exists_right hp
    exact ⟨p', hp', hq p p' hwithin hqp⟩
  refine ⟨fun b hb => ?_, fun a ha => ?_, fun a ha => ?_, ?_⟩
  · rw [mem_bindings] at hb ⊢
    exact hb.imp (hex fun _ _ h hb => h.bindings hb) fun hb => hplatform.bindings hb
  · rw [mem_accounts] at ha ⊢
    exact ha.imp fun _ => And.imp_right <|
      Or.imp (hex fun _ _ h hp => h.principals hp) fun hp => hplatform.principals hp
  · rw [mem_artefacts] at ha ⊢
    exact hex (fun _ _ h ha => h.artefacts ha) ha
  · have htopics : t.projects.map (·.topics) = t'.projects.map (·.topics) :=
      List.forall₂_eq_eq_eq ▸ List.forall₂_map_left_iff.2
        (List.forall₂_map_right_iff.2 (hprojects.imp fun _ _ h => h.topics))
    rw [topics, topics, List.flatMap_def, List.flatMap_def, htopics]

/-! ## Lists -/

/-- Whether the entries of a list, if there is one, are all in another one. -/
inductive Widens : Option Document → Option Document → Prop where
  | same (x : Option Document) : Widens x x
  | first (d : Document) : Widens none (some d)
  | more {items items' : List Document} (h : items ⊆ items') :
    Widens (some (.list items)) (some (.list items'))

section
variable {α : Type} {r : Document → α → Prop} {x x' : Option Document}

/-- A list that may be missing, with its values. -/
theorem exists_rel_iff {values : List α} :
    (∃ v, Option.Rel (Lists r) x v ∧ v.getD [] = values) ↔ Lists r (x.getD (.list [])) values := by
  cases x with
  | none =>
    simp only [rel_none_iff, exists_eq_left, Option.getD_none, lists_nil_iff]
  | some d =>
    simp only [rel_some_iff, Option.getD_some]
    constructor
    · rintro ⟨_, ⟨values', h, rfl⟩, rfl⟩
      exact h
    · exact fun h => ⟨_, ⟨values, h, rfl⟩, rfl⟩

theorem Widens.exists_lists (h : Widens x x') {values' : List α}
    (hx' : Lists r (x'.getD (.list [])) values') :
    ∃ values, Lists r (x.getD (.list [])) values ∧ values ⊆ values' := by
  cases h with
  | same => exact ⟨values', hx', List.Subset.refl _⟩
  | first d => exact ⟨[], lists_nil_iff.2 rfl, List.nil_subset _⟩
  | more h =>
    obtain ⟨_, ⟨⟩, hvalues'⟩ := hx'
    obtain ⟨values, hvalues, hsubset⟩ := hvalues'.exists_of_subset h
    exact ⟨values, ⟨_, rfl, hvalues⟩, hsubset⟩

theorem Widens.exists_rel (h : Widens x x') {v' : Option (List α)}
    (hx' : Option.Rel (Lists r) x' v') :
    ∃ v, Option.Rel (Lists r) x v ∧ v.getD [] ⊆ v'.getD [] := by
  obtain ⟨values, hvalues, hsubset⟩ := h.exists_lists (exists_rel_iff.1 ⟨v', hx', rfl⟩)
  obtain ⟨v, hv, rfl⟩ := exists_rel_iff.2 hvalues
  exact ⟨v, hv, hsubset⟩

end

/-! ## Connectors -/

/-- The same for connectors: a list of members, or a mapping with one. -/
inductive WidensConnectors : Option Document → Option Document → Prop where
  | members {x x' : Option Document} (h : Widens x x') : WidensConnectors x x'
  | parts {entries entries' : Entries}
    (haccess : Widens (present? entries "access_control") (present? entries' "access_control"))
    (hartefacts : ∀ key ∈ artefactKeys, present? entries key = present? entries' key) :
    WidensConnectors (some (.mapping entries)) (some (.mapping entries'))

/-- Within a section of connectors. -/
structure ConnectorsWithin (s s' : Option ConnectorSection) : Prop where
  members : (s.map (·.members)).getD [] ⊆ (s'.map (·.members)).getD []
  artefacts : (s.map (·.artefacts)).getD [] ⊆ (s'.map (·.artefacts)).getD []

variable {naming : Naming}

theorem WidensConnectors.exists_rel {x x' : Option Document} (h : WidensConnectors x x')
    {s' : Option ConnectorSection} (hx' : Option.Rel (DeclaresConnectors naming) x' s') :
    ∃ s, Option.Rel (DeclaresConnectors naming) x s ∧ ConnectorsWithin s s' := by
  cases h with
  | members h =>
    cases h with
    | same => exact ⟨s', hx', List.Subset.refl _, List.Subset.refl _⟩
    | first d => exact ⟨none, .none, List.nil_subset _, List.nil_subset _⟩
    | @more items items' h =>
      obtain ⟨s', ⟨hmembers', hartefacts'⟩, rfl⟩ := rel_some_iff.1 hx'
      have hwidens : Widens (some (.list items)) (some (.list items')) := .more h
      obtain ⟨members, hmembers, hsubset⟩ := hwidens.exists_lists hmembers'
      exact ⟨some ⟨members, []⟩, .some ⟨hmembers, rfl⟩, hsubset, List.nil_subset _⟩
  | parts haccess hartefacts =>
    obtain ⟨s', ⟨hmembers', hartefacts'⟩, rfl⟩ := rel_some_iff.1 hx'
    obtain ⟨members, hmembers, hsubset⟩ := haccess.exists_lists hmembers'
    obtain ⟨hfirst, hsecond⟩ : present? _ "artefacts" = present? _ "artefacts" ∧
        present? _ "artifacts" = present? _ "artifacts" := by
      simpa [artefactKeys] using hartefacts
    refine ⟨some ⟨members, s'.artefacts⟩, .some ⟨hmembers, ?_⟩, hsubset, List.Subset.refl _⟩
    rw [hfirst, hsecond]
    exact hartefacts'

/-! ## Role assignments -/

/-- Whether every role of a mapping has at least the same principals in another one. -/
def WidensRoles (entries entries' : Entries) : Prop :=
  ∀ e ∈ entries, ∃ d', (e.1, d') ∈ entries' ∧ Widens (some e.2) (some d')

/-- The same for role assignments: such a mapping, or a list of them. -/
inductive WidensRbac : Option Document → Option Document → Prop where
  | same (x : Option Document) : WidensRbac x x
  | first (d : Document) : WidensRbac none (some d)
  | roles {entries entries' : Entries} (h : WidensRoles entries entries') :
    WidensRbac (some (.mapping entries)) (some (.mapping entries'))
  | mappings {roles roles' : List Entries} (h : ∀ r ∈ roles, ∃ r' ∈ roles', WidensRoles r r') :
    WidensRbac (some (.list (roles.map .mapping))) (some (.list (roles'.map .mapping)))

section
variable {form : Form}

theorem Widens.form_list {d d' : Document} (h : Widens (some d) (some d'))
    (hd' : Form.list form d') : Form.list form d := by
  cases h with
  | same => exact hd'
  | more h =>
    obtain ⟨_, ⟨⟩, hitems⟩ := hd'
    exact ⟨_, rfl, fun item hitem => hitems item (h hitem)⟩

theorem WidensRoles.form_values {entries entries' : Entries} (h : WidensRoles entries entries')
    (hd' : Form.values (.list form) (.mapping entries')) :
    Form.values (.list form) (.mapping entries) := by
  obtain ⟨_, ⟨⟩, hentries⟩ := hd'
  refine ⟨entries, rfl, fun e he => ?_⟩
  obtain ⟨d', hd', hwidens⟩ := h e he
  exact hwidens.form_list (hentries _ hd')

theorem WidensRbac.form_values {x x' : Option Document} (h : WidensRbac x x')
    (hx' : ∀ d ∈ x', Form.values (.list form) d) : ∀ d ∈ x, Form.values (.list form) d := by
  cases h with
  | same => exact hx'
  | first => nofun
  | roles h =>
    rintro _ ⟨⟩
    exact h.form_values (hx' _ rfl)
  | mappings h =>
    obtain ⟨_, ⟨⟩, -⟩ := hx' _ rfl

end

theorem WidensRbac.rbacForm {x x' : Option Document} (h : WidensRbac x x')
    (hx' : ∀ d, x' = some d → Topology.rbacForm d) : ∀ d, x = some d → Topology.rbacForm d := by
  cases h with
  | same => exact hx'
  | first => nofun
  | roles h =>
    rintro _ ⟨⟩
    rcases hx' _ rfl with ⟨⟨⟩⟩ | hvalues | ⟨_, ⟨⟩, -⟩
    exact .inr (.inl (h.form_values hvalues))
  | mappings h =>
    rintro _ ⟨⟩
    rcases hx' _ rfl with ⟨⟨⟩⟩ | ⟨_, ⟨⟩, -⟩ | ⟨_, ⟨⟩, hroles'⟩
    refine .inr (.inr ⟨_, rfl, List.forall_mem_map.2 fun r hr => ?_⟩)
    obtain ⟨r', hr', hwidens⟩ := h r hr
    exact hwidens.form_values (hroles' _ (List.mem_map_of_mem hr'))

theorem WidensRbac.exists_readRbac {x x' : Option Document} (h : WidensRbac x x')
    {project : String} {rbac' : OrderedMap String (List String)}
    (hread : readRbac project x' = .ok rbac') : ∃ rbac, readRbac project x = .ok rbac :=
  Except.isOk_iff.1 <| (isOk_readRbac_iff project).2 <|
    h.rbacForm ((isOk_readRbac_iff project).1 (Except.isOk_iff.2 ⟨rbac', hread⟩))

/-! ## Projects -/

/-- The same for the entries of a project. -/
structure WidensProject (entries entries' : Entries) : Prop where
  name : Entries.get? "name" entries = Entries.get? "name" entries'
  members : ∀ role : Role, role ≠ .connectors →
    Widens (present? entries role.key) (present? entries' role.key)
  connectors : WidensConnectors (present? entries Role.connectors.key)
    (present? entries' Role.connectors.key)
  rbac : WidensRbac (Entries.get? "rbac" entries) (Entries.get? "rbac" entries')
  topics : Entries.get? "topics" entries = Entries.get? "topics" entries'

section
variable {entries entries' : Entries} {project : String}

theorem WidensProject.exists_members (h : WidensProject entries entries') {α : Type}
    {decode : Decoder α} (role : Role) (hrole : role ≠ .connectors) {members' : Option (List α)}
    (hread : readMembers project entries' role decode = .ok members') :
    ∃ members, readMembers project entries role decode = .ok members ∧
      members.getD [] ⊆ members'.getD [] := by
  obtain ⟨members, hmembers, hsubset⟩ :=
    (h.members role hrole).exists_rel (readMembers_eq_ok_iff.1 hread)
  exact ⟨members, readMembers_eq_ok_iff.2 hmembers, hsubset⟩

theorem WidensProject.exists_connectors (h : WidensProject entries entries')
    {connectors' : Option ConnectorSection}
    (hread : readConnectors naming project entries' = .ok connectors') :
    ∃ connectors, readConnectors naming project entries = .ok connectors ∧
      ConnectorsWithin connectors connectors' := by
  obtain ⟨connectors, hconnectors, hwithin⟩ :=
    h.connectors.exists_rel (readConnectors_eq_ok_iff.1 hread)
  exact ⟨connectors, readConnectors_eq_ok_iff.2 hconnectors, hwithin⟩

theorem WidensProject.readTopics_eq (h : WidensProject entries entries')
    {separator qualifiedName : String} :
    readTopics separator project qualifiedName entries =
      readTopics separator project qualifiedName entries' := by
  rw [readTopics, readTopics, present?, present?, h.topics]

/-- Where the wider project is accepted, the narrower one is too. -/
theorem WidensProject.exists_within (h : WidensProject entries entries') {context : String}
    {order : List String} {p' : Project}
    (hread : readProject naming context order (.mapping entries') = .ok p') :
    ∃ p, readProject naming context order (.mapping entries) = .ok p ∧ p.Within p' := by
  obtain ⟨_, ⟨⟩, hname, hq, horder, hconsumers', hproducers', hstreams', hconnectors', hschemas',
    hrbac, htopics⟩ := readProject_eq_ok_iff.1 hread
  obtain ⟨consumers, hconsumers, hconsumers'⟩ := h.exists_members .consumers nofun hconsumers'
  obtain ⟨producers, hproducers, hproducers'⟩ := h.exists_members .producers nofun hproducers'
  obtain ⟨streams, hstreams, hstreams'⟩ := h.exists_members .streams nofun hstreams'
  obtain ⟨connectors, hconnectors, hwithin⟩ := h.exists_connectors hconnectors'
  obtain ⟨schemas, hschemas, hschemas'⟩ := h.exists_members .schemas nofun hschemas'
  obtain ⟨rbac, hrbac⟩ := h.rbac.exists_readRbac hrbac
  rw [← h.name] at hname
  rw [← h.readTopics_eq] at htopics
  let p : Project := ⟨p'.name, p'.qualifiedName, p'.order, consumers, producers, streams,
    connectors, schemas, rbac, p'.topics⟩
  refine ⟨p, readProject_eq_ok_iff.2 ⟨entries, rfl, hname, hq, horder, hconsumers, hproducers,
    hstreams, hconnectors, hschemas, hrbac, htopics⟩, ?_, ?_, hwithin.artefacts, rfl⟩
  · exact append_subset_append (append_subset_append (append_subset_append
      (flatMap_subset_flatMap _ hconsumers') (flatMap_subset_flatMap _ hproducers'))
      (flatMap_subset_flatMap _ hstreams')) (flatMap_subset_flatMap _ hwithin.members)
  · exact append_subset_append (append_subset_append (append_subset_append (append_subset_append
      (map_subset _ hconsumers') (map_subset _ hproducers')) (map_subset _ hstreams'))
      (map_subset _ hwithin.members)) (map_subset _ hschemas')

end

/-! ## The platform -/

/-- The same for a component, a mapping or a list with one value: the value widens the other. -/
inductive WidensComponent (key : String) (widens : Option Document → Option Document → Prop) :
    Option Document → Option Document → Prop where
  | same (x : Option Document) : WidensComponent key widens x x
  | first (d : Document) : WidensComponent key widens none (some d)
  | fields {x x' : Option Document} (h : widens x x') :
    WidensComponent key widens (some (.list x.toList)) (some (.list x'.toList))
  | entries {entries entries' : Entries}
    (h : widens (Entries.get? key entries) (Entries.get? key entries')) :
    WidensComponent key widens (some (.mapping entries)) (some (.mapping entries'))

/-- What a record with one field is read as, from the value of the field. -/
inductive Holds {ρ α : Type} (decode : Decoder α) (set : α → ρ → ρ) (blank : ρ) :
    Option Document → ρ → Prop where
  | absent : Holds decode set blank none blank
  | present {d : Document} {a : α} (h : Decodes decode d a) :
    Holds decode set blank (some d) (set a blank)

section
variable {ρ α : Type} {s : Schema ρ} {key : String} {decode : Decoder α} {set : α → ρ → ρ}

theorem readAll_iff_holds {x : Option Document} {blank r : ρ} :
    Schema.readAll (x.toList.map (Field.defaulted key [] decode set, ·)) blank = .ok r ↔
      Holds decode set blank x r := by
  cases x with
  | none =>
    constructor
    · rintro ⟨⟩
      exact .absent
    · rintro ⟨⟩
      rfl
  | some d =>
    show Schema.readAll [(Field.defaulted key [] decode set, d)] blank = .ok r ↔ _
    simp only [Schema.readAll_cons_eq_ok_iff, Field.defaulted, Schema.readAll_nil,
      Except.ok.injEq, exists_eq_right, bind_eq_ok_iff, pure_eq_ok_iff]
    constructor
    · rintro ⟨a, h, rfl⟩
      exact .present h
    · rintro (- | h)
      exact ⟨_, h, rfl⟩

theorem holds_list_iff {x : Option Document} {values : List α} :
    Holds (Decoder.list decode) (fun v _ => v) [] x values ↔
      Lists (Decodes decode) (x.getD (.list [])) values := by
  cases x with
  | none =>
    rw [Option.getD_none, lists_nil_iff]
    constructor
    · rintro ⟨⟩
      rfl
    · rintro rfl
      exact .absent
  | some d =>
    rw [Option.getD_some, ← list_eq_ok_iff]
    constructor
    · rintro (- | h)
      exact h
    · exact fun h => .present h

theorem exists_holds_iff {blank : ρ} {x : Option Document} :
    (∃ r, Holds decode set blank x r) ↔ ∀ d ∈ x, decode.form d := by
  cases x with
  | none => exact ⟨fun _ => nofun, fun _ => ⟨_, .absent⟩⟩
  | some d =>
    constructor
    · rintro ⟨_, - | h⟩ _ ⟨⟩
      exact Except.isOk_iff.2 ⟨_, h⟩
    · intro h
      obtain ⟨a, ha⟩ := Except.isOk_iff.1 (h d rfl)
      exact ⟨_, .present ha⟩

variable (hfields : s.fields = [.defaulted key [] decode set])
include hfields

theorem laidOut_of_single {entries : Entries} (hkeys : (entries.map Prod.fst).Nodup) :
    s.laidOut (.mapping entries) =
      (Entries.get? key entries).toList.map (.defaulted key [] decode set, ·) := by
  induction entries with
  | nil => rfl
  | cons e rest ih =>
    obtain ⟨key', d⟩ := e
    obtain ⟨hnew, hrest⟩ := List.nodup_cons.1 hkeys
    have hnamed : (Field.defaulted key [] decode set).isNamed key' = (key == key') :=
      Bool.or_false _
    have hout : s.laidOut (.mapping ((key', d) :: rest)) =
        (if key == key' then [(.defaulted key [] decode set, d)] else []) ++
          s.laidOut (.mapping rest) := by
      simp only [Schema.laidOut, Document.laidOut, List.filterMap_cons, hfields,
        List.find?_cons, hnamed, List.find?_nil]
      cases key == key' <;> rfl
    rw [hout, ih hrest, Entries.get?]
    by_cases hkey : key' = key
    · subst hkey
      have hnone : Entries.get? key' rest = none :=
        Option.eq_none_iff_forall_ne_some.2 fun x hx =>
          hnew (List.mem_map.2 ⟨_, Document.mem_of_get? hx, rfl⟩)
      rw [if_pos (beq_self_eq_true key'), hnone, if_pos rfl]
      rfl
    · rw [if_neg hkey, if_neg (by simpa using Ne.symm hkey), List.nil_append]

/-- What a record with one field is read from, if it is a mapping. -/
theorem decodes_mapping_iff {entries : Entries} (hkeys : (entries.map Prod.fst).Nodup) {r : ρ} :
    Decodes s.decode (.mapping entries) r ↔
      Holds decode set s.blank (Entries.get? key entries) r := by
  have hadmits : s.Admits (.mapping entries) := by
    rw [Schema.Admits, laidOut_of_single hfields hkeys, hfields]
    refine ⟨?_, List.forall_mem_singleton.2 fun h => absurd h Bool.false_ne_true⟩
    cases Entries.get? key entries with
    | none => exact List.nodup_nil
    | some d => exact List.nodup_singleton _
  rw [Decodes, Schema.decode_eq_ok_iff, laidOut_of_single hfields hkeys, and_iff_right hadmits]
  exact readAll_iff_holds

/-- The same if it is a list. -/
theorem decodes_list_iff {x : Option Document} {r : ρ} :
    Decodes s.decode (.list x.toList) r ↔ Holds decode set s.blank x r := by
  have hlaid : s.laidOut (.list x.toList) =
      x.toList.map (.defaulted key [] decode set, ·) := by
    rw [Schema.laidOut, hfields]
    cases x <;> rfl
  have hadmits : s.Admits (.list x.toList) := by
    rw [Schema.Admits, hfields]
    cases x with
    | none => exact ⟨Nat.zero_le _, List.forall_mem_singleton.2 rfl⟩
    | some d => exact ⟨Nat.le_refl _, List.forall_mem_nil _⟩
  rw [Decodes, Schema.decode_eq_ok_iff, hlaid, and_iff_right hadmits]
  exact readAll_iff_holds

/-- What is read of a component is within what is read of a wider one, if that holds of its field. -/
theorem WidensComponent.exists_rel {widens : Option Document → Option Document → Prop}
    {r : ρ → ρ → Prop} (hrefl : ∀ v, r v v) (hblank : ∀ v, r s.blank v)
    (hwidens : ∀ {y y' : Option Document}, widens y y' → ∀ v',
      Holds decode set s.blank y' v' →
        ∃ v, Holds decode set s.blank y v ∧ r v v')
    {x x' : Option Document} (h : WidensComponent key widens x x')
    (hx : ∀ d ∈ x, d.Distinct) (hdistinct' : ∀ d ∈ x', d.Distinct) {v' : Option ρ}
    (hx' : Option.Rel (Decodes s.decode) x' v') :
    ∃ v, Option.Rel (Decodes s.decode) x v ∧
      r (v.getD s.blank) (v'.getD s.blank) := by
  cases h with
  | same => exact ⟨v', hx', hrefl _⟩
  | first d => exact ⟨none, .none, hblank _⟩
  | fields h =>
    obtain ⟨v', hv', rfl⟩ := rel_some_iff.1 hx'
    obtain ⟨v, hv, hr⟩ := hwidens h v' ((decodes_list_iff hfields).1 hv')
    exact ⟨some v, .some ((decodes_list_iff hfields).2 hv), hr⟩
  | entries h =>
    obtain ⟨v', hv', rfl⟩ := rel_some_iff.1 hx'
    obtain ⟨v, hv, hr⟩ :=
      hwidens h v' ((decodes_mapping_iff hfields (hdistinct' _ rfl).nodup).1 hv')
    exact ⟨some v, .some ((decodes_mapping_iff hfields (hx _ rfl).nodup).2 hv), hr⟩

end

/-- A component with more instances. -/
theorem WidensComponent.exists_instances {α : Type} {name : String} {decode : Decoder α}
    {x x' : Option Document} (h : WidensComponent "instances" Widens x x')
    (hx : ∀ d ∈ x, d.Distinct) (hdistinct' : ∀ d ∈ x', d.Distinct) {v' : Option (List α)}
    (hx' : Option.Rel (Decodes (instancesSchema name decode).decode) x' v') :
    ∃ v, Option.Rel (Decodes (instancesSchema name decode).decode) x v ∧
      v.getD [] ⊆ v'.getD [] := by
  refine exists_rel (s := instancesSchema name decode) rfl List.Subset.refl List.nil_subset
    (fun hwidens values' hvalues' => ?_) h hx hdistinct' hx'
  obtain ⟨values, hvalues, hsubset⟩ := hwidens.exists_lists (holds_list_iff.1 hvalues')
  exact ⟨values, holds_list_iff.2 hvalues, hsubset⟩

/-- Broker roles with more principals. -/
theorem WidensComponent.exists_roles {x x' : Option Document}
    (h : WidensComponent "rbac" WidensRbac x x') (hx : ∀ d ∈ x, d.Distinct)
    (hdistinct' : ∀ d ∈ x', d.Distinct) {v' : Option KafkaRoles}
    (hx' : Option.Rel (Decodes KafkaRoles.schema.decode) x' v') :
    ∃ v, Option.Rel (Decodes KafkaRoles.schema.decode) x v := by
  have hholds {y y' : Option Document} (hwidens : WidensRbac y y') {decode : Decoder String}
      {set : List (String × List String) → KafkaRoles → KafkaRoles} {blank r' : KafkaRoles}
      (hr' : Holds (Decoder.pairs (Decoder.list decode)) set blank y' r') :
      ∃ r, Holds (Decoder.pairs (Decoder.list decode)) set blank y r := by
    have hform := exists_holds_iff.1 ⟨r', hr'⟩
    rw [Decoder.form_pairs, Decoder.form_list] at hform
    refine exists_holds_iff.2 ?_
    rw [Decoder.form_pairs, Decoder.form_list]
    exact hwidens.form_values hform
  obtain ⟨v, hv, -⟩ := exists_rel (s := KafkaRoles.schema) (r := fun _ _ => True) rfl
    (fun _ => trivial) (fun _ => trivial)
    (fun hwidens _ hr' => (hholds hwidens hr').imp fun _ hr => ⟨hr, trivial⟩) h hx hdistinct' hx'
  exact ⟨v, hv⟩

/-- The same for a platform: a mapping with components. Anything else declares none. -/
inductive WidensPlatform : Option Document → Option Document → Prop where
  | same (x : Option Document) : WidensPlatform x x
  | first {x : Option Document} (hx : ∀ entries, x ≠ some (.mapping entries)) (d : Document) :
    WidensPlatform x (some d)
  | components {entries entries' : Entries}
    (hkafka : WidensComponent "rbac" WidensRbac (present? entries Component.kafka.key)
      (present? entries' Component.kafka.key))
    (h : ∀ c : Component, c ≠ .kafka →
      WidensComponent "instances" Widens (present? entries c.key) (present? entries' c.key)) :
    WidensPlatform (some (.mapping entries)) (some (.mapping entries'))

theorem readPlatform_of_no_mapping {x : Option Document}
    (hx : ∀ entries, x ≠ some (.mapping entries)) : readPlatform x = .ok .empty := by
  rcases x with - | d
  · rfl
  cases d with
  | mapping entries => exact absurd rfl (hx entries)
  | _ => rfl

theorem WidensPlatform.exists_within {x x' : Option Document} (h : WidensPlatform x x')
    (hx : ∀ d ∈ x, d.Distinct) (hx' : ∀ d ∈ x', d.Distinct) {p' : Platform}
    (hread : readPlatform x' = .ok p') : ∃ p, readPlatform x = .ok p ∧ p.Within p' := by
  cases h with
  | same => exact ⟨p', hread, .refl p'⟩
  | first hx =>
    exact ⟨.empty, readPlatform_of_no_mapping hx, List.nil_subset _, List.nil_subset _⟩
  | @components entries entries' hkafka h =>
    have hdistinct (c : Component) : ∀ d ∈ present? entries c.key, d.Distinct :=
      fun _ => distinct_of_present? (hx _ rfl)
    have hdistinct' (c : Component) : ∀ d ∈ present? entries' c.key, d.Distinct :=
      fun _ => distinct_of_present? (hx' _ rfl)
    obtain ⟨hkafka', hconnect', hregistry', hcontrol'⟩ := readPlatform_eq_ok_iff.1 hread
    obtain ⟨kafka, hkafka⟩ := hkafka.exists_roles (hdistinct _) (hdistinct' _) hkafka'
    obtain ⟨connect, hconnect, hconnect'⟩ :=
      (h .kafkaConnect nofun).exists_instances (hdistinct _) (hdistinct' _) hconnect'
    obtain ⟨registry, hregistry, hregistry'⟩ :=
      (h .schemaRegistry nofun).exists_instances (hdistinct _) (hdistinct' _) hregistry'
    obtain ⟨control, hcontrol, hcontrol'⟩ :=
      (h .controlCenter nofun).exists_instances (hdistinct _) (hdistinct' _) hcontrol'
    exact ⟨⟨kafka, connect, registry, control⟩,
      readPlatform_eq_ok_iff.2 ⟨hkafka, hconnect, hregistry, hcontrol⟩,
      Platform.within_of_instances hconnect' hregistry' hcontrol'⟩

/-! ## The whole document -/

/-- The same for the entries of a document: the projects widen each other one by one. -/
structure WidensRoot (root root' : Entries) : Prop where
  context : Entries.get? "context" root = Entries.get? "context" root'
  attributes : attributesOf root = attributesOf root'
  platform : WidensPlatform (Entries.get? "platform" root) (Entries.get? "platform" root')
  projects : ∃ projects projects' : List Entries,
    Entries.get? "projects" root = some (.list (projects.map .mapping)) ∧
    Entries.get? "projects" root' = some (.list (projects'.map .mapping)) ∧
    List.Forall₂ WidensProject projects projects'

theorem exists_projects_within {projects projects' : List Entries}
    (h : List.Forall₂ WidensProject projects projects') {context : String} {order : List String}
    {ps' : List Project}
    (hread : (projects'.map Document.mapping).mapM (readProject naming context order) = .ok ps') :
    ∃ ps, (projects.map Document.mapping).mapM (readProject naming context order) = .ok ps ∧
      List.Forall₂ Project.Within ps ps' := by
  induction h generalizing ps' with
  | nil =>
    cases hread
    exact ⟨[], rfl, .nil⟩
  | cons hproject _ ih =>
    obtain ⟨p', hp', rest', hrest', rfl⟩ := Except.mapM_cons_eq_ok_iff.1 hread
    obtain ⟨p, hp, hwithin⟩ := hproject.exists_within hp'
    obtain ⟨rest, hrest, hrests⟩ := ih hrest'
    exact ⟨p :: rest, Except.mapM_cons_eq_ok_iff.2 ⟨p, hp, rest, hrest, rfl⟩,
      .cons hwithin hrests⟩

/-- Where the wider document is accepted, the narrower one is too; it asks for no more, and for the
same topics. -/
theorem WidensRoot.exists_within {root root' : Entries} (h : WidensRoot root root')
    (hd : (Document.mapping root).Distinct) (hd' : (Document.mapping root').Distinct)
    {t' : Topology} (ht' : ofDocument naming (.mapping root') = .ok t') :
    ∃ t, ofDocument naming (.mapping root) = .ok t ∧ t.Within t' := by
  obtain ⟨_, ⟨⟩, hrequired, hcontext, hattributes, hseparator, hplatform, -, hnames⟩ :=
    ofDocument_eq_ok_iff.1 ht'
  obtain ⟨items', hitems', hread'⟩ := exists_items ht'
  obtain ⟨projects, projects', hlisted, hlisted', hwidens⟩ := h.projects
  cases hitems'.symm.trans hlisted'
  obtain ⟨platform, hreads, hplatformWithin⟩ :=
    h.platform.exists_within (fun _ => hd.get?) (fun _ => hd'.get?) hplatform
  obtain ⟨ps, hread, hprojects⟩ := exists_projects_within hwidens hread'
  let t : Topology := { t' with platform, projects := ps }
  have hwithin : t.Within t' := within_of_projects hprojects hplatformWithin
  refine ⟨t, ofDocument_eq_ok_iff.2 ⟨root, rfl, ?_, ?_, ?_, hseparator, hreads, ?_, ?_⟩, hwithin⟩
  · rw [checkRequiredKeys_congr h.context hlisted hlisted', hrequired]
  · rw [readContext_congr h.context, hcontext]
  · rw [h.attributes, hattributes]
  · exact readProjects_eq_ok_iff.2 ⟨_, hlisted, hread⟩
  · rwa [topicNames, hwithin.topics]

end Topology
end KafkaTopology
