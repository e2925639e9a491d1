import KafkaTopology.Proofs.Decode.KeyOrder
import KafkaTopology.Proofs.Topology.Declared
/-!
# Sections and the order of keys

No record of a topology and no section of a document depends on the order of keys: read from a
mapping with its keys in order (`Document.inKeyOrder`), a section is what it is when it is read from
the mapping itself. Only the settings of a written topic keep documents, which come with their keys
in order too (`WrittenTopic.reorders`).
-/
namespace KafkaTopology

open Decoder (OrderFree)
open KafkaTopology.Field (sets_of_read reorders_of_read commutes_of_read)
open Document (Distinct inKeyOrder)

/-! ## Records -/

theorem Document.scalarText?_ordered (d : Document) : d.ordered.scalarText? = d.scalarText? := by
  cases d <;> rfl

theorem orderFree_optionalText : optionalText.OrderFree :=
  Decoder.orderFree_option Decoder.orderFree_text

theorem orderFree_textList : textList.OrderFree := Decoder.orderFree_list Decoder.orderFree_text

theorem Consumer.orderFree : schema.decode.OrderFree := by
  refine Schema.reorders_decode (by decide) ?_ ?_ rfl
  · exact List.pairwise_pair.2 (commutes_of_read rfl rfl fun _ _ _ => rfl)
  · simp only [schema, List.forall_mem_cons]
    exact ⟨reorders_of_read rfl Decoder.orderFree_text, reorders_of_read rfl orderFree_optionalText,
      List.forall_mem_nil _⟩

theorem Producer.orderFree : schema.decode.OrderFree := by
  refine Schema.reorders_decode (by decide) ?_ ?_ rfl
  · simp only [schema, List.pairwise_cons, List.forall_mem_cons, List.not_mem_nil,
      IsEmpty.forall_iff, implies_true, List.Pairwise.nil, and_true]
    and_intros <;> exact commutes_of_read rfl rfl fun _ _ _ => rfl
  · simp only [schema, List.forall_mem_cons]
    exact ⟨reorders_of_read rfl Decoder.orderFree_text, reorders_of_read rfl orderFree_optionalText,
      reorders_of_read rfl (Decoder.orderFree_option Decoder.orderFree_bool), List.forall_mem_nil _⟩

theorem TopicAccess.orderFree : schema.decode.OrderFree := by
  refine Schema.reorders_decode (by decide) ?_ ?_ rfl
  · exact List.pairwise_pair.2 (commutes_of_read rfl rfl fun _ _ _ => rfl)
  · simp only [schema, List.forall_mem_cons]
    exact ⟨reorders_of_read rfl orderFree_textList, reorders_of_read rfl orderFree_textList,
      List.forall_mem_nil _⟩

theorem StreamApp.orderFree : schema.decode.OrderFree := by
  refine Schema.reorders_decode (by decide) ?_ ?_ rfl
  · simp only [schema, List.pairwise_cons, List.forall_mem_cons, List.not_mem_nil,
      IsEmpty.forall_iff, implies_true, List.Pairwise.nil, and_true]
    and_intros <;> exact commutes_of_read rfl rfl fun _ _ _ => rfl
  · simp only [schema, List.forall_mem_cons]
    exact ⟨reorders_of_read rfl Decoder.orderFree_text, reorders_of_read rfl orderFree_optionalText,
      reorders_of_read rfl TopicAccess.orderFree, List.forall_mem_nil _⟩

theorem ConnectorMember.orderFree : schema.decode.OrderFree := by
  refine Schema.reorders_decode (by decide) ?_ ?_ rfl
  · simp only [schema, List.pairwise_cons, List.forall_mem_cons, List.not_mem_nil,
      IsEmpty.forall_iff, implies_true, List.Pairwise.nil, and_true]
    and_intros <;> exact commutes_of_read rfl rfl fun _ _ _ => rfl
  · simp only [schema, List.forall_mem_cons]
    exact ⟨reorders_of_read rfl Decoder.orderFree_text, reorders_of_read rfl TopicAccess.orderFree,
      reorders_of_read rfl orderFree_textList, List.forall_mem_nil _⟩

theorem SchemaMember.orderFree : schema.decode.OrderFree := by
  refine Schema.reorders_decode (by decide) ?_ ?_ rfl
  · exact List.pairwise_pair.2 (commutes_of_read rfl rfl fun _ _ _ => rfl)
  · simp only [schema, List.forall_mem_cons]
    exact ⟨reorders_of_read rfl Decoder.orderFree_text, reorders_of_read rfl orderFree_textList,
      List.forall_mem_nil _⟩

theorem orderFree_principalSchema : principalSchema.decode.OrderFree :=
  Schema.reorders_decode (by decide) (List.pairwise_singleton _ _)
    (List.forall_mem_singleton.2 (reorders_of_read rfl Decoder.orderFree_text)) rfl

theorem KafkaRoles.orderFree : schema.decode.OrderFree := by
  refine Schema.reorders_decode (by decide) (List.pairwise_singleton _ _)
    (List.forall_mem_singleton.2 ?_) rfl
  have hroles := Decoder.reorders_keyed (Decoder.orderFree_list orderFree_principalSchema)
  refine (Field.Sets.keyed (fun m _ => ⟨m⟩) (sets_of_read rfl)).reorders hroles fun m _ => ?_
  exact congrArg KafkaRoles.mk (OrderedSet.ext (List.map_id' m.toList))

theorem orderFree_instancesSchema {α : Type} (name : String) {decode : Decoder α}
    (h : decode.OrderFree) : (instancesSchema name decode).decode.OrderFree :=
  Schema.reorders_decode (List.nodup_singleton _) (List.pairwise_singleton _ _)
    (List.forall_mem_singleton.2 (reorders_of_read rfl (Decoder.orderFree_list h))) rfl

theorem ConnectInstance.orderFree : schema.decode.OrderFree := by
  refine Schema.reorders_decode (by decide) ?_ ?_ rfl
  · simp only [schema, List.pairwise_cons, List.forall_mem_cons, List.not_mem_nil,
      IsEmpty.forall_iff, implies_true, List.Pairwise.nil, and_true]
    and_intros <;> exact commutes_of_read rfl rfl fun _ _ _ => rfl
  · simp only [schema, List.forall_mem_cons]
    exact ⟨reorders_of_read rfl Decoder.orderFree_text, reorders_of_read rfl orderFree_optionalText,
      reorders_of_read rfl orderFree_optionalText, reorders_of_read rfl orderFree_optionalText,
      reorders_of_read rfl orderFree_optionalText, List.forall_mem_nil _⟩

theorem RegistryInstance.orderFree : schema.decode.OrderFree := by
  refine Schema.reorders_decode (by decide) ?_ ?_ rfl
  · simp only [schema, List.pairwise_cons, List.forall_mem_cons, List.not_mem_nil,
      IsEmpty.forall_iff, implies_true, List.Pairwise.nil, and_true]
    and_intros <;> exact commutes_of_read rfl rfl fun _ _ _ => rfl
  · simp only [schema, List.forall_mem_cons]
    exact ⟨reorders_of_read rfl Decoder.orderFree_text, reorders_of_read rfl orderFree_optionalText,
      reorders_of_read rfl orderFree_optionalText, List.forall_mem_nil _⟩

theorem ControlCenterInstance.orderFree : schema.decode.OrderFree := by
  refine Schema.reorders_decode (by decide) ?_ ?_ rfl
  · exact List.pairwise_pair.2 (commutes_of_read rfl rfl fun _ _ _ => rfl)
  · simp only [schema, List.forall_mem_cons]
    exact ⟨reorders_of_read rfl Decoder.orderFree_text, reorders_of_read rfl orderFree_optionalText,
      List.forall_mem_nil _⟩

namespace Topology

theorem WrittenArtefact.orderFree : WrittenArtefact.schema.decode.OrderFree := by
  refine Schema.reorders_decode (by decide) ?_ ?_ rfl
  · simp only [WrittenArtefact.schema, List.pairwise_cons, List.forall_mem_cons, List.not_mem_nil,
      IsEmpty.forall_iff, implies_true, List.Pairwise.nil, and_true]
    and_intros <;> exact commutes_of_read rfl rfl fun _ _ _ => rfl
  · simp only [WrittenArtefact.schema, List.forall_mem_cons]
    exact ⟨reorders_of_read rfl orderFree_optionalText, reorders_of_read rfl orderFree_optionalText,
      reorders_of_read rfl orderFree_optionalText, List.forall_mem_nil _⟩

/-- A written topic with the values of its settings in order. -/
def WrittenTopic.reordered (w : WrittenTopic) : WrittenTopic :=
  { w with config := w.config.mapValues Document.ordered }

theorem WrittenTopic.reorders : WrittenTopic.schema.decode.Reorders WrittenTopic.reordered := by
  refine Schema.reorders_decode (by decide) ?_ ?_ rfl
  · simp only [WrittenTopic.schema, List.pairwise_cons, List.forall_mem_cons, List.not_mem_nil,
      IsEmpty.forall_iff, implies_true, List.Pairwise.nil, and_true]
    and_intros <;> exact commutes_of_read rfl rfl fun _ _ _ => rfl
  · simp only [WrittenTopic.schema, List.forall_mem_cons]
    refine ⟨Field.Sets.reorders (sets_of_read rfl) orderFree_optionalText fun _ _ => rfl,
      Field.Sets.reorders (sets_of_read rfl) orderFree_optionalText fun _ _ => rfl, ?_,
      List.forall_mem_nil _⟩
    exact (Field.Sets.keyed (fun m t => { t with config := m }) (sets_of_read rfl)).reorders
      (Decoder.reorders_keyed Decoder.reorders_any) fun _ _ => rfl

/-! ## Sections -/

/-- Whether what a document stands for does not depend on the order of its keys. -/
def Regardless {α : Type} (r : Document → α → Prop) : Prop :=
  ∀ d : Document, d.Distinct → ∀ a, r d.ordered a ↔ r d a

variable {α : Type} {r : Document → α → Prop} {entries : Entries}

theorem regardless_decodes {decode : Decoder α} (h : decode.OrderFree) :
    Regardless (Decodes decode) := fun _ hd _ => h.eq_ok_iff hd

theorem Regardless.forall₂ (h : Regardless r) {items : List Document}
    (hd : ∀ d ∈ items, d.Distinct) {values : List α} :
    List.Forall₂ (fun d => r d.ordered) items values ↔ List.Forall₂ r items values := by
  induction items generalizing values with
  | nil => simp only [List.forall₂_nil_left_iff]
  | cons d items ih =>
    obtain ⟨hfirst, hrest⟩ := List.forall_mem_cons.1 hd
    simp only [List.forall₂_cons_left_iff, h d hfirst, ih hrest]

theorem Regardless.lists (h : Regardless r) : Regardless (Lists r) := by
  intro d hd values
  cases d with
  | list items =>
    rw [Document.ordered_list]
    simp only [Lists, Document.list.injEq, exists_eq_left', List.forall₂_map_left_iff,
      h.forall₂ fun _ => hd.item]
  | mapping => simp [Lists, Document.ordered_mapping_eq]
  | _ => rfl

theorem present?_inKeyOrder (h : (entries.map Prod.fst).Nodup) (key : String) :
    present? (inKeyOrder entries) key = (present? entries key).map Document.ordered := by
  rw [present?, present?, Document.get?_inKeyOrder h]
  rcases Entries.get? key entries with - | d
  · rfl
  · cases d <;> rfl

theorem distinct_of_present? (h : (Document.mapping entries).Distinct) {key : String} {d : Document}
    (hd : present? entries key = some d) : d.Distinct := by
  rw [present?] at hd
  split at hd
  · cases hd
  · exact h.get? hd

theorem Regardless.rel (h : Regardless r) {d : Option Document} (hd : ∀ x ∈ d, x.Distinct)
    (v : Option α) : Option.Rel r (d.map Document.ordered) v ↔ Option.Rel r d v := by
  cases d with
  | none => rfl
  | some d => simp only [Option.map_some, rel_some_iff, h d (hd d rfl)]

/-- What a mapping has under a key, if it has it. -/
theorem Regardless.present (h : Regardless r) (hd : (Document.mapping entries).Distinct)
    (key : String) (v : Option α) :
    Option.Rel r (present? (inKeyOrder entries) key) v ↔ Option.Rel r (present? entries key) v := by
  rw [present?_inKeyOrder hd.nodup]
  exact h.rel (fun _ => distinct_of_present? hd) v

theorem scalar_inKeyOrder (h : (entries.map Prod.fst).Nodup) (key : String) :
    (Entries.get? key (inKeyOrder entries)).bind Document.scalarText? =
      (Entries.get? key entries).bind Document.scalarText? := by
  rw [Document.get?_inKeyOrder h]
  cases Entries.get? key entries with
  | none => rfl
  | some d => exact d.scalarText?_ordered

theorem readPlatform_ordered_iff {d : Document} (hd : d.Distinct) {p : Platform} :
    readPlatform (some d.ordered) = .ok p ↔ readPlatform (some d) = .ok p := by
  cases d with
  | mapping entries =>
    have hkafka := (regardless_decodes KafkaRoles.orderFree).present hd
    have hconnect := (regardless_decodes
      (orderFree_instancesSchema "KafkaConnect" ConnectInstance.orderFree)).present hd
    have hregistry := (regardless_decodes
      (orderFree_instancesSchema "SchemaRegistry" RegistryInstance.orderFree)).present hd
    have hcontrol := (regardless_decodes
      (orderFree_instancesSchema "ControlCenter" ControlCenterInstance.orderFree)).present hd
    rw [Document.ordered_mapping_eq, readPlatform_eq_ok_iff, readPlatform_eq_ok_iff]
    exact ⟨fun h => ⟨(hkafka _ _).1 h.kafka, (hconnect _ _).1 h.kafkaConnect,
        (hregistry _ _).1 h.schemaRegistry, (hcontrol _ _).1 h.controlCenter⟩,
      fun h => ⟨(hkafka _ _).2 h.kafka, (hconnect _ _).2 h.kafkaConnect,
        (hregistry _ _).2 h.schemaRegistry, (hcontrol _ _).2 h.controlCenter⟩⟩
  | list items =>
    rw [Document.ordered_list]
    rfl
  | _ => rfl

theorem readMembers_inKeyOrder_iff {decode : Decoder α} (h : decode.OrderFree)
    (hd : (Document.mapping entries).Distinct) {project : String} {role : Role}
    {members : Option (List α)} :
    readMembers project (inKeyOrder entries) role decode = .ok members ↔
      readMembers project entries role decode = .ok members := by
  rw [readMembers_eq_ok_iff, readMembers_eq_ok_iff]
  exact (regardless_decodes h).lists.present hd _ _

/-! ## Connectors -/

variable {naming : Naming} {project : String}

theorem regardless_declaresArtefact : Regardless (DeclaresArtefact naming) := by
  intro d hd a
  simp only [DeclaresArtefact, regardless_decodes WrittenArtefact.orderFree d hd _]

/-- A list that may be missing. -/
theorem Regardless.getD (h : Regardless r) {d : Option Document} (hd : ∀ x ∈ d, x.Distinct)
    (values : List α) :
    Lists r ((d.map Document.ordered).getD (.list [])) values ↔
      Lists r (d.getD (.list [])) values := by
  cases d with
  | none => rfl
  | some d => exact h.lists d (hd d rfl) values

theorem regardless_declaresConnectors : Regardless (DeclaresConnectors naming) := by
  intro d hd s
  have hmembers := regardless_decodes ConnectorMember.orderFree
  cases d with
  | mapping entries =>
    have hdistinct : ∀ x ∈ (present? entries "artefacts" <|> present? entries "artifacts"),
        x.Distinct := by
      intro x hx
      rcases (Option.orElse_eq_some _ _ _).1 hx with h | ⟨-, h⟩ <;> exact distinct_of_present? hd h
    have hor : ((present? entries "artefacts").map Document.ordered <|>
        (present? entries "artifacts").map Document.ordered) =
        (present? entries "artefacts" <|> present? entries "artifacts").map Document.ordered := by
      cases present? entries "artefacts" <;> rfl
    simp only [Document.ordered_mapping_eq, DeclaresConnectors, present?_inKeyOrder hd.nodup, hor]
    rw [hmembers.getD fun _ => distinct_of_present? hd,
      regardless_declaresArtefact.getD hdistinct]
  | list items =>
    have hlist := hmembers.lists _ hd s.members
    rw [Document.ordered_list] at hlist ⊢
    simp only [DeclaresConnectors, hlist]
  | _ => rfl

theorem readConnectors_inKeyOrder_iff (hd : (Document.mapping entries).Distinct)
    {connectors : Option ConnectorSection} :
    readConnectors naming project (inKeyOrder entries) = .ok connectors ↔
      readConnectors naming project entries = .ok connectors := by
  rw [readConnectors_eq_ok_iff, readConnectors_eq_ok_iff]
  exact regardless_declaresConnectors.present hd _ _

/-! ## Role assignments -/

theorem readPrincipal_ordered {d : Document} (hd : d.Distinct) (role : String) :
    readPrincipal project role d.ordered = readPrincipal project role d := by
  have hscalar : (d.ordered.get? "principal").bind Document.scalarText? =
      (d.get? "principal").bind Document.scalarText? := by
    cases d with
    | mapping entries => exact scalar_inKeyOrder hd.nodup _
    | _ => rfl
  rw [readPrincipal, readPrincipal, hscalar]

/-- The principals of one entry of a role. -/
def principals? (project : String) (e : String × Document) : Option (List String) :=
  match e.2 with
  | .list items => (items.mapM (readPrincipal project e.1)).toOption
  | _ => none

theorem toOption_addRole (m : OrderedMap String (List String)) (e : String × Document) :
    (addRole project m e).toOption =
      (principals? project e).map fun names => m.set e.1 ((m.get? e.1).getD [] ++ names) := by
  obtain ⟨role, d⟩ := e
  cases d with
  | list items => exact (Except.toOption_bind _ _).trans Option.map_eq_bind.symm
  | _ => rfl

theorem principals?_ordered {e : String × Document} (hd : e.2.Distinct) :
    principals? project (e.1, e.2.ordered) = principals? project e := by
  obtain ⟨role, d⟩ := e
  cases d with
  | list items =>
    rw [Document.ordered_list]
    simp only [principals?, List.mapM_map]
    exact congrArg Except.toOption
      (List.mapM_congr_mem fun item hitem => readPrincipal_ordered (hd.item hitem) role)
  | _ => rfl

/-- Different roles may be assigned in any order. -/
theorem swaps_addRole {e e' : String × Document} (h : e.1 ≠ e'.1) :
    List.Swaps (fun m e => (addRole project m e).toOption) e e' := by
  intro m
  simp only [toOption_addRole]
  rcases principals? project e with - | names <;> rcases principals? project e' with - | names'
  · rfl
  · rfl
  · rfl
  · simp only [Option.map_some, Option.bind_some, OrderedMap.get?_set, if_neg h, if_neg (Ne.symm h)]
    rw [OrderedMap.set_comm (mt Std.LawfulEqOrd.eq_of_compare h)]

theorem addRoles_inKeyOrder {mappings : List Entries}
    (hd : ∀ entries ∈ mappings, (Document.mapping entries).Distinct)
    (m : OrderedMap String (List String)) :
    ((mappings.map inKeyOrder).flatten.foldlM (addRole project) m).toOption =
      (mappings.flatten.foldlM (addRole project) m).toOption := by
  -- Roles may come again in a later mapping: the mappings stay in order, only the roles within one
  -- of them change places.
  induction mappings generalizing m with
  | nil => rfl
  | cons entries mappings ih =>
    obtain ⟨hentries, hmappings⟩ := List.forall_mem_cons.1 hd
    have hfirst : ((inKeyOrder entries).foldlM (addRole project) m).toOption =
        (entries.foldlM (addRole project) m).toOption := by
      have hswaps : (inKeyOrder entries).Pairwise
          (List.Swaps fun m e => (addRole project m e).toOption) :=
        Document.pairwise_inKeyOrder (fun _ _ => swaps_addRole) hentries.nodup
      rw [Except.toOption_foldlM, Except.toOption_foldlM]
      have hreorder := List.foldlM_reorder (g := id) (Document.perm_inKeyOrder hentries.nodup)
        hswaps (fun e he m => ?_) m
      · rwa [Option.map_id_fun, id, id] at hreorder
      · rw [toOption_addRole, toOption_addRole, principals?_ordered (hentries.value he),
          Option.map_id_fun]
        rfl
    rw [List.map_cons, List.flatten_cons, List.flatten_cons, List.foldlM_append, List.foldlM_append,
      Except.toOption_bind, Except.toOption_bind, hfirst]
    exact congrArg (Option.bind _) (funext (ih hmappings))

theorem rbacMappings_ordered_iff (d : Option Document) {mappings : List Entries} :
    rbacMappings project (d.map Document.ordered) = .ok mappings ↔
      ∃ ms, rbacMappings project d = .ok ms ∧ ms.map inKeyOrder = mappings := by
  rcases d with - | d
  · simp [rbacMappings]
  cases d with
  | list items =>
    rw [Option.map_some, Document.ordered_list]
    refine Except.mapM_map_eq_ok_iff fun item _ mapping => ?_
    cases item <;> simp [Document.ordered, Document.inKeyOrder, refuse]
  | _ => simp [rbacMappings, Document.ordered, Document.inKeyOrder, refuse]

theorem distinct_of_rbacMappings {d : Option Document} (hd : ∀ x ∈ d, x.Distinct)
    {mappings : List Entries} (h : rbacMappings project d = .ok mappings) :
    ∀ entries ∈ mappings, (Document.mapping entries).Distinct := by
  cases assigns_of_rbacMappings h with
  | absent | null => exact nofun
  | one mapping => exact List.forall_mem_singleton.2 (hd _ rfl)
  | many => exact fun entries hentries => (hd _ rfl).item (List.mem_map_of_mem hentries)

theorem readRbac_inKeyOrder_iff (hd : (Document.mapping entries).Distinct)
    {rbac : OrderedMap String (List String)} :
    readRbac project (Entries.get? "rbac" (inKeyOrder entries)) = .ok rbac ↔
      readRbac project (Entries.get? "rbac" entries) = .ok rbac := by
  rw [Document.get?_inKeyOrder hd.nodup]
  simp only [readRbac, Except.bind_eq_ok_iff, rbacMappings_ordered_iff]
  have hroles {mappings : List Entries}
      (h : rbacMappings project (Entries.get? "rbac" entries) = .ok mappings) :
      (mappings.map inKeyOrder).flatten.foldlM (addRole project) ∅ = .ok rbac ↔
        mappings.flatten.foldlM (addRole project) ∅ = .ok rbac := by
    rw [← Except.toOption_eq_some_iff, ← Except.toOption_eq_some_iff,
      addRoles_inKeyOrder (distinct_of_rbacMappings (fun _ => hd.get?) h)]
  constructor
  · rintro ⟨_, ⟨mappings, hmappings, rfl⟩, hrbac⟩
    exact ⟨mappings, hmappings, (hroles hmappings).1 hrbac⟩
  · rintro ⟨mappings, hmappings, hrbac⟩
    exact ⟨_, ⟨mappings, hmappings, rfl⟩, (hroles hmappings).2 hrbac⟩

end Topology
end KafkaTopology
