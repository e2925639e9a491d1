import KafkaTopology.Proofs.Decode.Change
import KafkaTopology.Proofs.Topology.Declared
/-!
# Reading a document after a change

A document is read as the same topology, or fails with the same error, if one part of it is replaced
by something that is read alike. Each section looks at the value of one key only (`ReadsOnly`), so a
change is followed down the path on which it is made: from the document to a section of a project
(`ofDocument_changeAt_section`) or to the control center (`ofDocument_changeAt_controlCenter`), and
from there to an item.
-/
namespace KafkaTopology

open Document (PathStep)

namespace Topology

variable {naming : Naming}

/-! ## Readers of one key -/

/-- Whether a reader of entries looks at nothing but the value of one key. -/
def ReadsOnly {β : Type} (key : String) (read : Entries → β) : Prop :=
  ∀ entries entries', Entries.get? key entries = Entries.get? key entries' →
    read entries = read entries'

/-- A change of one value is not noticed if it is not noticed where there is no other entry. -/
theorem ReadsOnly.change {β : Type} {key key' : String} {read : Entries → β}
    (h : ReadsOnly key read) {f : Document → Document} {entries : Entries}
    (hf : ∀ d ∈ Entries.get? key' entries, read [(key', f d)] = read [(key', d)]) :
    read (entries.change key' f) = read entries := by
  by_cases hkey : key = key'
  · subst hkey
    -- the reader cannot tell either list of entries from its one entry under the key
    have hchange := Entries.get?_change key f entries
    cases hd : Entries.get? key entries with
    | none =>
      refine h _ _ ?_
      rw [hchange, hd, Option.map_none]
    | some d =>
      have hnew : read (entries.change key f) = read [(key, f d)] := by
        refine h _ _ ?_
        rw [hchange, hd, Option.map_some]
        simp [Entries.get?]
      have hold : read entries = read [(key, d)] := by
        refine h _ _ ?_
        simp [Entries.get?, hd]
      rw [hnew, hold, hf d hd]
  · exact h _ _ (Entries.get?_change_of_ne hkey f entries)

section
variable {α : Type} {project : String}

theorem present?_congr {entries entries' : Entries} {key : String}
    (h : Entries.get? key entries = Entries.get? key entries') :
    present? entries key = present? entries' key := by
  rw [present?, present?, h]

theorem readsOnly_readComponent (c : Component) (decode : Decoder α) :
    ReadsOnly c.key (readComponent · c decode) := fun entries entries' h => by
  simp only [readComponent, present?_congr h]

theorem readsOnly_readMembers (project : String) (role : Role) (decode : Decoder α) :
    ReadsOnly role.key (readMembers project · role decode) := fun entries entries' h => by
  simp only [readMembers, present?_congr h]

theorem readsOnly_readConnectors : ReadsOnly Role.connectors.key (readConnectors naming project) :=
  fun entries entries' h => by simp only [readConnectors, present?_congr h]

theorem readsOnly_readTopics {separator qualifiedName : String} :
    ReadsOnly "topics" (readTopics separator project qualifiedName) := fun entries entries' h => by
  simp only [readTopics, present?_congr h]

theorem readsOnly_readProjects {context : String} {order : List String} :
    ReadsOnly "projects" (readProjects naming context order) := fun entries entries' h => by
  simp only [readProjects, h]

end

/-! ## Sections with one item changed -/

section
variable {α : Type} {decode : Decoder α} {project : String} {g : Document → Document} {j : Nat}
  {d : Document}

theorem readMembers_changeBelow (role : Role)
    (h : ∀ m ∈ d.below? (.item j), decode .strict (g m) = decode .strict m) :
    readMembers project [(role.key, d.changeBelow g (.item j))] role decode =
      readMembers project [(role.key, d)] role decode := by
  have hlist := Decoder.list_changeBelow h
  cases d with
  | list items =>
    simp only [Document.changeBelow] at hlist ⊢
    simp only [readMembers, present?, Entries.get?, if_pos, decodeIn, hlist]
  | _ => rfl

theorem readTopics_changeBelow {separator qualifiedName : String}
    (h : ∀ m ∈ d.below? (.item j),
      WrittenTopic.schema.decode .strict (g m) = WrittenTopic.schema.decode .strict m) :
    readTopics separator project qualifiedName [("topics", d.changeBelow g (.item j))] =
      readTopics separator project qualifiedName [("topics", d)] := by
  have hlist := Decoder.list_changeBelow h
  cases d with
  | list items =>
    simp only [Document.changeBelow] at hlist ⊢
    simp only [readTopics, present?, Entries.get?, if_pos, decodeIn, hlist]
  | _ => rfl

theorem readArtefacts_changeBelow
    (h : ∀ m ∈ d.below? (.item j),
      WrittenArtefact.schema.decode .strict (g m) = WrittenArtefact.schema.decode .strict m) :
    readArtefacts naming project (d.changeBelow g (.item j)) = readArtefacts naming project d := by
  simp only [readArtefacts, decodeIn, Decoder.list_changeBelow h]

end

/-! ## Connectors -/

section
variable {project key key' : String} {parts parts' : Entries}

/-- The members of connectors that are a mapping. -/
def membersOf (project : String) (parts : Entries) : Checked (List ConnectorMember) :=
  match present? parts "access_control" with
  | none => pure []
  | some d =>
    decodeIn (.members .connectors project) (Decoder.list ConnectorMember.schema.decode) d

/-- The artefacts of connectors that are a mapping. -/
def artefactsOf (naming : Naming) (project : String) (parts : Entries) : Checked (List Artefact) :=
  match artefactKeys.findSome? (present? parts) with
  | none => pure []
  | some d => readArtefacts naming project d

theorem readConnectors_mapping (parts : Entries) :
    readConnectors naming project [("connectors", .mapping parts)] =
      membersOf project parts >>= fun members =>
        artefactsOf naming project parts >>= fun artefacts => pure (some ⟨members, artefacts⟩) := by
  have hpresent : present? [("connectors", .mapping parts)] Role.connectors.key =
    some (.mapping parts) := rfl
  simp only [readConnectors, hpresent, membersOf, artefactsOf]
  cases present? parts "access_control" <;> cases artefactKeys.findSome? (present? parts) <;> rfl

theorem present?_eq_filter (entries : Entries) (key : String) :
    present? entries key = (Entries.get? key entries).filter fun d => !d.isNull := by
  rw [present?]
  rcases Entries.get? key entries with - | d
  · rfl
  · cases d <;> rfl

theorem present?_change {f : Document → Document} {entries : Entries}
    (h : ∀ d ∈ Entries.get? key entries, (f d).isNull = d.isNull) :
    present? (entries.change key f) key = (present? entries key).map f := by
  rw [present?_eq_filter, present?_eq_filter, Entries.get?_change]
  cases hd : Entries.get? key entries with
  | none => rfl
  | some d =>
    have hnull := h d hd
    cases hisNull : d.isNull <;> simp [Option.filter, hnull, hisNull]

theorem mem_get?_of_mem_present? {entries : Entries} {d : Document}
    (h : d ∈ present? entries key) : d ∈ Entries.get? key entries := by
  rw [present?_eq_filter] at h
  exact (Option.mem_filter_iff.1 h).1

/-- Whichever key the artefacts come from, a change in them is not noticed if reading them does not
notice it. -/
theorem artefactsOf_change (hkey : key ∈ artefactKeys) {f : Document → Document}
    (hnull : ∀ d ∈ Entries.get? key parts, (f d).isNull = d.isNull)
    (hread : ∀ d ∈ Entries.get? key parts,
      readArtefacts naming project (f d) = readArtefacts naming project d) :
    artefactsOf naming project (parts.change key f) = artefactsOf naming project parts := by
  have hpresent := present?_change hnull
  have hfound : ∀ d ∈ present? parts key,
      readArtefacts naming project (f d) = readArtefacts naming project d :=
    fun d hd => hread d (mem_get?_of_mem_present? hd)
  have hother (other : String) (hne : other ≠ key) :
      present? (parts.change key f) other = present? parts other :=
    present?_congr (Entries.get?_change_of_ne hne f parts)
  rw [artefactsOf, artefactsOf, findSome?_artefactKeys, findSome?_artefactKeys]
  simp only [artefactKeys, List.mem_cons, List.not_mem_nil, or_false] at hkey
  rcases hkey with rfl | rfl
  · rw [hpresent, hother "artifacts" (by decide)]
    cases hd : present? parts "artefacts" with
    | none => rfl
    | some d => exact hfound d hd
  · rw [hpresent, hother "artefacts" (by decide)]
    cases present? parts "artefacts" with
    | some d => rfl
    | none =>
      cases hd : present? parts "artifacts" with
      | none => rfl
      | some d => exact hfound d hd

theorem readConnectors_congr
    (haccess : Entries.get? "access_control" parts' = Entries.get? "access_control" parts)
    (hartefacts : artefactsOf naming project parts' = artefactsOf naming project parts) :
    readConnectors naming project [("connectors", .mapping parts')] =
      readConnectors naming project [("connectors", .mapping parts)] := by
  rw [readConnectors_mapping, readConnectors_mapping, membersOf, membersOf, present?_congr haccess,
    hartefacts]

theorem access_control_ne (hkey : key ∈ artefactKeys) : "access_control" ≠ key := by
  rintro rfl
  exact absurd hkey (by decide)

theorem readConnectors_changeAt (hkey : key ∈ artefactKeys) {j : Nat} {f : Document → Document}
    {d : Document}
    (h : ∀ m ∈ d.at? [.key key, .item j],
      WrittenArtefact.schema.decode .strict (f m) = WrittenArtefact.schema.decode .strict m) :
    readConnectors naming project [("connectors", d.changeAt f [.key key, .item j])] =
      readConnectors naming project [("connectors", d)] := by
  cases d with
  | mapping parts =>
    refine readConnectors_congr ?_ ?_
    · exact Entries.get?_change_of_ne (access_control_ne hkey) _ parts
    · refine artefactsOf_change hkey (fun d _ => Document.isNull_changeBelow _ _ d) fun d hd => ?_
      refine readArtefacts_changeBelow fun m hm => h m ?_
      simp only [Document.at?, Document.below?, Option.mem_def] at hd hm ⊢
      simp [hd, hm]
  | _ => rfl

end

/-! ## Projects -/

/-- Two values that make no difference to a project if they stand under some key. -/
structure AlikeUnder (naming : Naming) (key : String) (d d' : Document) : Prop where
  producers : ∀ project, readMembers project [(key, d')] .producers Producer.schema.decode =
    readMembers project [(key, d)] .producers Producer.schema.decode
  streams : ∀ project, readMembers project [(key, d')] .streams StreamApp.schema.decode =
    readMembers project [(key, d)] .streams StreamApp.schema.decode
  connectors : ∀ project, readConnectors naming project [(key, d')] =
    readConnectors naming project [(key, d)]
  topics : ∀ project qualifiedName,
    readTopics naming.separator project qualifiedName [(key, d')] =
      readTopics naming.separator project qualifiedName [(key, d)]

theorem alikeUnder_connectors {d d' : Document}
    (h : ∀ project, readConnectors naming project [("connectors", d')] =
      readConnectors naming project [("connectors", d)]) : AlikeUnder naming "connectors" d d' :=
  ⟨fun _ => rfl, fun _ => rfl, h, fun _ _ => rfl⟩

section
variable {context : String} {order : List String} {f g : Document → Document} {d : Document}

theorem readProject_changeBelow {key : String}
    (hkey : key ∉ ["name", "consumers", "schemas", "rbac"])
    (h : ∀ v ∈ d.below? (.key key), AlikeUnder naming key v (f v)) :
    readProject naming context order (d.changeBelow f (.key key)) =
      readProject naming context order d := by
  cases d with
  | mapping entries =>
    have hother (name : String) (hname : name ∈ ["name", "consumers", "schemas", "rbac"]) :
        Entries.get? name (Entries.change key f entries) = Entries.get? name entries := by
      refine Entries.get?_change_of_ne ?_ f entries
      rintro rfl
      exact hkey hname
    have hname := hother "name" (by decide)
    have hrbac := hother "rbac" (by decide)
    have hconsumers (project : String) := readsOnly_readMembers project .consumers
      Consumer.schema.decode _ _ (hother "consumers" (by decide))
    have hschemas (project : String) := readsOnly_readMembers project .schemas
      SchemaMember.schema.decode _ _ (hother "schemas" (by decide))
    have hproducers (project : String) :=
      (readsOnly_readMembers project .producers Producer.schema.decode).change
        fun v hv => (h v hv).producers project
    have hstreams (project : String) :=
      (readsOnly_readMembers project .streams StreamApp.schema.decode).change
        fun v hv => (h v hv).streams project
    have hconnectors (project : String) :=
      readsOnly_readConnectors.change fun v hv => (h v hv).connectors project
    have htopics (project qualifiedName : String) :=
      readsOnly_readTopics.change fun v hv => (h v hv).topics project qualifiedName
    simp only [Document.changeBelow, readProject, hname, hrbac, hconsumers, hproducers, hstreams,
      hconnectors, hschemas, htopics]
  | _ => rfl

theorem readProjects_changeBelow {i : Nat}
    (h : ∀ p ∈ d.below? (.item i),
      readProject naming context order (g p) = readProject naming context order p) :
    readProjects naming context order [("projects", d.changeBelow g (.item i))] =
      readProjects naming context order [("projects", d)] := by
  cases d with
  | list items => exact Except.mapM_modify h
  | _ => rfl

/-! ## The whole document -/

theorem readsOnly_readPlatform :
    ReadsOnly "platform" fun root => readPlatform (Entries.get? "platform" root) :=
  fun _ _ h => congrArg readPlatform h

theorem ofDocument_changeBelow {key : String} (hkey : key = "platform" ∨ key = "projects")
    (hnull : ∀ v, (f v).isNull = v.isNull)
    (hplatform : ∀ v ∈ d.below? (.key key), readPlatform (Entries.get? "platform" [(key, f v)]) =
      readPlatform (Entries.get? "platform" [(key, v)]))
    (hprojects : ∀ v ∈ d.below? (.key key), ∀ context order,
      readProjects naming context order [(key, f v)] =
        readProjects naming context order [(key, v)]) :
    ofDocument naming (d.changeBelow f (.key key)) = ofDocument naming d := by
  cases d with
  | mapping root =>
    have hknown : (!knownKeys.contains key) = false := by
      rcases hkey with rfl | rfl <;> rfl
    have hattributes : attributesOf (Entries.change key f root) = attributesOf root :=
      Entries.filter_change (p := fun k => !knownKeys.contains k) hknown f root
    have hcontext : Entries.get? "context" (Entries.change key f root) =
        Entries.get? "context" root := by
      refine Entries.get?_change_of_ne ?_ f root
      rcases hkey with rfl | rfl <;> decide
    -- keys are required to have a value, which a change neither takes away nor brings
    have hpresent (k : String) :
        (present? (Entries.change key f root) k).isNone = (present? root k).isNone := by
      by_cases hk : k = key
      · subst hk
        rw [present?_change fun v _ => hnull v, Option.isNone_map]
      · rw [present?_congr (Entries.get?_change_of_ne hk f root)]
    have hchecked := readsOnly_readPlatform.change hplatform
    have hread (context : String) (order : List String) :=
      readsOnly_readProjects.change fun v hv => hprojects v hv context order
    simp only [Document.changeBelow, ofDocument, checkRequiredKeys, hpresent, readContext, hcontext,
      hattributes, hchecked, hread]
  | _ => rfl

/-- The path to a section of a project. -/
def sectionPath (i : Nat) (key : String) : List PathStep := [.key "projects", .item i, .key key]

theorem ofDocument_changeAt_section {i : Nat} {key : String}
    (hkey : key ∉ ["name", "consumers", "schemas", "rbac"])
    (h : ∀ v ∈ d.at? (sectionPath i key), AlikeUnder naming key v (f v)) :
    ofDocument naming (d.changeAt f (sectionPath i key)) = ofDocument naming d := by
  refine ofDocument_changeBelow (.inr rfl) (fun v => Document.isNull_changeBelow _ _ v)
    (fun _ _ => rfl) fun projects hprojects context order => ?_
  refine readProjects_changeBelow fun p hp => ?_
  refine readProject_changeBelow hkey fun v hv => h v ?_
  simp only [Option.mem_def] at hprojects hp hv ⊢
  simp [sectionPath, Document.at?, hprojects, hp, hv]

/-! ## The control center -/

/-- The instances of a component are the value of the one key, or the one item, that it has. -/
def IsToInstances (step : PathStep) : Prop := step = .key "instances" ∨ step = .item 0

theorem decode_instances_changeBelow {α : Type} {name : String} {decode : Decoder α}
    {step : PathStep} (hstep : IsToInstances step)
    (h : ∀ v ∈ d.below? step,
      Decoder.list decode .strict (g v) = Decoder.list decode .strict v) :
    (instancesSchema name decode).decode .strict (d.changeBelow g step) =
      (instancesSchema name decode).decode .strict d := by
  rcases hstep with rfl | rfl
  · cases d with
    | mapping entries =>
      have hfield : ∀ field ∈ (instancesSchema name decode).fields,
          field.isNamed "instances" = true → ∀ v ∈ Entries.get? "instances" entries, ∀ r,
            field.read .strict (g v) r = field.read .strict v r := by
        intro field hmem _ v hv r
        obtain rfl := List.mem_singleton.1 hmem
        simp only [Field.defaulted, h v hv]
      simp only [Document.changeBelow, Schema.decode, Schema.readEntries_change hfield]
    | _ => rfl
  · cases d with
    | list items =>
      cases items with
      | nil => rfl
      | cons v rest =>
        simp only [Document.changeBelow, List.modify_zero_cons, Schema.decode, instancesSchema,
          Schema.readItems, Field.defaulted, h v rfl, List.length_cons]
    | _ => rfl

theorem readComponent_congr {α : Type} {c : Component} {decode : Decoder α} {v v' : Document}
    (hnull : v'.isNull = v.isNull) (h : decode .strict v' = decode .strict v) :
    readComponent [(c.key, v')] c decode = readComponent [(c.key, v)] c decode := by
  have hpresent (v : Document) :
      present? [(c.key, v)] c.key = if v.isNull then none else some v := by
    rw [present?_eq_filter]
    cases hisNull : v.isNull <;> simp [Entries.get?, Option.filter, hisNull]
  rw [readComponent, readComponent, hpresent, hpresent, hnull]
  cases v.isNull
  · simp only [Bool.false_eq_true, if_false, decodeIn, h]
  · rfl

/-- How the control center is read. -/
abbrev decodeControlCenter : Decoder (List ControlCenterInstance) :=
  (instancesSchema "ControlCenter" ControlCenterInstance.schema.decode).decode

theorem readPlatform_changeBelow (hnull : ∀ v, (f v).isNull = v.isNull)
    (h : ∀ v ∈ d.below? (.key "control_center"),
      decodeControlCenter .strict (f v) = decodeControlCenter .strict v) :
    readPlatform (some (d.changeBelow f (.key "control_center"))) = readPlatform (some d) := by
  cases d with
  | mapping entries =>
    have hother {α : Type} (c : Component) (decode : Decoder α) (hc : c.key ≠ "control_center") :
        readComponent (Entries.change "control_center" f entries) c decode =
          readComponent entries c decode :=
      readsOnly_readComponent c decode _ _ (Entries.get?_change_of_ne hc f entries)
    have hcontrol : readComponent (Entries.change "control_center" f entries) .controlCenter
        decodeControlCenter = readComponent entries .controlCenter decodeControlCenter :=
      (readsOnly_readComponent .controlCenter _).change fun v hv =>
        readComponent_congr (c := .controlCenter) (hnull v) (h v hv)
    simp only [Document.changeBelow, readPlatform, hother .kafka _ (by decide),
      hother .kafkaConnect _ (by decide), hother .schemaRegistry _ (by decide), hcontrol]
  | _ => rfl

theorem ofDocument_changeAt_controlCenter (hnull : ∀ v, (f v).isNull = v.isNull)
    (h : ∀ v ∈ d.at? [.key "platform", .key "control_center"],
      decodeControlCenter .strict (f v) = decodeControlCenter .strict v) :
    ofDocument naming (d.changeAt f [.key "platform", .key "control_center"]) =
      ofDocument naming d := by
  refine ofDocument_changeBelow (.inl rfl) (fun v => Document.isNull_changeBelow _ _ v)
    (fun platform hplatform => ?_) fun _ _ _ _ => rfl
  refine readPlatform_changeBelow hnull fun v hv => h v ?_
  simp only [Option.mem_def] at hplatform hv ⊢
  simp [Document.at?, hplatform, hv]

end

end Topology
end KafkaTopology
