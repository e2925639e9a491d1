import KafkaTopology.Proofs.Document.KeyOrder
import KafkaTopology.Proofs.Topology.Change
/-!
# Synonyms

Some keys have two spellings. Wherever a document is read as something with such a key, either
spelling gives the same topology, or the same error (`either_spelling`). The spellings of a field
must not occur together, though; of the two keys of the artefacts the first one with a value counts.
-/
namespace KafkaTopology.Topology

open Document (PathStep)

/-! ## Connectors -/

section
variable {naming : Naming} {project key key' : String} {parts : Entries}

/-- Either key of the artefacts will do, if the other one is absent. -/
theorem artefactsOf_respell (hkey : key ∈ artefactKeys) (hkey' : key' ∈ artefactKeys)
    (hne : key ≠ key') (habsent : key' ∉ parts.keys) :
    artefactsOf naming project (parts.respell key key') = artefactsOf naming project parts := by
  have hnew : present? (parts.respell key key') key' = present? parts key := by
    rw [present?_eq_filter, present?_eq_filter, Entries.get?_respell_new habsent]
  have hgone : present? (parts.respell key key') key = none := by
    rw [present?_eq_filter, Entries.get?_respell_old hne, Option.filter_none]
  have habsent' : present? parts key' = none := by
    rw [present?_eq_filter, Entries.get?_eq_none_iff.2 habsent, Option.filter_none]
  rw [artefactsOf, artefactsOf, findSome?_artefactKeys, findSome?_artefactKeys]
  simp only [artefactKeys, List.mem_cons, List.not_mem_nil, or_false] at hkey hkey'
  rcases hkey with rfl | rfl <;> rcases hkey' with rfl | rfl
  · exact absurd rfl hne
  · rw [hnew, hgone, habsent']
    cases present? parts "artefacts" <;> rfl
  · rw [hnew, hgone, habsent']
    cases present? parts "artifacts" <;> rfl
  · exact absurd rfl hne

theorem readConnectors_respell (hkey : key ∈ artefactKeys) (hkey' : key' ∈ artefactKeys)
    (hne : key ≠ key') (habsent : key' ∉ parts.keys) :
    readConnectors naming project [("connectors", .mapping (parts.respell key key'))] =
      readConnectors naming project [("connectors", .mapping parts)] := by
  have haccess : Entries.get? "access_control" (parts.respell key key') =
      Entries.get? "access_control" parts :=
    Entries.get?_respell_of_ne (access_control_ne hkey) (access_control_ne hkey') parts
  exact readConnectors_congr haccess (artefactsOf_respell hkey hkey' hne habsent)

/-- A section with nothing but members may be written as their list. -/
theorem readConnectors_members {d : Document} (hnull : d ≠ .null)
    (hmapping : ∀ parts, d ≠ .mapping parts) :
    readConnectors naming project [("connectors", .mapping [("access_control", d)])] =
      readConnectors naming project [("connectors", d)] := by
  rw [readConnectors_mapping]
  cases d with
  | null => exact absurd rfl hnull
  | mapping entries => exact absurd rfl (hmapping entries)
  | _ => rfl

end

/-! ## Records with a key in two spellings -/

/-- What has a field with two spellings. -/
inductive Spelled where
  | artefact
  | topic
  | producer
  | streamApp
  | controlCenterInstance

namespace Spelled

/-- What it is read as. -/
def Value : Spelled → Type
  | .artefact => WrittenArtefact
  | .topic => WrittenTopic
  | .producer => Producer
  | .streamApp => StreamApp
  | .controlCenterInstance => ControlCenterInstance

/-- How it is written. -/
def schema : (r : Spelled) → Schema r.Value
  | .artefact => WrittenArtefact.schema
  | .topic => WrittenTopic.schema
  | .producer => Producer.schema
  | .streamApp => StreamApp.schema
  | .controlCenterInstance => ControlCenterInstance.schema

/-- The two spellings of the field. -/
def spellings : Spelled → String × String
  | .artefact => ("server", "server_label")
  | .topic => ("dataType", "data_type")
  | .producer => ("transactionId", "transaction_id")
  | .streamApp => ("applicationId", "application_id")
  | .controlCenterInstance => ("appId", "app_id")

end Spelled

/-- Whether two keys are a pair of spellings, in either order. -/
def AreSpellings (pair : String × String) (key key' : String) : Prop :=
  (key, key') = pair ∨ (key', key) = pair

namespace Spelled

variable {r : Spelled} {key key' : String}

theorem isNamed_eq (h : AreSpellings r.spellings key key') :
    ∀ f ∈ r.schema.fields, f.isNamed key' = f.isNamed key := by
  have hall : r.schema.fields.all
      (fun f => f.isNamed r.spellings.2 == f.isNamed r.spellings.1) = true := by
    cases r <;> rfl
  have hspellings : ∀ f ∈ r.schema.fields, f.isNamed r.spellings.2 = f.isNamed r.spellings.1 :=
    fun f hf => eq_of_beq (List.all_eq_true.1 hall f hf)
  rcases h with h | h <;> rw [← h] at hspellings
  · exact hspellings
  · exact fun f hf => (hspellings f hf).symm

/-- The two spellings are different keys of one field. -/
theorem exists_find? (h : AreSpellings r.spellings key key') :
    key' ≠ key ∧ ∃ f, r.schema.fields.find? (·.isNamed key) = some f ∧
      r.schema.fields.find? (·.isNamed key') = some f := by
  have hne : r.spellings.2 ≠ r.spellings.1 := by cases r <;> decide
  have hfind : ∃ f, r.schema.fields.find? (·.isNamed r.spellings.1) = some f ∧
      r.schema.fields.find? (·.isNamed r.spellings.2) = some f := by
    cases r <;> exact ⟨_, rfl, rfl⟩
  rcases h with h | h <;> rw [← h] at hne hfind
  · exact ⟨hne, hfind⟩
  · exact ⟨hne.symm, hfind.imp fun _ => And.symm⟩

end Spelled

/-- The paths of a document to what is read as a record with a spelled field. The artefacts of
connectors are read from the second of their keys only if the first one has no value. -/
inductive IsReadAt (d : Document) : Spelled → List PathStep → Prop where
  | topic (i j : Nat) : IsReadAt d .topic (sectionPath i "topics" ++ [.item j])
  | producer (i j : Nat) : IsReadAt d .producer (sectionPath i "producers" ++ [.item j])
  | streamApp (i j : Nat) : IsReadAt d .streamApp (sectionPath i "streams" ++ [.item j])
  | artefact (i j : Nat) :
    IsReadAt d .artefact (sectionPath i "connectors" ++ [.key "artefacts", .item j])
  | artifact (i j : Nat)
    (h : ∀ v, d.at? (sectionPath i "connectors" ++ [.key "artefacts"]) = some v → v = .null) :
    IsReadAt d .artefact (sectionPath i "connectors" ++ [.key "artifacts", .item j])
  | controlCenterInstance {step : PathStep} (h : IsToInstances step) (j : Nat) :
    IsReadAt d .controlCenterInstance [.key "platform", .key "control_center", step, .item j]

section
variable {naming : Naming} {d m : Document} {r : Spelled} {path : List PathStep}
  {f : Document → Document}

/-- Whatever changes in a record without its decoder noticing makes no difference. -/
theorem ofDocument_changeAt (hread : IsReadAt d r path)
    (h : ∀ m ∈ d.at? path, r.schema.decode .strict (f m) = r.schema.decode .strict m) :
    ofDocument naming (d.changeAt f path) = ofDocument naming d := by
  have hitem {path : List PathStep} {v : Document} {j : Nat} (hv : v ∈ d.at? path) :
      ∀ m ∈ v.below? (.item j), m ∈ d.at? (path ++ [.item j]) := fun m hm =>
    Document.mem_at?_append hv (by rwa [Document.at?_singleton])
  cases hread with
  | topic i j =>
    rw [Document.changeAt_append]
    refine ofDocument_changeAt_section (by decide) fun v hv =>
      ⟨fun _ => rfl, fun _ => rfl, fun _ => rfl, fun _ _ => ?_⟩
    exact readTopics_changeBelow fun m hm => h m (hitem hv m hm)
  | producer i j =>
    rw [Document.changeAt_append]
    refine ofDocument_changeAt_section (by decide) fun v hv =>
      ⟨fun _ => ?_, fun _ => rfl, fun _ => rfl, fun _ _ => rfl⟩
    exact readMembers_changeBelow .producers fun m hm => h m (hitem hv m hm)
  | streamApp i j =>
    rw [Document.changeAt_append]
    refine ofDocument_changeAt_section (by decide) fun v hv =>
      ⟨fun _ => rfl, fun _ => ?_, fun _ => rfl, fun _ _ => rfl⟩
    exact readMembers_changeBelow .streams fun m hm => h m (hitem hv m hm)
  | artefact i j =>
    rw [Document.changeAt_append]
    refine ofDocument_changeAt_section (by decide) fun v hv => alikeUnder_connectors fun _ => ?_
    exact readConnectors_changeAt (by decide) fun m hm => h m (Document.mem_at?_append hv hm)
  | artifact i j _ =>
    rw [Document.changeAt_append]
    refine ofDocument_changeAt_section (by decide) fun v hv => alikeUnder_connectors fun _ => ?_
    exact readConnectors_changeAt (by decide) fun m hm => h m (Document.mem_at?_append hv hm)
  | @controlCenterInstance step hstep j =>
    refine ofDocument_changeAt_controlCenter (fun v => Document.isNull_changeBelow _ _ v)
      fun v hv => decode_instances_changeBelow hstep fun instances hinstances => ?_
    have hpath : instances ∈ d.at? ([.key "platform", .key "control_center"] ++ [step]) :=
      Document.mem_at?_append hv (by rwa [Document.at?_singleton])
    exact Decoder.list_changeBelow fun m hm => h m (hitem hpath m hm)

/-! ## What an accepted document has in these places -/

theorem MayHave.of_get? {entries : Entries} {key : String} {form : Form} {v : Document}
    (h : MayHave entries key form) (hv : Entries.get? key entries = some v)
    (hnull : v.isNull = false) : form v := by
  refine h v ?_
  rw [present?_eq_filter, hv]
  simp [Option.filter, hnull]

/-- What stands in a list that may be there has the form of its items. -/
theorem MayHave.item {entries : Entries} {key : String} {form : Form} {v : Document} {j : Nat}
    (h : MayHave entries key (.list form)) (hv : Entries.get? key entries = some v)
    (hm : v.below? (.item j) = some m) : form m := by
  obtain ⟨items, rfl, hitem⟩ := Document.below?_item_eq_some_iff.1 hm
  obtain ⟨_, ⟨⟩, hall⟩ := h.of_get? hv rfl
  exact hall m (List.mem_of_getElem? hitem)

/-- What stands on a path through a section of a project stands in a project of the right form. -/
theorem exists_projectForm {topic : String → Form} {i : Nat} {key : String} {rest : List PathStep}
    (hform : form topic naming d) (hm : d.at? (sectionPath i key ++ rest) = some m) :
    ∃ v entries context, d.at? (sectionPath i key) = some v ∧ v.at? rest = some m ∧
      Entries.get? key entries = some v ∧
      projectForm topic naming context (.mapping entries) := by
  rw [Document.at?_append, Option.bind_eq_some_iff] at hm
  obtain ⟨v, hv, hrest⟩ := hm
  obtain ⟨root, rfl, -, context, -, -, -, items, hitems, hprojects⟩ := hform
  have hbelow := hv
  simp only [sectionPath, Document.at?, Document.below?, hitems, Option.bind_some,
    Option.bind_eq_some_iff] at hbelow
  obtain ⟨p, hp, _, hget, ⟨⟩⟩ := hbelow
  have hproject := hprojects p (List.mem_of_getElem? hp)
  obtain ⟨entries, rfl, -⟩ := id hproject
  exact ⟨v, entries, _, hv, hrest, hget, hproject⟩

/-- An instance of a component, which may be written as a mapping or as a list. -/
theorem form_of_instances {form : Form} {step : PathStep} {j : Nat} (h : Form.instances form d)
    (hstep : IsToInstances step) (hm : d.at? [step, .item j] = some m) : form m := by
  obtain ⟨v, hv, hitem⟩ : ∃ v, d.below? step = some v ∧ v.below? (.item j) = some m := by
    simpa [Document.at?, Option.bind_eq_some_iff] using hm
  have hlaidOut : (.defaulted "instances" [] (.list form), v) ∈
      d.laidOut Part.isNamed [.defaulted "instances" [] (.list form)] := by
    rcases hstep with rfl | rfl
    · obtain ⟨entries, rfl, hget⟩ := Document.below?_key_eq_some_iff.1 hv
      exact List.mem_filterMap.2 ⟨_, Document.mem_of_get? hget, rfl⟩
    · obtain ⟨items, rfl, hget⟩ := Document.below?_item_eq_some_iff.1 hv
      cases items with
      | nil => cases hget
      | cons x rest =>
        cases hget
        exact List.mem_cons_self
  obtain ⟨items, rfl, hget⟩ := Document.below?_item_eq_some_iff.1 hitem
  obtain ⟨_, ⟨⟩, hall⟩ := h.2 _ hlaidOut
  exact hall m (List.mem_of_getElem? hget)

theorem form_of_artefacts {key : String} {j : Nat} {v : Document} (h : connectorsForm naming v)
    (hkey : key = "artefacts" ∨
      key = "artifacts" ∧ ∀ w, v.at? [.key "artefacts"] = some w → w = .null)
    (hm : v.at? [.key key, .item j] = some m) : Form.record WrittenArtefact.parts m := by
  obtain ⟨w, hw, hitem⟩ : ∃ w, v.below? (.key key) = some w ∧ w.below? (.item j) = some m := by
    simpa [Document.at?, Option.bind_eq_some_iff] using hm
  obtain ⟨parts, rfl, hget⟩ := Document.below?_key_eq_some_iff.1 hw
  obtain ⟨items, rfl, hitem⟩ := Document.below?_item_eq_some_iff.1 hitem
  have hpresent : present? parts key = some (.list items) := by
    rw [present?, hget]
  have hfound : artefactKeys.findSome? (present? parts) = some (.list items) := by
    rw [findSome?_artefactKeys]
    rcases hkey with rfl | ⟨rfl, hfirst⟩
    · rw [hpresent]
      rfl
    · have hnone : present? parts "artefacts" = none := by
        rw [present?]
        cases hget' : Entries.get? "artefacts" parts with
        | none => rfl
        | some w =>
          obtain rfl := hfirst w (by simp [Document.at?, Document.below?, hget'])
          rfl
      rw [hnone, hpresent]
      rfl
  obtain ⟨_, ⟨⟩, hall⟩ := h.2 _ hfound
  exact (hall m (List.mem_of_getElem? hitem)).1

/-- What is read as a record in an accepted document decodes as one. -/
theorem form_of_isReadAt {t : Topology} (ht : ofDocument naming d = .ok t)
    (hread : IsReadAt d r path) (hm : d.at? path = some m) : r.schema.decode.form m := by
  have hdraft := (ofDocument_eq_ok_iff_draft.1 ht).1
  have hform := (exists_draft_iff fun _ => True).1 ⟨t, hdraft, fun _ _ => trivial⟩
  cases hread with
  | topic i j =>
    obtain ⟨v, entries, context, -, hrest, hget, _, ⟨⟩, name, -, -, -, -, -, -, -, topics, htopics,
      hlist⟩ := exists_projectForm hform hm
    have hmay : MayHave entries "topics" (.list _) := fun d hd => by
      obtain rfl := Option.some.inj (htopics.symm.trans hd)
      exact hlist
    have htopic := hmay.item hget (by rwa [← Document.at?_singleton])
    show WrittenTopic.schema.decode.form m
    rw [WrittenTopic.form_schema]
    exact htopic.1.1
  | producer i j =>
    obtain ⟨v, entries, context, -, hrest, hget, _, ⟨⟩, name, -, -, hproducers, -⟩ :=
      exists_projectForm hform hm
    show Producer.schema.decode.form m
    rw [Producer.form_schema]
    exact hproducers.item hget (by rwa [← Document.at?_singleton])
  | streamApp i j =>
    obtain ⟨v, entries, context, -, hrest, hget, _, ⟨⟩, name, -, -, -, hstreams, -⟩ :=
      exists_projectForm hform hm
    show StreamApp.schema.decode.form m
    rw [StreamApp.form_schema]
    exact hstreams.item hget (by rwa [← Document.at?_singleton])
  | artefact i j =>
    obtain ⟨v, entries, context, -, hrest, hget, _, ⟨⟩, name, -, -, -, -, hconnectors, -⟩ :=
      exists_projectForm hform hm
    show WrittenArtefact.schema.decode.form m
    rw [WrittenArtefact.form_schema]
    refine form_of_artefacts (hconnectors.of_get? hget ?_) (.inl rfl) hrest
    cases v <;> first | rfl | cases hrest
  | artifact i j hfirst =>
    obtain ⟨v, entries, context, hv, hrest, hget, _, ⟨⟩, name, -, -, -, -, hconnectors, -⟩ :=
      exists_projectForm hform hm
    show WrittenArtefact.schema.decode.form m
    rw [WrittenArtefact.form_schema]
    refine form_of_artefacts (hconnectors.of_get? hget ?_) (.inr ⟨rfl, fun w hw => ?_⟩) hrest
    · cases v <;> first | rfl | cases hrest
    · exact hfirst w (Document.mem_at?_append hv hw)
  | controlCenterInstance hstep j =>
    obtain ⟨root, rfl, -, context, -, -, hplatform, -⟩ := hform
    obtain ⟨platform, hp, hbelow⟩ := Option.bind_eq_some_iff.1 hm
    obtain ⟨control, hc, hrest⟩ := Option.bind_eq_some_iff.1 hbelow
    obtain ⟨entries, rfl, hget⟩ := Document.below?_key_eq_some_iff.1 hc
    obtain ⟨-, -, -, hcontrol⟩ := hplatform _ hp entries rfl
    show ControlCenterInstance.schema.decode.form m
    rw [ControlCenterInstance.form_schema]
    refine form_of_instances (hcontrol.of_get? hget ?_) hstep hrest
    rcases hstep with rfl | rfl <;> cases control <;> first | rfl | cases hrest

/-- **Either spelling will do, but not both.** Where a document is read as a record with a field of
two spellings, or as connectors,

* one spelling of the field may be put in the place of the other one;
* so may one of the two keys of the artefacts, if the other one is absent;
* connectors that are no mapping may be put in a mapping, as its members;

and the document is read as the same topology, or fails with the same error. A document is refused
if a record in it has its field in both spellings. -/
theorem either_spelling (naming : Naming) (d : Document) :
    (∀ r path, IsReadAt d r path → ∀ key key', AreSpellings r.spellings key key' →
      ofDocument naming (d.changeAt (Document.respell key key') path) = ofDocument naming d ∧
      ∀ entries : Entries, d.at? path = some (.mapping entries) →
        key ∈ entries.keys → key' ∈ entries.keys → (ofDocument naming d).isOk = false) ∧
    (∀ i, ∀ parts : Entries, d.at? (sectionPath i "connectors") = some (.mapping parts) →
      ∀ key key', AreSpellings ("artefacts", "artifacts") key key' → key' ∉ parts.keys →
        ofDocument naming (d.changeAt (Document.respell key key') (sectionPath i "connectors")) =
          ofDocument naming d) ∧
    ∀ i v, d.at? (sectionPath i "connectors") = some v → v ≠ .null →
      (∀ parts, v ≠ .mapping parts) →
        ofDocument naming (d.changeAt (fun v => .mapping [("access_control", v)])
          (sectionPath i "connectors")) = ofDocument naming d := by
  refine ⟨fun r path hread key key' hpair => ⟨?_, fun entries hat hkey hkey' => ?_⟩,
    fun i parts hat key key' hpair habsent => ?_, fun i v hat hnull hmapping => ?_⟩
  · exact ofDocument_changeAt hread fun m _ => Schema.decode_respell (r.isNamed_eq hpair) .strict m
  · obtain ⟨hne, f, hf, hf'⟩ := Spelled.exists_find? hpair
    have hbad := Schema.not_form_of_find? hne hf hf' hkey hkey'
    cases ht : ofDocument naming d with
    | error e => rfl
    | ok t => exact absurd (form_of_isReadAt ht hread hat) hbad
  · have hkeys : key ∈ artefactKeys ∧ key' ∈ artefactKeys ∧ key ≠ key' := by
      rcases hpair with h | h <;> cases h <;> decide
    obtain ⟨hkey, hkey', hne⟩ := hkeys
    refine ofDocument_changeAt_section (by decide) fun v hv => alikeUnder_connectors fun _ => ?_
    obtain rfl := Option.some.inj (hat.symm.trans hv)
    exact readConnectors_respell hkey hkey' hne habsent
  · refine ofDocument_changeAt_section (by decide) fun w hw => alikeUnder_connectors fun _ => ?_
    obtain rfl := Option.some.inj (hat.symm.trans hw)
    exact readConnectors_members hnull hmapping

end

/-! ## A document in either spelling -/

namespace Bilingual

def naming : Naming := ⟨.ofList ["main"], "."⟩

/-- An artefact on the server there is. -/
def sink : Document :=
  .mapping [("path", .text "sink.json"), ("server_label", .text "main"), ("name", .text "sink")]

/-- A document with one producer and connectors. -/
def document (transactions : Entries) (connectors : Document) : Document := .mapping [
  ("context", .text "prod"),
  ("projects", .list [.mapping [
    ("name", .text "pay"),
    ("producers", .list [.mapping (("principal", .text "User:ann") :: transactions)]),
    ("connectors", connectors),
    ("topics", .list [])]])]

end Bilingual

open Bilingual in
/-- The document is accepted in either spelling, and refused in both. -/
theorem either_spelling_bilingual :
    ofDocument naming (document [("transactionId", .text "t")] (.list [])) =
        ofDocument naming (document [("transaction_id", .text "t")] (.list [])) ∧
      (ofDocument naming (document [("transaction_id", .text "t")] (.list []))).isOk = true ∧
      (ofDocument naming (document [("transaction_id", .text "t"), ("transactionId", .null)]
        (.list []))).isOk = false ∧
      ofDocument naming (document [] (.mapping [("artefacts", .list [sink])])) =
        ofDocument naming (document [] (.mapping [("artifacts", .list [sink])])) ∧
      ofDocument naming (document [] (.mapping [("access_control", .list [])])) =
        ofDocument naming (document [] (.list [])) := by
  have hpair : AreSpellings Spelled.producer.spellings "transaction_id" "transactionId" := .inr rfl
  have hartefacts : AreSpellings ("artefacts", "artifacts") "artifacts" "artefacts" := .inr rfl
  have hfield : document [("transactionId", .text "t")] (.list []) =
      (document [("transaction_id", .text "t")] (.list [])).changeAt
        (Document.respell "transaction_id" "transactionId")
        (sectionPath 0 "producers" ++ [.item 0]) := rfl
  have hsection : document [] (.mapping [("artefacts", .list [sink])]) =
      (document [] (.mapping [("artifacts", .list [sink])])).changeAt
        (Document.respell "artifacts" "artefacts") (sectionPath 0 "connectors") := rfl
  have hmapping : document [] (.mapping [("access_control", .list [])]) =
      (document [] (.list [])).changeAt (fun v => .mapping [("access_control", v)])
        (sectionPath 0 "connectors") := rfl
  obtain ⟨hid, -, -⟩ := either_spelling naming (document [("transaction_id", .text "t")] (.list []))
  obtain ⟨hboth, -, -⟩ := either_spelling naming
    (document [("transaction_id", .text "t"), ("transactionId", .null)] (.list []))
  obtain ⟨-, hkey, -⟩ := either_spelling naming
    (document [] (.mapping [("artifacts", .list [sink])]))
  obtain ⟨-, -, hlist⟩ := either_spelling naming (document [] (.list []))
  rw [hfield, hsection, hmapping]
  exact ⟨(hid .producer _ (.producer 0 0) _ _ hpair).1, rfl,
    (hboth .producer _ (.producer 0 0) _ _ hpair).2 _ rfl (by decide) (by decide),
    hkey 0 _ rfl _ _ hartefacts (by decide), hlist 0 _ rfl nofun nofun⟩

end KafkaTopology.Topology
