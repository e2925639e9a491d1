import KafkaTopology.Proofs.Topology.Reading
/-!
# The errors of the parts

Each part of a document is refused with an error about itself (`TopologyError.IsOfPart`). Only the
root can lack keys, which is found first (`draft_eq_error`), and the full names of the topics are
checked once all projects have been read. So the errors of these two checks tell how far the reader
came. There is one lemma for each reader, and `Except.FailsAs` is closed under the ways of putting
readers together.
-/
namespace KafkaTopology

/-- Whether an error is about one part of a document: neither about the keys that have to be there
nor about the full names of the topics. -/
def TopologyError.IsOfPart : TopologyError → Prop
  | .missingKeys _ => False
  | .illegalTopicName _ => False
  | _ => True

namespace Topology

open Except (FailsAs failsAs_ok failsAs_error bind_eq_error_iff)
open TopologyError (IsOfPart)

variable {naming : Naming}

/-! ## Sections -/

section
variable {α : Type}

theorem failsAs_refuse (part : Section) (fault : SectionFault) :
    FailsAs IsOfPart (refuse part fault : Checked α) :=
  failsAs_error trivial

theorem failsAs_decodeIn (part : Section) (decode : Decoder α) (d : Document) :
    FailsAs IsOfPart (decodeIn part decode d) := by
  rw [decodeIn]
  cases decode .strict d with
  | ok a => exact failsAs_ok a
  | error e => exact failsAs_refuse part _

theorem failsAs_readContext (root : Entries) : FailsAs IsOfPart (readContext root) := by
  rw [readContext]
  split
  · split
    · exact failsAs_refuse _ _
    · exact failsAs_ok _
  · exact failsAs_refuse _ _

theorem failsAs_readComponent (platform : Entries) (c : Component) (decode : Decoder α) :
    FailsAs IsOfPart (readComponent platform c decode) := by
  rw [readComponent]
  split
  · exact failsAs_ok none
  · exact (failsAs_decodeIn _ _ _).bind fun _ => failsAs_ok _

theorem failsAs_readMembers (project : String) (entries : Entries) (role : Role)
    (decode : Decoder α) : FailsAs IsOfPart (readMembers project entries role decode) := by
  rw [readMembers]
  split
  · exact failsAs_ok none
  · exact (failsAs_decodeIn _ _ _).bind fun _ => failsAs_ok _

end

theorem failsAs_readPlatform (d : Option Document) : FailsAs IsOfPart (readPlatform d) := by
  rw [readPlatform.eq_def]
  split
  · exact (failsAs_readComponent _ _ _).bind fun _ => (failsAs_readComponent _ _ _).bind fun _ =>
      (failsAs_readComponent _ _ _).bind fun _ => (failsAs_readComponent _ _ _).bind fun _ =>
      failsAs_ok _
  · exact failsAs_ok _

/-! ## Projects -/

theorem failsAs_checkArtefact (w : WrittenArtefact) :
    FailsAs IsOfPart (checkArtefact naming w) := by
  rw [checkArtefact]
  split
  · split
    · exact failsAs_ok _
    · exact failsAs_error trivial
  · exact failsAs_error trivial

theorem failsAs_readArtefacts (project : String) (d : Document) :
    FailsAs IsOfPart (readArtefacts naming project d) :=
  (failsAs_decodeIn _ _ _).bind (FailsAs.mapM failsAs_checkArtefact)

theorem failsAs_readConnectors (project : String) (entries : Entries) :
    FailsAs IsOfPart (readConnectors naming project entries) := by
  rw [readConnectors]
  split
  · exact failsAs_ok none
  · next entries _ =>
    rcases present? entries "access_control" with - | access <;>
      rcases artefactKeys.findSome? (present? entries) with - | artefacts
    · exact failsAs_ok _
    · exact (failsAs_readArtefacts _ _).bind fun _ => failsAs_ok _
    · exact (failsAs_decodeIn _ _ _).bind fun _ => failsAs_ok _
    · exact (failsAs_decodeIn _ _ _).bind fun _ => (failsAs_readArtefacts _ _).bind fun _ =>
        failsAs_ok _
  · exact (failsAs_decodeIn _ _ _).bind fun _ => failsAs_ok _

theorem failsAs_rbacMappings (project : String) (d : Option Document) :
    FailsAs IsOfPart (rbacMappings project d) := by
  rw [rbacMappings.eq_def]
  split
  · exact failsAs_ok []
  · exact failsAs_ok []
  · exact failsAs_ok _
  · refine FailsAs.mapM (fun d => ?_) _
    split
    · exact failsAs_ok _
    · exact failsAs_refuse _ _
  · exact failsAs_refuse _ _

theorem failsAs_readPrincipal (project role : String) (d : Document) :
    FailsAs IsOfPart (readPrincipal project role d) := by
  rw [readPrincipal]
  split
  · exact failsAs_ok _
  · exact failsAs_error trivial

theorem failsAs_addRole (project : String) (rbac : OrderedMap String (List String))
    (e : String × Document) : FailsAs IsOfPart (addRole project rbac e) := by
  rw [addRole]
  split
  · exact (FailsAs.mapM (failsAs_readPrincipal _ _) _).bind fun _ => failsAs_ok _
  · exact failsAs_refuse _ _

theorem failsAs_readRbac (project : String) (d : Option Document) :
    FailsAs IsOfPart (readRbac project d) :=
  (failsAs_rbacMappings _ _).bind fun _ => FailsAs.foldlM (failsAs_addRole _) _ _

theorem failsAs_readSetting (project topic : String) (e : String × Document) :
    FailsAs IsOfPart (readSetting project topic e) := by
  rw [readSetting]
  split
  · exact failsAs_ok _
  · exact failsAs_refuse _ _

theorem failsAs_checkTopic (separator project qualifiedName : String) (w : WrittenTopic) :
    FailsAs IsOfPart (checkTopic separator project qualifiedName w) := by
  rw [checkTopic]
  split
  · exact failsAs_error trivial
  · exact (FailsAs.mapM (failsAs_readSetting _ _) _).bind fun _ => failsAs_ok _

theorem failsAs_readTopics (separator project qualifiedName : String) (entries : Entries) :
    FailsAs IsOfPart (readTopics separator project qualifiedName entries) := by
  rw [readTopics]
  split
  · exact failsAs_error trivial
  · exact (failsAs_decodeIn _ _ _).bind (FailsAs.mapM (failsAs_checkTopic _ _ _))

theorem failsAs_readProject (fullContext : String) (order : List String) (d : Document) :
    FailsAs IsOfPart (readProject naming fullContext order d) := by
  rw [readProject.eq_def]
  split
  · next entries =>
    cases (Entries.get? "name" entries).bind Document.scalarText? with
    | none => exact failsAs_error trivial
    | some name =>
      exact (failsAs_readMembers _ _ _ _).bind fun _ => (failsAs_readMembers _ _ _ _).bind fun _ =>
        (failsAs_readMembers _ _ _ _).bind fun _ => (failsAs_readConnectors _ _).bind fun _ =>
        (failsAs_readMembers _ _ _ _).bind fun _ => (failsAs_readRbac _ _).bind fun _ =>
        (failsAs_readTopics _ _ _ _).bind fun _ => failsAs_ok _
  · exact failsAs_refuse _ _

theorem failsAs_readProjects (fullContext : String) (order : List String) (root : Entries) :
    FailsAs IsOfPart (readProjects naming fullContext order root) := by
  rw [readProjects]
  split
  · exact FailsAs.mapM (failsAs_readProject _ _) _
  · exact failsAs_refuse _ _

/-! ## The whole document -/

/-- Without regard to the names of the topics, a document is refused for one of its parts or for the
keys that its root lacks. -/
theorem draft_eq_error {d : Document} {e : TopologyError} (h : draft naming d = .error e) :
    e.IsOfPart ∨ ∃ root, d = .mapping root ∧ checkRequiredKeys root = .error e := by
  cases d with
  | mapping root =>
    rcases bind_eq_error_iff.1 h with hkeys | ⟨_, -, hparts⟩
    · exact .inr ⟨root, rfl, hkeys⟩
    · refine .inl (FailsAs.bind (failsAs_readContext root) (fun _ => ?_) e hparts)
      exact (failsAs_readPlatform _).bind fun _ => (failsAs_readProjects _ _ root).bind fun _ =>
        failsAs_ok _
  | _ => exact .inl (failsAs_refuse .root .rootIsNoMapping e h)

end Topology
end KafkaTopology
