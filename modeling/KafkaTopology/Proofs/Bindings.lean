import KafkaTopology.ConnectServers
import KafkaTopology.Proofs.OrderedSet
import KafkaTopology.Proofs.Orders
/-!
# Bindings and their arguments

The arguments that describe a binding to the tools say all there is to it, except for the name of a
cluster (`KafkaTools.bindingArguments_inj`). All bindings that a topology asks for use one name for
the cluster (`Topology.named_bindings`), so among them nothing is lost.
-/
namespace KafkaTopology

/-! ## Arguments -/

theorem Acl.Operation.shown_injective : Function.Injective Acl.Operation.shown := by
  intro o p h
  revert h
  cases o <;> cases p <;> decide

theorem Acl.Resource.shown_injective : Function.Injective Acl.Resource.shown := by
  intro r s h
  revert h
  cases r <;> cases s <;> decide

theorem Acl.Pattern.word_injective : Function.Injective Acl.Pattern.word := by
  intro p q h
  revert h
  cases p <;> cases q <;> decide

/-- A binding on a cluster uses the one name for it. -/
def Acl.Binding.Named (b : Acl.Binding) : Prop := b.resource = .cluster → b.name = clusterName

namespace KafkaTools

theorem resourceArguments_inj {a b : Acl.Binding} (ha : a.Named) (hb : b.Named)
    (h : resourceArguments a = resourceArguments b) :
    a.resource = b.resource ∧ a.name = b.name := by
  have hother : ∀ c : Acl.Binding, c.resource ≠ .cluster →
      resourceArguments c = ["--" ++ c.resource.shown, c.name] := by
    intro c hc
    rw [resourceArguments]
    split
    · rename_i hcluster
      exact absurd hcluster hc
    · rfl
  have hcluster : ∀ c : Acl.Binding, c.resource = .cluster → resourceArguments c = ["--cluster"] :=
    fun c hc => by rw [resourceArguments, hc]
  by_cases hra : a.resource = .cluster <;> by_cases hrb : b.resource = .cluster
  · exact ⟨hra.trans hrb.symm, (ha hra).trans (hb hrb).symm⟩
  · rw [hcluster a hra, hother b hrb] at h
    simp at h
  · rw [hother a hra, hcluster b hrb] at h
    simp at h
  · rw [hother a hra, hother b hrb, List.cons.injEq, List.cons.injEq, String.append_right_inj] at h
    exact ⟨Acl.Resource.shown_injective h.1, h.2.1⟩

/-- The arguments of a binding determine it, up to the name of a cluster. -/
theorem bindingArguments_inj {a b : Acl.Binding} (ha : a.Named) (hb : b.Named)
    (h : bindingArguments a = bindingArguments b) : a = b := by
  simp only [bindingArguments, List.cons_append, List.nil_append, List.cons.injEq,
    true_and] at h
  obtain ⟨hprincipal, hhost, hoperation, hrest⟩ := h
  obtain ⟨hresource, hpattern⟩ := List.append_inj' hrest rfl
  obtain ⟨hresource, hname⟩ := resourceArguments_inj ha hb hresource
  have hpattern : a.pattern = b.pattern :=
    Acl.Pattern.word_injective (by simpa using hpattern)
  have hoperation : a.operation = b.operation := Acl.Operation.shown_injective hoperation
  cases a
  cases b
  simp_all

end KafkaTools

/-! ## Names of clusters -/

@[simp]
theorem Acl.Binding.named_literal {resource : Resource} {name principal : String}
    {operation : Operation} :
    (literal resource name principal operation).Named ↔
      (resource = .cluster → name = clusterName) := Iff.rfl

@[simp]
theorem Acl.Binding.named_startingWith {resource : Resource} {name principal : String}
    {operation : Operation} :
    (startingWith resource name principal operation).Named ↔
      (resource = .cluster → name = clusterName) := Iff.rfl

theorem Consumer.named_bindings (q : String) (m : Consumer) : ∀ b ∈ m.bindings q, b.Named := by
  simp [bindings]

theorem Producer.named_bindings (q : String) (m : Producer) : ∀ b ∈ m.bindings q, b.Named := by
  rw [bindings]
  cases m.transactionId <;> cases m.idempotence.getD false <;> simp

theorem TopicAccess.named_bindings (principal : String) (a : TopicAccess) :
    ∀ b ∈ a.bindings principal, b.Named := by
  simp [bindings, or_imp, forall_and]

theorem StreamApp.named_bindings (q : String) (m : StreamApp) : ∀ b ∈ m.bindings q, b.Named := by
  simpa [bindings, or_imp, forall_and] using m.topics.named_bindings m.principal

theorem ConnectorMember.named_bindings (m : ConnectorMember) : ∀ b ∈ m.bindings, b.Named := by
  simpa [bindings, or_imp, forall_and] using m.topics.named_bindings m.principal

theorem ConnectInstance.named_bindings (i : ConnectInstance) : ∀ b ∈ i.bindings, b.Named := by
  simp [bindings]

theorem RegistryInstance.named_bindings (i : RegistryInstance) : ∀ b ∈ i.bindings, b.Named := by
  simp [bindings]

theorem ControlCenterInstance.named_bindings (i : ControlCenterInstance) :
    ∀ b ∈ i.bindings, b.Named := by
  simp [bindings]

theorem Project.named_bindings (p : Project) : ∀ b ∈ p.bindings, b.Named := by
  intro b hb
  simp only [bindings, List.mem_append, List.mem_flatMap] at hb
  rcases hb with ((⟨m, -, hb⟩ | ⟨m, -, hb⟩) | ⟨m, -, hb⟩) | ⟨m, -, hb⟩
  · exact m.named_bindings _ b hb
  · exact m.named_bindings _ b hb
  · exact m.named_bindings _ b hb
  · exact m.named_bindings b hb

theorem Platform.named_bindings (p : Platform) : ∀ b ∈ p.bindings, b.Named := by
  intro b hb
  simp only [bindings, List.mem_append, List.mem_flatMap] at hb
  rcases hb with (⟨i, -, hb⟩ | ⟨i, -, hb⟩) | ⟨i, -, hb⟩
  · exact i.named_bindings b hb
  · exact i.named_bindings b hb
  · exact i.named_bindings b hb

/-- All bindings of a topology on the cluster use the same name for it. -/
theorem Topology.named_bindings (t : Topology) : ∀ b ∈ t.bindings, b.Named := by
  intro b hb
  rcases List.mem_append.1 (OrderedSet.mem_ofList.1 hb) with hb | hb
  · obtain ⟨p, -, hb⟩ := List.mem_flatMap.1 hb
    exact p.named_bindings b hb
  · exact t.platform.named_bindings b hb

end KafkaTopology
