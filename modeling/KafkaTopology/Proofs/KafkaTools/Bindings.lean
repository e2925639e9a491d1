import KafkaTopology.Proofs.Bindings
import KafkaTopology.Proofs.Topology.Entitlement
/-!
# Commands for bindings

A binding is added and removed by commands whose arguments agree behind those for the connection,
but for what says which of the two is meant. The texts of a binding stand at places that do not
depend on them, so it makes no difference that one may look like a flag. Only the name of a cluster
is not passed, and there is one name for it in everything that a topology asks for.

* `KafkaTools.commands_identify_bindings` — what the commands for bindings have in common, and what
  tells them apart.
-/
namespace KafkaTopology

namespace KafkaTools

/-- The arguments by which the tools connect. -/
def connection (k : KafkaTools) : List String := (k.command "kafka-acls" []).arguments

theorem arguments_command (k : KafkaTools) (arguments : List String) :
    (k.command "kafka-acls" arguments).arguments = k.connection ++ arguments := by
  simp only [connection, command, List.append_nil]

theorem arguments_addBinding (k : KafkaTools) (b : Acl.Binding) :
    (k.addBinding b).arguments = k.connection ++ "--add" :: bindingArguments b :=
  k.arguments_command _

theorem arguments_removeBinding (k : KafkaTools) (b : Acl.Binding) :
    (k.removeBinding b).arguments = k.connection ++ "--remove" :: "--force" :: bindingArguments b :=
  k.arguments_command _

theorem arguments_addBinding_inj (k : KafkaTools) {a b : Acl.Binding} (ha : a.Named)
    (hb : b.Named) : (k.addBinding a).arguments = (k.addBinding b).arguments ↔ a = b := by
  rw [arguments_addBinding, arguments_addBinding, List.append_cancel_left_eq, List.cons.injEq]
  exact ⟨fun h => bindingArguments_inj ha hb h.2, fun h => ⟨rfl, h ▸ rfl⟩⟩

theorem arguments_removeBinding_inj (k : KafkaTools) {a b : Acl.Binding} (ha : a.Named)
    (hb : b.Named) : (k.removeBinding a).arguments = (k.removeBinding b).arguments ↔ a = b := by
  rw [arguments_removeBinding, arguments_removeBinding, List.append_cancel_left_eq,
    List.cons.injEq, List.cons.injEq]
  exact ⟨fun h => bindingArguments_inj ha hb h.2.2, fun h => ⟨rfl, rfl, h ▸ rfl⟩⟩

/-- **Commands identify bindings.** Two bindings that use the one name for the cluster, as all
bindings of a topology do, are added by the same arguments only if they are the same, and removed by
the same arguments only if they are. No binding is added by the arguments that remove one. To remove
a binding is to pass the arguments that add it with `--remove --force` in the place of `--add`. -/
theorem commands_identify_bindings (k : KafkaTools) :
    (∀ a b : Acl.Binding, a.Named → b.Named →
      ((k.addBinding a).arguments = (k.addBinding b).arguments ↔ a = b) ∧
      ((k.removeBinding a).arguments = (k.removeBinding b).arguments ↔ a = b)) ∧
    (∀ a b : Acl.Binding, (k.addBinding a).arguments ≠ (k.removeBinding b).arguments) ∧
    (∃ start : List String, ∀ b : Acl.Binding, ∃ rest : List String,
      (k.addBinding b).arguments = start ++ ["--add"] ++ rest ∧
      (k.removeBinding b).arguments = start ++ ["--remove", "--force"] ++ rest) ∧
    ∀ t : Topology, ∀ b ∈ t.bindings, b.Named := by
  refine ⟨fun a b ha hb => ⟨k.arguments_addBinding_inj ha hb, k.arguments_removeBinding_inj ha hb⟩,
    fun a b h => ?_, ⟨k.connection, fun b => ⟨bindingArguments b, ?_, ?_⟩⟩, Topology.named_bindings⟩
  · rw [arguments_addBinding, arguments_removeBinding, List.append_cancel_left_eq,
      List.cons.injEq] at h
    exact absurd h.1 (by decide)
  · rw [arguments_addBinding, List.append_assoc, List.singleton_append]
  · rw [arguments_removeBinding, List.append_assoc]
    rfl

end KafkaTools

/-! ## Texts that look like flags -/

namespace Impostor

/-- A group whose texts are all spelled like flags. -/
def group : Acl.Binding := ⟨.group, "--cluster", .literal, "--allow-host", .read, "--operation"⟩

/-- The cluster, with the same texts but for the name. -/
def cluster : Acl.Binding := ⟨.cluster, clusterName, .literal, "--allow-host", .read, "--operation"⟩

def tools : KafkaTools := ⟨"--add", some "--remove", none, "STREAMFORM_SCRAM_PASSWORD"⟩

end Impostor

/-- The bindings differ, and so do their commands. A control center is granted something on the
cluster under its one name. -/
theorem KafkaTools.commands_identify_bindings_impostor :
    Impostor.group.Named ∧ Impostor.cluster.Named ∧
      (Impostor.tools.addBinding Impostor.group).arguments ≠
        (Impostor.tools.addBinding Impostor.cluster).arguments ∧
      (Impostor.tools.removeBinding Impostor.group).arguments ≠
        (Impostor.tools.removeBinding Impostor.cluster).arguments ∧
      ⟨.cluster, clusterName, .literal, "User:control", .describe, "*"⟩ ∈
        Registrar.topology.bindings ∧
      Acl.Binding.Named ⟨.cluster, clusterName, .literal, "User:control", .describe, "*"⟩ := by
  obtain ⟨hidentify, -, -, hnamed⟩ := commands_identify_bindings Impostor.tools
  have hgroup : Impostor.group.Named := nofun
  have hcluster : Impostor.cluster.Named := fun _ => rfl
  have hdiffer : Impostor.group ≠ Impostor.cluster := by decide
  obtain ⟨hadd, hremove⟩ := hidentify _ _ hgroup hcluster
  have hgranted : ⟨.cluster, clusterName, .literal, "User:control", .describe, "*"⟩ ∈
      Registrar.topology.bindings.toList := by decide +kernel
  exact ⟨hgroup, hcluster, fun h => hdiffer (hadd.1 h), fun h => hdiffer (hremove.1 h), hgranted,
    hnamed _ _ hgranted⟩

end KafkaTopology
