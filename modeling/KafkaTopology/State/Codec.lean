import KafkaTopology.State
/-!
# Stored form of states

A state is stored as a mapping of its four lists. Each of them may be missing, unsorted or hold
repeated entries when it is read: of two accounts with one principal the first stays.
-/
namespace KafkaTopology.State

/-- Reads a list as an ordered set; of equal elements the first stays. -/
def decodeSet {α : Type} [Ord α] [Std.TransOrd α] (decode : Decoder α) : Decoder (OrderedSet α) :=
  fun rules d => do return OrderedSet.insertAll ∅ (← Decoder.list decode rules d)

def schema : Schema State where
  name := "ReconciledState"
  blank := empty
  fields := [
    .defaulted "bindings" [] (decodeSet Acl.Binding.schema.decode)
      fun v s => { s with bindings := v },
    .defaulted "service_accounts" [] (decodeSet Account.schema.decode)
      fun v s => { s with accounts := v },
    .defaulted "topics" [] (decodeSet Decoder.text) fun v s => { s with topics := v },
    .defaulted "artefacts" [] (decodeSet Artefact.schema.decode)
      fun v s => { s with artefacts := v }]

def toDocument (s : State) : Document :=
  .mapping [
    ("bindings", .list (s.bindings.toList.map Acl.Binding.toDocument)),
    ("service_accounts", .list (s.accounts.toList.map Account.toDocument)),
    ("topics", .list (s.topics.toList.map .text)),
    ("artefacts", .list (s.artefacts.toList.map Artefact.toDocument))]

end KafkaTopology.State
