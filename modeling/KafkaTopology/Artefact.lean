import KafkaTopology.Decode
/-!
# Connector artefacts (specification, section 3)

A connector that is deployed to a Kafka Connect server, known by the alias of the server, its name
and the place of its definition. Artefacts are ordered by these three, in this order.
-/
namespace KafkaTopology

open Std

/-- A managed connector. -/
structure Artefact where
  server : String
  name : String
  path : String
deriving DecidableEq, Repr, Inhabited

namespace Artefact

/-- The order of artefacts, field by field. -/
def order : Artefact → Artefact → Ordering :=
  compareLex (compareOn Artefact.server) <|
  compareLex (compareOn Artefact.name) (compareOn Artefact.path)

instance : Ord Artefact := ⟨order⟩

instance : TransOrd Artefact := inferInstanceAs (TransCmp (compareLex _ _))

/-- The one line that shows an artefact to readers. -/
def shown (a : Artefact) : String := a.name ++ "@" ++ a.server ++ " (" ++ a.path ++ ")"

def schema : Schema Artefact where
  name := "Artefact"
  blank := ⟨"", "", ""⟩
  fields := [
    .mandatory "server_label" Decoder.text fun v a => { a with server := v },
    .mandatory "name" Decoder.text fun v a => { a with name := v },
    .mandatory "path" Decoder.text fun v a => { a with path := v }]

def toDocument (a : Artefact) : Document :=
  .mapping [
    ("server_label", .text a.server),
    ("name", .text a.name),
    ("path", .text a.path)]

end Artefact
end KafkaTopology
