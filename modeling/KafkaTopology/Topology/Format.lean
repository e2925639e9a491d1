import KafkaTopology.Topology.OfDocument
import KafkaTopology.Document.Json
import KafkaTopology.Document.Toml
import KafkaTopology.Document.Yaml
import KafkaTopology.Path
/-!
# Topologies of texts (specification, section 4.1)

The language of a topology file follows from its extension.
-/
namespace KafkaTopology

/-- The language that the extension of a path stands for. -/
def Format.ofPath? (path : String) : Option Format := do
  match (← Path.extension? path).toLower with
  | "yaml" => some .yaml
  | "yml" => some .yaml
  | "json" => some .json
  | "toml" => some .toml
  | _ => none

/-- The document that a text spells, as far as JSON could spell it too. -/
def Format.read? (format : Format) (text : String) : Option Document :=
  match format with
  | .json => Document.ofJson? text
  | .yaml => Document.ofYaml? text
  | .toml => (Document.ofToml? text).bind Document.interchange?

def Topology.ofText (naming : Naming) (format : Format) (text : String) : Checked Topology :=
  match format.read? text with
  | some d => ofDocument naming d
  | none => .error (.malformed format)

end KafkaTopology
