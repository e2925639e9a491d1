import KafkaTopology.Decode
/-!
# Members of a project (specification, section 3)

A member acts on behalf of a principal in one of five roles. Each kind of member has a schema,
which says how it is written in a document.
-/
namespace KafkaTopology

/-- The role that a list of members plays in a project. -/
inductive Role where
  | consumers
  | producers
  | streams
  | connectors
  | schemas
deriving DecidableEq, Repr, Inhabited

namespace Role

def key : Role → String
  | .consumers => "consumers"
  | .producers => "producers"
  | .streams => "streams"
  | .connectors => "connectors"
  | .schemas => "schemas"

def values : List Role := [.consumers, .producers, .streams, .connectors, .schemas]

end Role

/-- Reads topics of the project as part of a consumer group. -/
structure Consumer where
  principal : String
  group : Option String
deriving DecidableEq, Repr, Inhabited

/-- Writes topics of the project. -/
structure Producer where
  principal : String
  transactionId : Option String
  idempotence : Option Bool
deriving DecidableEq, Repr, Inhabited

/-- The topics that a member reads from and writes to. -/
structure TopicAccess where
  read : List String
  write : List String
deriving DecidableEq, Repr, Inhabited

/-- A stream application of the project. -/
structure StreamApp where
  principal : String
  applicationId : Option String
  topics : TopicAccess
deriving DecidableEq, Repr, Inhabited

/-- The principal of connectors of the project. -/
structure ConnectorMember where
  principal : String
  topics : TopicAccess
  connectors : List String
deriving DecidableEq, Repr, Inhabited

/-- A principal that works with schema subjects. -/
structure SchemaMember where
  principal : String
  subjects : List String
deriving DecidableEq, Repr, Inhabited

def optionalText : Decoder (Option String) := Decoder.option Decoder.text

def textList : Decoder (List String) := Decoder.list Decoder.text

def Consumer.schema : Schema Consumer where
  name := "Consumer"
  blank := ⟨"", none⟩
  fields := [
    .mandatory "principal" Decoder.text fun v m => { m with principal := v },
    .defaulted "group" [] optionalText fun v m => { m with group := v }]

def Producer.schema : Schema Producer where
  name := "Producer"
  blank := ⟨"", none, none⟩
  fields := [
    .mandatory "principal" Decoder.text fun v m => { m with principal := v },
    .defaulted "transactionId" ["transaction_id"] optionalText
      fun v m => { m with transactionId := v },
    .defaulted "idempotence" [] (Decoder.option Decoder.bool)
      fun v m => { m with idempotence := v }]

def TopicAccess.schema : Schema TopicAccess where
  name := "TopicAccess"
  blank := ⟨[], []⟩
  fields := [
    .defaulted "read" [] textList fun v a => { a with read := v },
    .defaulted "write" [] textList fun v a => { a with write := v }]

def StreamApp.schema : Schema StreamApp where
  name := "KStream"
  blank := ⟨"", none, ⟨[], []⟩⟩
  fields := [
    .mandatory "principal" Decoder.text fun v m => { m with principal := v },
    .defaulted "applicationId" ["application_id"] optionalText
      fun v m => { m with applicationId := v },
    .defaulted "topics" [] TopicAccess.schema.decode fun v m => { m with topics := v }]

def ConnectorMember.schema : Schema ConnectorMember where
  name := "Connector"
  blank := ⟨"", ⟨[], []⟩, []⟩
  fields := [
    .mandatory "principal" Decoder.text fun v m => { m with principal := v },
    .defaulted "topics" [] TopicAccess.schema.decode fun v m => { m with topics := v },
    .defaulted "connectors" [] textList fun v m => { m with connectors := v }]

def SchemaMember.schema : Schema SchemaMember where
  name := "Schemas"
  blank := ⟨"", []⟩
  fields := [
    .mandatory "principal" Decoder.text fun v m => { m with principal := v },
    .defaulted "subjects" [] textList fun v m => { m with subjects := v }]

end KafkaTopology
