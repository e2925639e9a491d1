import KafkaTopology.Decode
/-!
# Access-control bindings (specification, section 3)

A `Binding` grants a principal one operation on a resource from a host. Bindings are ordered field
by field in declaration order: resources, patterns and operations as they are listed here, texts
by their characters.
-/
namespace KafkaTopology.Acl

open Std

/-- The kind of resource that a binding applies to. -/
inductive Resource where
  | topic
  | group
  | cluster
  | transactionalId
deriving DecidableEq, Repr, Inhabited

/-- How the resource name of a binding is matched. -/
inductive Pattern where
  | literal
  | prefixed
deriving DecidableEq, Repr, Inhabited

/-- The operation that a binding grants. -/
inductive Operation where
  | all
  | read
  | write
  | create
  | delete
  | alter
  | describe
  | describeConfigs
  | alterConfigs
  | idempotentWrite
deriving DecidableEq, Repr, Inhabited

namespace Resource

def rank : Resource → Nat
  | .topic => 0
  | .group => 1
  | .cluster => 2
  | .transactionalId => 3

/-- The spelling in stored data. -/
def word : Resource → String
  | .topic => "topic"
  | .group => "group"
  | .cluster => "cluster"
  | .transactionalId => "transactional_id"

/-- The spelling for readers and for command lines. -/
def shown : Resource → String
  | .transactionalId => "transactional-id"
  | r => r.word

def values : List Resource := [.topic, .group, .cluster, .transactionalId]

/-- Reads the stored spelling. -/
def decode : Decoder Resource := Decoder.choice (values.map fun r => (r.word, r))

end Resource

namespace Pattern

def rank : Pattern → Nat
  | .literal => 0
  | .prefixed => 1

/-- The spelling everywhere. -/
def word : Pattern → String
  | .literal => "literal"
  | .prefixed => "prefixed"

def values : List Pattern := [.literal, .prefixed]

/-- Reads the spelling. -/
def decode : Decoder Pattern := Decoder.choice (values.map fun p => (p.word, p))

end Pattern

namespace Operation

def rank : Operation → Nat
  | .all => 0
  | .read => 1
  | .write => 2
  | .create => 3
  | .delete => 4
  | .alter => 5
  | .describe => 6
  | .describeConfigs => 7
  | .alterConfigs => 8
  | .idempotentWrite => 9

/-- The spelling in stored data. -/
def word : Operation → String
  | .all => "all"
  | .read => "read"
  | .write => "write"
  | .create => "create"
  | .delete => "delete"
  | .alter => "alter"
  | .describe => "describe"
  | .describeConfigs => "describe_configs"
  | .alterConfigs => "alter_configs"
  | .idempotentWrite => "idempotent_write"

/-- The spelling for readers and for command lines. -/
def shown : Operation → String
  | .all => "All"
  | .read => "Read"
  | .write => "Write"
  | .create => "Create"
  | .delete => "Delete"
  | .alter => "Alter"
  | .describe => "Describe"
  | .describeConfigs => "DescribeConfigs"
  | .alterConfigs => "AlterConfigs"
  | .idempotentWrite => "IdempotentWrite"

def values : List Operation :=
  [.all, .read, .write, .create, .delete, .alter, .describe, .describeConfigs, .alterConfigs,
    .idempotentWrite]

/-- Reads the stored spelling. -/
def decode : Decoder Operation := Decoder.choice (values.map fun o => (o.word, o))

end Operation

/-- A grant: `principal` may do `operation` on the resources that `name` matches, from `host`. -/
structure Binding where
  resource : Resource
  name : String
  pattern : Pattern
  principal : String
  operation : Operation
  host : String
deriving DecidableEq, Repr, Inhabited

namespace Binding

/-- The order of bindings, field by field. -/
def order : Binding → Binding → Ordering :=
  compareLex (compareOn fun b => b.resource.rank) <|
  compareLex (compareOn Binding.name) <|
  compareLex (compareOn fun b => b.pattern.rank) <|
  compareLex (compareOn Binding.principal) <|
  compareLex (compareOn fun b => b.operation.rank) (compareOn Binding.host)

instance : Ord Binding := ⟨order⟩

instance : TransOrd Binding := inferInstanceAs (TransCmp (compareLex _ _))

/-- A grant on exactly the named resource, from any host. -/
def literal (resource : Resource) (name principal : String) (operation : Operation) : Binding :=
  ⟨resource, name, .literal, principal, operation, "*"⟩

/-- A grant on every resource whose name begins with `name`, from any host. -/
def startingWith (resource : Resource) (name principal : String) (operation : Operation) :
    Binding :=
  ⟨resource, name, .prefixed, principal, operation, "*"⟩

/-- The one line that shows a binding to readers. -/
def shown (b : Binding) : String :=
  b.principal ++ " " ++ b.operation.shown ++ " on " ++ b.resource.shown ++ " '" ++ b.name ++
    "' (" ++ b.pattern.word ++ ") from " ++ b.host

def schema : Schema Binding where
  name := "Binding"
  blank := ⟨.topic, "", .literal, "", .all, ""⟩
  fields := [
    .mandatory "resource_type" Resource.decode fun v b => { b with resource := v },
    .mandatory "resource_name" Decoder.text fun v b => { b with name := v },
    .mandatory "pattern" Pattern.decode fun v b => { b with pattern := v },
    .mandatory "principal" Decoder.text fun v b => { b with principal := v },
    .mandatory "operation" Operation.decode fun v b => { b with operation := v },
    .mandatory "host" Decoder.text fun v b => { b with host := v }]

def toDocument (b : Binding) : Document :=
  .mapping [
    ("resource_type", .text b.resource.word),
    ("resource_name", .text b.name),
    ("pattern", .text b.pattern.word),
    ("principal", .text b.principal),
    ("operation", .text b.operation.word),
    ("host", .text b.host)]

end Binding
end KafkaTopology.Acl
