/-!
# YAML tags

A tag is a sequence of octets, because its escapes may spell octets that are no text. An own tag of
a document begins with an exclamation mark; others name one of the kinds of YAML values.
-/
namespace KafkaTopology.Document.Yaml

/-- The octets of a tag or of a part of one. -/
abbrev Tag := List UInt8

namespace Tag

def ofString (s : String) : Tag := s.toUTF8.toList

def text? (t : Tag) : Option String := String.fromUTF8? ⟨t.toArray⟩

def ofKind (kind : String) : Tag := ofString ("tag:yaml.org,2002:" ++ kind)

/-- Whether a tag is one of the document's own. -/
def isOwn (t : Tag) : Bool := (ofString "!").isPrefixOf t

/-- Whether a value may carry a tag: no own one that spells a text. -/
def isAdmitted (t : Tag) : Bool := !isOwn t || (text? t).isNone

end Tag
end KafkaTopology.Document.Yaml
