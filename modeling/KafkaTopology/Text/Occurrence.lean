/-!
# Occurrences of texts in texts
-/
namespace KafkaTopology.Text

/-- Whether characters occur one after the other among others. -/
def occursAmong (needle : List Char) : List Char → Bool
  | [] => needle.isEmpty
  | c :: cs => needle.isPrefixOf (c :: cs) || occursAmong needle cs

def occursIn (needle s : String) : Bool := occursAmong needle.toList s.toList

end KafkaTopology.Text
