/-!
# Counted nouns
-/
namespace KafkaTopology

/-- A number with its noun, which takes an `s` unless the number is one. -/
def countNoun (n : Nat) (noun : String) : String :=
  toString n ++ " " ++ noun ++ (if n = 1 then "" else "s")

end KafkaTopology
