import KafkaTopology.Decode
/-!
# Service accounts (specification, section 3)

A principal identity that is managed on the cluster. Accounts are the same account when their
principals are; the description says nothing about identity, so the order ignores it.
-/
namespace KafkaTopology

open Std

/-- A managed principal with an optional description. -/
structure Account where
  principal : String
  description : Option String
deriving DecidableEq, Repr, Inhabited

namespace Account

/-- Accounts are compared by principal alone. -/
instance : Ord Account := ⟨compareOn Account.principal⟩

instance : TransOrd Account := inferInstanceAs (TransCmp (compareOn Account.principal))

def ofPrincipal (principal : String) : Account := ⟨principal, none⟩

def schema : Schema Account where
  name := "ServiceAccount"
  blank := ⟨"", none⟩
  fields := [
    .mandatory "principal" Decoder.text fun v a => { a with principal := v },
    .defaulted "description" [] (Decoder.option Decoder.text)
      fun v a => { a with description := v }]

/-- The stored form; an absent description is left out. -/
def toDocument (a : Account) : Document :=
  .mapping <| ("principal", .text a.principal) ::
    (match a.description with
      | some s => [("description", .text s)]
      | none => [])

end Account
end KafkaTopology
