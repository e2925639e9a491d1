import KafkaTopology.Proofs.State.Items
/-!
# The last writer wins

Folding effects over a state leaves no trace of their order but this: about an entry the last effect
that names it decides. An account has more to it than its principal. The description that it had
stays as long as no effect clears it, and a cleared one comes back as the first that is listed
afterwards (`State.find?_accounts_applyAll`).

* `State.last_writer_wins` — what is on record after any effects, and with which descriptions.
-/
namespace KafkaTopology

namespace Effect

/-- The accounts that an effect lists for creation, in order. -/
def listed : Effect → List Account
  | .createAccounts accounts => accounts
  | _ => []

/-- The effects after the last one that clears the account of a principal, or all of them if none
does. -/
def sinceCleared (p : String) (es : List Effect) : List Effect :=
  (es.reverse.takeWhile fun e => .account p ∉ e.deleted).reverse

/-- The first account of a principal that effects list for creation. -/
def firstListed? (p : String) (es : List Effect) : Option Account :=
  (es.flatMap listed).find? (·.principal == p)

theorem sinceCleared_concat (p : String) (es : List Effect) (e : Effect) :
    sinceCleared p (es ++ [e]) =
      if .account p ∈ e.deleted then [] else sinceCleared p es ++ [e] := by
  rw [sinceCleared, sinceCleared, List.reverse_concat, List.takeWhile_cons]
  by_cases hcleared : Item.account p ∈ e.deleted <;> simp [hcleared]

theorem firstListed?_concat (p : String) (es : List Effect) (e : Effect) :
    firstListed? p (es ++ [e]) = (firstListed? p es).or (e.listed.find? (·.principal == p)) := by
  rw [firstListed?, List.flatMap_append, List.find?_append, List.flatMap_singleton]
  rfl

end Effect

namespace State

/-- Whether a state has an account of a principal that none of the effects clears. -/
def Keeps (s : State) (p : String) (es : List Effect) : Prop :=
  s.Holds (.account p) ∧ ∀ e ∈ es, .account p ∉ e.deleted

/-- What an effect makes of the account of a principal. -/
theorem find?_accounts_apply (s : State) (e : Effect) (p : String) :
    (s.apply e).accounts.find? (.ofPrincipal p) =
      if .account p ∈ e.deleted then none
      else (s.accounts.find? (.ofPrincipal p)).or (e.listed.find? (·.principal == p)) := by
  have hsame (a : Account) : (compare (Account.ofPrincipal p) a == .eq) = (a.principal == p) := by
    rw [Bool.eq_iff_iff, beq_iff_eq, beq_iff_eq, Account.compare_eq_iff, eq_comm]
    rfl
  cases e with
  | createAccounts accounts =>
    refine (s.accounts.find?_insertAll accounts _).trans ?_
    simp [hsame, Effect.deleted, Effect.listed]
  | clearAccounts accounts =>
    refine (s.accounts.find?_eraseAll accounts _).trans ?_
    simp [hsame, Effect.deleted, Effect.listed]
  | _ =>
    show s.accounts.find? _ = _
    simp [Effect.deleted, Effect.listed]

/-- What effects make of the account of a principal: it stays if none of them clears it, and
otherwise what is listed since then counts. -/
theorem find?_accounts_applyAll (s : State) (es : List Effect) (p : String) :
    (s.applyAll es).accounts.find? (.ofPrincipal p) =
      (if ∃ e ∈ es, .account p ∈ e.deleted then none else s.accounts.find? (.ofPrincipal p)).or
        (Effect.firstListed? p (Effect.sinceCleared p es)) := by
  induction es using List.reverseRecOn with
  | nil => simp [applyAll, Effect.sinceCleared, Effect.firstListed?]
  | append_singleton es e ih =>
    rw [applyAll_append, Effect.sinceCleared_concat]
    show ((s.applyAll es).apply e).accounts.find? _ = _
    rw [find?_accounts_apply, ih]
    by_cases hcleared : Item.account p ∈ e.deleted
    · have hsome : ∃ f ∈ es ++ [e], Item.account p ∈ f.deleted :=
        ⟨e, List.mem_append_right es List.mem_cons_self, hcleared⟩
      rw [if_pos hcleared, if_pos hcleared, if_pos hsome]
      rfl
    · have hsame : (∃ f ∈ es ++ [e], Item.account p ∈ f.deleted) ↔
          ∃ f ∈ es, Item.account p ∈ f.deleted := by
        simp [or_and_right, exists_or, hcleared]
      simp only [if_neg hcleared, hsame, Effect.firstListed?_concat, Option.or_assoc]

/-- The accounts after effects, with their descriptions. -/
theorem mem_accounts_applyAll_iff (s : State) (es : List Effect) (a : Account) :
    a ∈ (s.applyAll es).accounts ↔
      s.Keeps a.principal es ∧ a ∈ s.accounts ∨
        ¬s.Keeps a.principal es ∧
          Effect.firstListed? a.principal (Effect.sinceCleared a.principal es) = some a := by
  rw [Account.mem_iff_find?, Account.mem_iff_find?, find?_accounts_applyAll]
  by_cases hcleared : ∃ e ∈ es, Item.account a.principal ∈ e.deleted
  · obtain ⟨e, he, hdeleted⟩ := hcleared
    have hgone : ¬s.Keeps a.principal es := fun hkeeps => hkeeps.2 e he hdeleted
    rw [if_pos ⟨e, he, hdeleted⟩]
    simp [hgone]
  · have hkept : ∀ e ∈ es, Item.account a.principal ∉ e.deleted := fun e he hdeleted =>
      hcleared ⟨e, he, hdeleted⟩
    have hkeeps : s.Keeps a.principal es ↔
        (s.accounts.find? (.ofPrincipal a.principal)).isSome = true :=
      (and_iff_left hkept).trans Account.isSome_find?_iff.symm
    rw [if_neg hcleared, hkeeps]
    cases s.accounts.find? (.ofPrincipal a.principal) <;> simp

/-- **The last writer wins.** After any effects a state has an entry if and only if the last effect
that names it creates it, or none names it and it was there before. An account that was there and
that no effect clears stays as it was; any other is the first of its principal that is listed after
the last effect that clears it. So to fold the same effects once more changes nothing. -/
theorem last_writer_wins (s : State) (es : List Effect) :
    (∀ i, (s.applyAll es).Holds i ↔
      (∃ e, Effect.lastNaming? i es = some e ∧ e.direction = .create) ∨
        Effect.lastNaming? i es = none ∧ s.Holds i) ∧
    (∀ a, a ∈ (s.applyAll es).accounts ↔
      s.Keeps a.principal es ∧ a ∈ s.accounts ∨
        ¬s.Keeps a.principal es ∧
          Effect.firstListed? a.principal (Effect.sinceCleared a.principal es) = some a) ∧
    (s.applyAll es).applyAll es = s.applyAll es :=
  ⟨holds_applyAll_iff s es, mem_accounts_applyAll_iff s es, applyAll_applyAll s es⟩

/-- A cleared account comes back with the first description that is listed afterwards. -/
example :
    ((State.ofLists [] [⟨"User:app", some "old"⟩] [] []).applyAll
      [.createAccounts [⟨"User:app", some "ignored"⟩],
        .clearAccounts [⟨"User:app", none⟩],
        .createAccounts [⟨"User:app", some "first"⟩, ⟨"User:app", some "second"⟩]]).accounts.toList =
      [⟨"User:app", some "first"⟩] := by decide

end State
end KafkaTopology
