import KafkaTopology.Proofs.State.Encodings
import KafkaTopology.Proofs.Text.Octets
import Mathlib.Data.Prod.Lex
import Mathlib.Data.Set.Card
/-!
# The form of a state

Whatever has led to a state, it is written in one form. Its lists are in the documented order: the
fields of a record one after the other, of which texts come in the order of their octets and all
others as they are declared (`State.inOrder_listing`). And it holds what its history leaves
(`History.holds_iff`), each entry once.

* `State.canonical_form` — the form, its size, and when two histories lead to the same one.
-/
namespace KafkaTopology

/-! ## Orders by keys -/

/-- An order that compares keys. -/
structure OrdersBy {α κ : Type} [LT κ] (cmp : α → α → Ordering) (key : α → κ) : Prop where
  lt_iff : ∀ a b, cmp a b = .lt ↔ key a < key b
  eq_iff : ∀ a b, cmp a b = .eq ↔ key a = key b

namespace OrdersBy

variable {α κ κ' : Type} [LT κ] [LT κ'] {cmp cmp' : α → α → Ordering} {key : α → κ} {key' : α → κ'}

theorem text (f : α → String) : OrdersBy (compareOn f) fun a => Text.octets (f a) where
  lt_iff _ _ := Text.compare_eq_lt_iff
  eq_iff _ _ := Std.LawfulEqOrd.compare_eq_iff_eq.trans Text.octets_inj.symm

theorem position {f g : α → Nat} (h : ∀ a, f a = g a) : OrdersBy (compareOn f) g where
  lt_iff a b := by rw [← h, ← h]; exact Nat.compare_eq_lt
  eq_iff a b := by rw [← h, ← h]; exact Nat.compare_eq_eq

/-- Where the first keys are equal the second ones decide. -/
theorem lex (h : OrdersBy cmp key) (h' : OrdersBy cmp' key') :
    OrdersBy (compareLex cmp cmp') fun a => toLex (key a, key' a) where
  lt_iff a b := by
    rw [compareLex, Ordering.then_eq_lt, h.lt_iff, h.eq_iff, h'.lt_iff, Prod.Lex.toLex_lt_toLex]
  eq_iff a b := by
    rw [compareLex_eq_eq, h.eq_iff, h'.eq_iff, EmbeddingLike.apply_eq_iff_eq, Prod.mk.injEq]

theorem pairwise_map [Ord α] (h : OrdersBy compare key) {xs : List α} (hxs : Increasing xs) :
    (xs.map key).Pairwise (· < ·) :=
  List.pairwise_map.2 (hxs.imp fun {a b} hlt => (h.lt_iff a b).1 hlt)

end OrdersBy

open Text (octets)

namespace Acl

theorem Resource.rank_eq (r : Resource) : r.rank = Resource.values.idxOf r := by
  cases r <;> rfl

theorem Pattern.rank_eq (p : Pattern) : p.rank = Pattern.values.idxOf p := by
  cases p <;> rfl

theorem Operation.rank_eq (o : Operation) : o.rank = Operation.values.idxOf o := by
  cases o <;> rfl

/-- The fields of a binding as they are compared. -/
def Binding.sortKey (b : Binding) :
    Nat ×ₗ List UInt8 ×ₗ Nat ×ₗ List UInt8 ×ₗ Nat ×ₗ List UInt8 :=
  toLex (Resource.values.idxOf b.resource, toLex (octets b.name,
    toLex (Pattern.values.idxOf b.pattern, toLex (octets b.principal,
      toLex (Operation.values.idxOf b.operation, octets b.host)))))

theorem Binding.ordersBy_sortKey : OrdersBy compare Binding.sortKey :=
  .lex (.position fun b => b.resource.rank_eq) <|
  .lex (.text Binding.name) <|
  .lex (.position fun b => b.pattern.rank_eq) <|
  .lex (.text Binding.principal) <|
  .lex (.position fun b => b.operation.rank_eq) (.text Binding.host)

end Acl

/-- The fields of an artefact as they are compared. -/
def Artefact.sortKey (a : Artefact) : List UInt8 ×ₗ List UInt8 ×ₗ List UInt8 :=
  toLex (octets a.server, toLex (octets a.name, octets a.path))

theorem Artefact.ordersBy_sortKey : OrdersBy compare Artefact.sortKey :=
  .lex (.text Artefact.server) (.lex (.text Artefact.name) (.text Artefact.path))

/-- Whether lists are strictly increasing in the documented order. -/
structure Listing.InOrder (l : Listing) : Prop where
  bindings : (l.bindings.map Acl.Binding.sortKey).Pairwise (· < ·)
  accounts : (l.accounts.map fun a => octets a.principal).Pairwise (· < ·)
  topics : (l.topics.map octets).Pairwise (· < ·)
  artefacts : (l.artefacts.map Artefact.sortKey).Pairwise (· < ·)

/-- The lists that a TOML text holds. -/
def Listing.ofToml? (text : String) : Option Listing := do
  (schema.decode .lenient (← Document.ofToml? text)).toOption

namespace State

theorem inOrder_listing (s : State) : s.listing.InOrder where
  bindings := Acl.Binding.ordersBy_sortKey.pairwise_map s.bindings.increasing
  accounts := OrdersBy.pairwise_map (.text Account.principal) s.accounts.increasing
  topics := OrdersBy.pairwise_map (.text id) s.topics.increasing
  artefacts := Artefact.ordersBy_sortKey.pairwise_map s.artefacts.increasing

/-! ## Histories -/

/-- What a state is first made from. -/
inductive Source where
  /-- A document, by the rules of the format that it comes in. -/
  | stored (rules : DecodeRules) (d : Document)
  /-- Whole lists. -/
  | parts (lists : Listing)

/-- What may be done to a state. -/
inductive Operation where
  | addTopic (name : String)
  | removeTopics (names : List String)
  | addBindings (bindings : List Acl.Binding)
  | removeBindings (bindings : List Acl.Binding)
  | addAccounts (accounts : List Account)
  | removeAccounts (accounts : List Account)
  | addArtefact (artefact : Artefact)
  | removeArtefact (artefact : Artefact)
  | apply (effect : Effect)

/-- How a state came about. -/
structure History where
  source : Source
  operations : List Operation

namespace Source

/-- The lists that a state is made from. -/
def listing? : Source → Option Listing
  | stored rules d => (Listing.schema.decode rules d).toOption
  | parts lists => some lists

/-- The state that is made from them. -/
def state? : Source → Option State
  | stored rules d => (schema.decode rules d).toOption
  | parts lists => some (.ofLists lists.bindings lists.accounts lists.topics lists.artefacts)

/-- A state is made of what its source lists. -/
theorem holds_iff {source : Source} {s : State} (h : source.state? = some s) (i : Item) :
    s.Holds i ↔ ∃ l, source.listing? = some l ∧ i ∈ l.items := by
  cases source with
  | stored rules d =>
    rw [state?, Listing.decode_state] at h
    rw [listing?]
    cases hlists : Listing.schema.decode rules d with
    | error e =>
      rw [hlists] at h
      cases h
    | ok l =>
      rw [hlists] at h
      obtain rfl : l.keepFirst = s := Option.some.inj h
      simp [Except.toOption, l.holds_keepFirst_iff]
  | parts l =>
    obtain rfl : l.keepLast = s := Option.some.inj h
    simp [listing?, l.holds_keepLast_iff]

end Source

namespace Operation

/-- What an operation makes of a state. -/
def run : Operation → State → State
  | addTopic name, s => s.addTopic name
  | removeTopics names, s => s.removeTopics names
  | addBindings bs, s => s.addBindings bs
  | removeBindings bs, s => s.removeBindings bs
  | addAccounts accounts, s => s.addAccounts accounts
  | removeAccounts accounts, s => s.removeAccounts accounts
  | addArtefact a, s => s.addArtefact a
  | removeArtefact a, s => s.removeArtefact a
  | apply e, s => s.apply e

/-- The effect that does the same. -/
def effect : Operation → Effect
  | addTopic name => .createTopic name
  | removeTopics names => .deleteTopics names
  | addBindings bs => .createBindings bs
  | removeBindings bs => .clearBindings bs
  | addAccounts accounts => .createAccounts accounts
  | removeAccounts accounts => .clearAccounts accounts
  | addArtefact a => .createArtefact a
  | removeArtefact a => .deleteArtefact a
  | apply e => e

theorem run_eq (o : Operation) (s : State) : o.run s = s.apply o.effect := by
  cases o <;> rfl

theorem foldl_run (s : State) (os : List Operation) :
    os.foldl (fun s o => o.run s) s = s.applyAll (os.map effect) := by
  simp only [run_eq, applyAll, List.foldl_map]

end Operation

namespace History

/-- The state that a history leads to, if its source is accepted. -/
def state? (h : History) : Option State :=
  h.source.state?.map fun s => h.operations.foldl (fun s o => o.run s) s

/-- Whether a history leaves an entry: the last operation that names it adds it, or none names it
and the source lists it. -/
def Leaves (h : History) (i : Item) : Prop :=
  match Effect.lastNaming? i (h.operations.map Operation.effect) with
  | some e => e.direction = .create
  | none => ∃ l, h.source.listing? = some l ∧ i ∈ l.items

/-- A state holds what its history leaves. -/
theorem holds_iff {h : History} {s : State} (hs : h.state? = some s) (i : Item) :
    s.Holds i ↔ h.Leaves i := by
  obtain ⟨start, hstart, rfl⟩ := Option.map_eq_some_iff.1 hs
  rw [Operation.foldl_run, holds_applyAll_iff, Leaves, Source.holds_iff hstart]
  cases Effect.lastNaming? i (h.operations.map Operation.effect) <;> simp

end History

/-! ## States as sets of entries -/

/-- Whether two states describe the accounts that both have alike. -/
def DescribesLike (s t : State) : Prop :=
  ∀ a ∈ s.accounts, ∀ b ∈ t.accounts, a.principal = b.principal → a.description = b.description

/-- The one form in which a state has some entries. -/
structure Represents (s : State) (members : Item → Prop) : Prop where
  /-- Its lists are strictly increasing in the documented order. -/
  inOrder : s.listing.InOrder
  /-- No two accounts share a principal. -/
  principals : (s.listing.accounts.map Account.principal).Nodup
  /-- The lists are the entries. -/
  listed : ∀ i, i ∈ s.listing.items ↔ members i
  /-- They are written as they are. -/
  written : ∀ rules, Listing.schema.decode rules s.toDocument = .ok s.listing
  /-- In TOML, too. -/
  writtenToml : Listing.ofToml? s.toDocument.toToml = some s.listing
  /-- The size is the number of different entries. -/
  size : {i | members i}.encard = s.size
  /-- Only a state without entries is empty. -/
  isEmpty : s.isEmpty = true ↔ ∀ i, ¬members i

theorem encard_holds (s : State) : {i | s.Holds i}.encard = s.size := by
  have hitems : {i | s.Holds i} = (s.listing.items.toFinset : Set Item) := by
    ext i
    simp [s.holds_iff]
  rw [hitems, Set.encard_coe_eq_coe_finsetCard, List.toFinset_card_of_nodup s.nodup_items,
    s.size_eq]

theorem isEmpty_iff (s : State) : s.isEmpty = true ↔ ∀ i, ¬s.Holds i := by
  simp only [isEmpty, beq_iff_eq, s.size_eq, List.length_eq_zero_iff, s.holds_iff,
    List.eq_nil_iff_forall_not_mem]

theorem toml_listing (s : State) : Listing.ofToml? s.toDocument.toToml = some s.listing := by
  have hplain : Document.Plain (Document.Toml.nestingLimit + 1) s.toDocument :=
    s.plain_toDocument 78
  have htoml : Document.ofToml? s.toDocument.toToml = some s.toDocument.ordered :=
    Document.ofToml?_toToml hplain
  rw [Listing.ofToml?, htoml]
  show (Listing.schema.decode .lenient s.toDocument.ordered).toOption = _
  rw [s.lists_ordered]
  rfl

theorem represents_of_holds {s : State} {members : Item → Prop}
    (h : ∀ i, s.Holds i ↔ members i) : s.Represents members := by
  obtain rfl : s.Holds = members := funext fun i => propext (h i)
  exact {
    inOrder := s.inOrder_listing
    principals := s.accounts.increasing.nodup_map fun _ _ => Account.compare_eq_iff.2
    listed := fun i => (s.holds_iff i).symm
    written := fun rules => s.lists_toDocument rules
    writtenToml := s.toml_listing
    size := s.encard_holds
    isEmpty := s.isEmpty_iff }

theorem DescribesLike.symm {s t : State} (h : s.DescribesLike t) : t.DescribesLike s :=
  fun b hb a ha heq => (h a ha b hb heq.symm).symm

theorem DescribesLike.mem_accounts {s t : State} (h : s.DescribesLike t)
    (hholds : ∀ i, s.Holds i → t.Holds i) {a : Account} (ha : a ∈ s.accounts) : a ∈ t.accounts := by
  obtain ⟨b, hb, hprincipal⟩ := hholds (.account a.principal) ⟨a, ha, rfl⟩
  have hdescription := h a ha b hb hprincipal.symm
  obtain rfl : a = b := by
    cases a
    cases b
    exact Account.mk.injEq .. ▸ ⟨hprincipal.symm, hdescription⟩
  exact hb

/-- A state is known by its entries and its descriptions. -/
theorem eq_iff_holds {s t : State} :
    s = t ↔ (∀ i, s.Holds i ↔ t.Holds i) ∧ s.DescribesLike t := by
  constructor
  · rintro rfl
    refine ⟨fun i => Iff.rfl, fun a ha b hb h => ?_⟩
    rw [OrderedSet.eq_of_compare_eq ha hb (Account.compare_eq_iff.2 h)]
  · rintro ⟨hholds, hlike⟩
    have haccounts : s.accounts = t.accounts := OrderedSet.ext_mem fun a =>
      ⟨hlike.mem_accounts fun i => (hholds i).1, hlike.symm.mem_accounts fun i => (hholds i).2⟩
    have hbindings : s.bindings = t.bindings := OrderedSet.ext_mem fun b => hholds (.binding b)
    have htopics : s.topics = t.topics := OrderedSet.ext_mem fun name => hholds (.topic name)
    have hartefacts : s.artefacts = t.artefacts :=
      OrderedSet.ext_mem fun a => hholds (.artefact a)
    cases s
    cases t
    exact State.mk.injEq .. ▸ ⟨hbindings, haccounts, htopics, hartefacts⟩

theorem toDocument_inj {s t : State} : s.toDocument = t.toDocument ↔ s = t := by
  refine ⟨fun h => ?_, fun h => h ▸ rfl⟩
  have hlists := s.lists_toDocument .strict
  rw [h, t.lists_toDocument] at hlists
  exact listing_inj.1 (Except.ok.inj hlists).symm

theorem toToml_inj {s t : State} : s.toDocument.toToml = t.toDocument.toToml ↔ s = t := by
  refine ⟨fun h => listing_inj.1 (Option.some.inj ?_), fun h => h ▸ rfl⟩
  rw [← s.toml_listing, ← t.toml_listing, h]

/-- **Canonical form.** A state is in the one form for the entries that its history leaves: its
lists, as they are shown and written, are strictly increasing, no two of its accounts share a
principal, its size is the number of different entries, and it is empty only if there is none. So two
histories lead to the same state exactly if they leave the same entries with the same descriptions,
whatever they are made of, and exactly then the two states are written alike, as documents and as
TOML. -/
theorem canonical_form {g h : History} {s t : State} (hs : g.state? = some s)
    (ht : h.state? = some t) :
    s.Represents g.Leaves ∧
    (s = t ↔ (∀ i, g.Leaves i ↔ h.Leaves i) ∧ s.DescribesLike t) ∧
    (s.toDocument = t.toDocument ↔ s = t) ∧
    (s.toDocument.toToml = t.toDocument.toToml ↔ s = t) := by
  refine ⟨represents_of_holds (History.holds_iff hs), ?_, toDocument_inj, toToml_inj⟩
  rw [eq_iff_holds]
  simp only [History.holds_iff hs, History.holds_iff ht]

/-! ## Two ways to one state -/

namespace Twofold

/-- Grants that differ in their operations alone. -/
def grants : List Acl.Binding :=
  [.literal .topic "orders" "User:b" .write, .literal .topic "orders" "User:b" .read]

/-- Read from a document with an account listed twice, and then changed. -/
def read : History where
  source := .stored .strict Scrawled.document
  operations := [.addBindings grants, .removeTopics ["orders"], .apply (.createTopic "Ärger")]

/-- Put together from lists, in another order and with detours. -/
def built : History where
  source := .parts ⟨[], [⟨"User:b", some "reports"⟩, ⟨"User:b", some "billing"⟩], ["Ärger"], []⟩
  operations := [.apply (.createBindings grants.reverse), .addTopic "orders",
    .addAccounts [⟨"User:b", some "ignored"⟩, ⟨"User:a", none⟩],
    .apply (.deleteTopics ["orders"]), .addTopic "ledger"]

def state : State :=
  .ofLists grants [⟨"User:a", none⟩, ⟨"User:b", some "billing"⟩] ["ledger", "Ärger"] []

end Twofold

/-- Both leave the same six entries and so lead to the same state, in which the letter of two octets
comes last. -/
theorem canonical_form_twofold :
    Twofold.read.state? = some Twofold.state ∧ Twofold.built.state? = some Twofold.state ∧
      (∀ i, Twofold.read.Leaves i ↔ Twofold.built.Leaves i) ∧
      {i | Twofold.read.Leaves i}.encard = 6 ∧
      (["ledger", "Ärger"].map Text.octets).Pairwise (· < ·) := by
  have hread : Twofold.read.state? = some Twofold.state := by decide +kernel
  have hbuilt : Twofold.built.state? = some Twofold.state := by decide +kernel
  obtain ⟨hform, hsame, -⟩ := canonical_form hread hbuilt
  exact ⟨hread, hbuilt, (hsame.1 rfl).1, hform.size, hform.inOrder.topics⟩

end State
end KafkaTopology
