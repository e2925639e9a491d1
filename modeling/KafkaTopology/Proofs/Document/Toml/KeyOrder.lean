import KafkaTopology.Document.Toml
import KafkaTopology.Proofs.Document.KeyOrder
import KafkaTopology.Proofs.Except
/-!
# The key order of TOML

In what is read from a TOML text the keys of every mapping increase
(`Document.keysIncrease_of_ofToml?`), and they still do when it is brought into the form that JSON
has too.
-/
namespace KafkaTopology.Document
namespace Toml

/-! ## Tables -/

/-- A node that holds no document but such whose keys increase. -/
inductive Node.IsSound : Node → Prop where
  | value {d : Document} (h : d.KeysIncrease) : IsSound (.value d)
  | table {origin : Origin} {entries : Table} (h : ∀ e ∈ entries, IsSound e.2) :
    IsSound (.table origin entries)
  | tables {elements : List Table} (h : ∀ t ∈ elements, ∀ e ∈ t, IsSound e.2) :
    IsSound (.tables elements)

/-- A table of such nodes. -/
def Table.IsSound (t : Table) : Prop := ∀ e ∈ t, e.2.IsSound

theorem Node.entries_eq_map (t : Table) : Node.entries t = t.map fun e => (e.1, e.2.document) := by
  induction t with
  | nil => rfl
  | cons e t ih => rw [Node.entries, ih, List.map_cons]

theorem Node.elements_eq_map (elements : List Table) :
    Node.elements elements = elements.map Table.document := by
  induction elements with
  | nil => rfl
  | cons t elements ih =>
    rw [Node.elements, ih]
    rfl

/-- The keys of a table increase if those of its values do. -/
theorem keysIncrease_document {t : Table} (h : ∀ e ∈ t, e.2.document.KeysIncrease) :
    t.document.KeysIncrease := by
  refine .mapping (fun e he => ?_) (increasing_sorted _)
  obtain ⟨entry, hentry, rfl⟩ := List.mem_map.1 he
  have hmem := OrderedSet.mem_of_mem_ofList hentry
  rw [Node.entries_eq_map, List.map_map] at hmem
  obtain ⟨e', he', rfl⟩ := List.mem_map.1 hmem
  exact h e' he'

theorem Node.IsSound.keysIncrease {n : Node} (h : n.IsSound) : n.document.KeysIncrease := by
  induction h with
  | value h => exact h
  | table _ ih => exact keysIncrease_document ih
  | tables _ ih =>
    refine .list fun d hd => ?_
    rw [List.mem_reverse, Node.elements_eq_map] at hd
    obtain ⟨t, ht, rfl⟩ := List.mem_map.1 hd
    exact keysIncrease_document (ih t ht)

namespace Table

variable {t t' : Table} {d : Document}

theorem IsSound.nil : IsSound [] := nofun

theorem IsSound.keysIncrease (h : t.IsSound) : t.document.KeysIncrease :=
  keysIncrease_document fun e he => (h e he).keysIncrease

theorem IsSound.set (h : t.IsSound) {n : Node} (hn : n.IsSound) (key : String) :
    (t.set key n).IsSound := by
  induction t with
  | nil => exact List.forall_mem_singleton.2 hn
  | cons e t ih =>
    obtain ⟨he, ht⟩ := List.forall_mem_cons.1 h
    rw [Table.set]
    split
    · exact List.forall_mem_cons.2 ⟨hn, ht⟩
    · exact List.forall_mem_cons.2 ⟨he, ih ht⟩

theorem IsSound.get? (h : t.IsSound) {key : String} {n : Node} (hn : t.get? key = some n) :
    n.IsSound := by
  obtain ⟨before, after, hsplit, -⟩ := List.lookup_eq_some_iff.1 hn
  exact h (key, n) (hsplit ▸ List.mem_append_right _ List.mem_cons_self)

theorem IsSound.table (h : t.IsSound) {key : String} {origin : Origin}
    (hn : t.get? key = some (.table origin t')) : t'.IsSound := by
  cases h.get? hn with
  | table h => exact h

theorem IsSound.tables (h : t.IsSound) {key : String} {elements : List Table}
    (hn : t.get? key = some (.tables elements)) : ∀ t' ∈ elements, IsSound t' := by
  cases h.get? hn with
  | tables h => exact h

/-- A change that keeps tables sound. -/
def KeepsSound (f : Table → Option Table) : Prop := ∀ t t', IsSound t → f t = some t' → t'.IsSound

theorem keepsSound_within? {f : Table → Option Table} (hf : KeepsSound f) (path : List String) :
    KeepsSound (within? f path) := by
  induction path with
  | nil => exact hf
  | cons k ks ih =>
    intro t t' ht h
    rw [within?] at h
    split at h
    · obtain ⟨t₁, ht₁, rfl⟩ := Option.map_eq_some_iff.1 h
      exact ht.set (.table (ih _ _ .nil ht₁)) k
    · next hget =>
      obtain ⟨t₁, ht₁, rfl⟩ := Option.map_eq_some_iff.1 h
      exact ht.set (.table (ih _ _ (ht.table hget) ht₁)) k
    · next hget =>
      obtain ⟨t₁, ht₁, rfl⟩ := Option.map_eq_some_iff.1 h
      obtain ⟨hfirst, hrest⟩ := List.forall_mem_cons.1 (ht.tables hget)
      exact ht.set (.tables (List.forall_mem_cons.2 ⟨ih _ _ hfirst ht₁, hrest⟩)) k
    · cases h

theorem keepsSound_assign? (hd : d.KeysIncrease) (path : List String) (extensible : Bool) :
    KeepsSound (assign? d extensible path) := by
  induction path generalizing extensible with
  | nil =>
    intro t t' _ h
    cases h
  | cons k ks ih =>
    intro t t' ht h
    cases ks with
    | nil =>
      rw [assign?] at h
      split at h
      · split at h
        · cases h
          exact ht.set (.value hd) k
        · cases h
      · cases h
    | cons k' ks =>
      rw [assign?] at h
      · split at h
        · obtain ⟨t₁, ht₁, rfl⟩ := Option.map_eq_some_iff.1 h
          exact ht.set (.table (ih true _ _ .nil ht₁)) k
        · cases h
        · next hget =>
          obtain ⟨t₁, ht₁, rfl⟩ := Option.map_eq_some_iff.1 h
          exact ht.set (.table (ih true _ _ (ht.table hget) ht₁)) k
        · next hget =>
          obtain ⟨t₁, ht₁, rfl⟩ := Option.map_eq_some_iff.1 h
          obtain ⟨hfirst, hrest⟩ := List.forall_mem_cons.1 (ht.tables hget)
          exact ht.set (.tables (List.forall_mem_cons.2 ⟨ih false _ _ hfirst ht₁, hrest⟩)) k
        · cases h
      · exact List.cons_ne_nil _ _

theorem keepsSound_open? (key : String) : KeepsSound (open? key) := by
  intro t t' ht h
  rw [open?] at h
  split at h
  · cases h
    exact ht.set (.table IsSound.nil) key
  · next hget =>
    cases h
    exact ht.set (.table (ht.table hget)) key
  · cases h

theorem keepsSound_append? (key : String) : KeepsSound (append? key) := by
  intro t t' ht h
  rw [append?] at h
  split at h
  · cases h
    exact ht.set (.tables (List.forall_mem_singleton.2 IsSound.nil)) key
  · next hget =>
    cases h
    exact ht.set (.tables (List.forall_mem_cons.2 ⟨IsSound.nil, ht.tables hget⟩)) key
  · cases h

end Table

/-! ## Values -/

theorem keysIncrease_ofBare? {cs : List Char} {d : Document} (h : ofBare? cs = some d) :
    d.KeysIncrease := by
  rw [ofBare?] at h
  split at h
  · cases h
    exact .leaf rfl
  split at h
  · cases h
    exact .leaf rfl
  split at h
  · split at h
    · cases h
      exact .leaf rfl
    · cases h
  split at h
  · cases h
    exact .leaf rfl
  · obtain ⟨s, -, rfl⟩ := Option.map_eq_some_iff.1 h
    exact .mapping (List.forall_mem_singleton.2 (.leaf rfl)) (List.pairwise_singleton _ _)

/-- Whether the keys of what is read increase. -/
def ReadsIncreasing (o : Option (Document × List Char)) : Prop :=
  ∀ d rest, o = some (d, rest) → d.KeysIncrease

theorem readsIncreasing_some {d : Document} (h : d.KeysIncrease) (rest : List Char) :
    ReadsIncreasing (some (d, rest)) := by
  rintro _ _ ⟨⟩
  exact h

theorem readsIncreasing_none : ReadsIncreasing none := by
  intro _ _ h
  cases h

/-- The keys of the values, lists and tables in brackets that are read with some fuel. -/
structure Increases (fuel : Nat) : Prop where
  value : ∀ depth cs, ReadsIncreasing (value? fuel depth cs)
  items : ∀ depth cs (acc : List Document), (∀ d ∈ acc, d.KeysIncrease) →
    ReadsIncreasing (items? fuel depth acc cs)
  entries : ∀ depth cs (t : Table), t.IsSound → ReadsIncreasing (entries? fuel depth t cs)

namespace Increases

variable {fuel : Nat}

theorem value_succ (ih : Increases fuel) (depth : Nat) (cs : List Char) :
    ReadsIncreasing (value? (fuel + 1) depth cs) := by
  unfold value?
  split
  · exact readsIncreasing_none
  · next c rest =>
    split
    · cases text? (c :: rest) with
      | none => exact readsIncreasing_none
      | some r => exact readsIncreasing_some (.leaf rfl) _
    split
    · split
      · exact readsIncreasing_none
      · exact ih.items _ rest [] (List.forall_mem_nil _)
    split
    · split
      · exact readsIncreasing_none
      · exact ih.entries _ rest [] Table.IsSound.nil
    · dsimp only
      cases hbare : ofBare? (bareSpan (c :: rest)).1 with
      | none => exact readsIncreasing_none
      | some d => exact readsIncreasing_some (keysIncrease_ofBare? hbare) _

theorem items_succ (ih : Increases fuel) (depth : Nat) (cs : List Char) {acc : List Document}
    (hacc : ∀ d ∈ acc, d.KeysIncrease) : ReadsIncreasing (items? (fuel + 1) depth acc cs) := by
  unfold items?
  generalize skipSpace (cs.length + 1) cs = cs'
  split
  · exact readsIncreasing_some (.list fun d hd => hacc d (List.mem_reverse.1 hd)) _
  · rcases hvalue : value? fuel depth cs' with - | ⟨d, rest⟩
    · exact readsIncreasing_none
    have hall := List.forall_mem_cons.2 ⟨ih.value depth cs' d rest hvalue, hacc⟩
    simp only [Option.bind_eq_bind, Option.bind_some]
    split
    · exact ih.items depth _ _ hall
    · exact readsIncreasing_some (.list fun d hd => hall d (List.mem_reverse.1 hd)) _
    · exact readsIncreasing_none

theorem entries_succ (ih : Increases fuel) (depth : Nat) (cs : List Char) {t : Table}
    (ht : t.IsSound) : ReadsIncreasing (entries? (fuel + 1) depth t cs) := by
  unfold entries?
  generalize skipSpace (cs.length + 1) cs = cs'
  split
  · exact readsIncreasing_some ht.keysIncrease _
  · rcases key? cs' with - | ⟨path, rest⟩
    · exact readsIncreasing_none
    simp only [Option.bind_eq_bind, Option.bind_some]
    split
    · next rest' _ =>
      rcases hvalue : value? fuel depth (skipSpace (rest'.length + 1) rest') with - | ⟨d, rest⟩
      · exact readsIncreasing_none
      have hd := ih.value depth _ d rest hvalue
      rw [Option.bind_some]
      cases hassign : t.assign? d true path with
      | none => exact readsIncreasing_none
      | some t' =>
        have ht' := Table.keepsSound_assign? hd path true t t' ht hassign
        rw [Option.bind_some]
        split
        · exact ih.entries depth _ t' ht'
        · exact readsIncreasing_some ht'.keysIncrease _
        · exact readsIncreasing_none
    · exact readsIncreasing_none

end Increases

theorem increases (fuel : Nat) : Increases fuel := by
  induction fuel with
  | zero => exact ⟨fun _ _ => readsIncreasing_none, fun _ _ _ _ => readsIncreasing_none,
      fun _ _ _ _ => readsIncreasing_none⟩
  | succ fuel ih => exact ⟨ih.value_succ, fun depth cs _ => ih.items_succ depth cs,
      fun depth cs _ => ih.entries_succ depth cs⟩

/-! ## Statements -/

/-- A statement with no value but such whose keys increase. -/
def Statement.IsSound : Statement → Prop
  | .assigns _ d => d.KeysIncrease
  | _ => True

theorem isSound_of_statement? {cs rest : List Char} {s : Statement}
    (h : statement? cs = some (s, rest)) : s.IsSound := by
  unfold statement? at h
  split at h
  · obtain ⟨_, _, h⟩ := Option.bind_eq_some_iff.1 h
    obtain ⟨_, _, ⟨⟩⟩ := Option.bind_eq_some_iff.1 h
    trivial
  · obtain ⟨_, _, h⟩ := Option.bind_eq_some_iff.1 h
    obtain ⟨_, _, ⟨⟩⟩ := Option.bind_eq_some_iff.1 h
    trivial
  · obtain ⟨⟨path, cs'⟩, _, h⟩ := Option.bind_eq_some_iff.1 h
    dsimp only at h
    split at h
    · obtain ⟨⟨d, cs'⟩, hvalue, h⟩ := Option.bind_eq_some_iff.1 h
      obtain ⟨_, _, ⟨⟩⟩ := Option.bind_eq_some_iff.1 h
      exact (increases _).value _ _ d cs' hvalue
    · cases h

theorem isSound_of_statements? {fuel : Nat} {acc : List Statement} {cs : List Char}
    {statements : List Statement} (hacc : ∀ s ∈ acc, s.IsSound)
    (h : statements? fuel acc cs = some statements) : ∀ s ∈ statements, s.IsSound := by
  induction fuel generalizing acc cs with
  | zero => cases h
  | succ fuel ih =>
    rw [statements?] at h
    split at h
    · cases h
      exact fun s hs => hacc s (List.mem_reverse.1 hs)
    · obtain ⟨⟨s, rest⟩, hs, h⟩ := Option.bind_eq_some_iff.1 h
      exact ih (List.forall_mem_cons.2 ⟨isSound_of_statement? hs, hacc⟩) h

theorem Draft.keepsSound_atLast? {f : String → Table → Option Table}
    (hf : ∀ key, Table.KeepsSound (f key)) (path : List String) :
    Table.KeepsSound (atLast? f path) := by
  intro t t' ht h
  obtain ⟨key, -, h⟩ := Option.bind_eq_some_iff.1 h
  exact Table.keepsSound_within? (hf key) _ t t' ht h

theorem Draft.isSound_of_add? {draft draft' : Draft} {s : Statement} (hs : s.IsSound)
    (hdraft : draft.root.IsSound) (h : draft.add? s = some draft') : draft'.root.IsSound := by
  cases s with
  | opens path =>
    obtain ⟨root, hroot, ⟨⟩⟩ := Option.bind_eq_some_iff.1 h
    exact keepsSound_atLast? Table.keepsSound_open? path _ root hdraft hroot
  | appends path =>
    obtain ⟨root, hroot, ⟨⟩⟩ := Option.bind_eq_some_iff.1 h
    exact keepsSound_atLast? Table.keepsSound_append? path _ root hdraft hroot
  | assigns path d =>
    obtain ⟨root, hroot, ⟨⟩⟩ := Option.bind_eq_some_iff.1 h
    exact Table.keepsSound_within? (Table.keepsSound_assign? hs path true) _ _ root hdraft hroot

theorem Draft.isSound_of_foldlM {statements : List Statement} {draft draft' : Draft}
    (hs : ∀ s ∈ statements, s.IsSound) (hdraft : draft.root.IsSound)
    (h : statements.foldlM add? draft = some draft') : draft'.root.IsSound := by
  induction statements generalizing draft with
  | nil =>
    cases h
    exact hdraft
  | cons s statements ih =>
    obtain ⟨hs, hstatements⟩ := List.forall_mem_cons.1 hs
    obtain ⟨draft₁, hadd, h⟩ := Option.bind_eq_some_iff.1 h
    exact ih hstatements (isSound_of_add? hs hdraft hadd) h

end Toml

/-- The keys of all mappings that are read from a TOML text increase. -/
theorem keysIncrease_of_ofToml? {text : String} {d : Document} (h : ofToml? text = some d) :
    d.KeysIncrease := by
  obtain ⟨statements, hstatements, h⟩ := Option.bind_eq_some_iff.1 h
  obtain ⟨draft, hdraft, ⟨⟩⟩ := Option.bind_eq_some_iff.1 h
  have hsound := Toml.isSound_of_statements? (fun _ hs => absurd hs List.not_mem_nil) hstatements
  exact (Toml.Draft.isSound_of_foldlM hsound Toml.Table.IsSound.nil hdraft).keysIncrease

/-! ## Interchange -/

theorem interchangeItems?_eq_mapM (items : List Document) :
    interchangeItems? items = items.mapM interchange? := by
  induction items with
  | nil => rfl
  | cons d rest ih => rw [interchangeItems?, ih, List.mapM_cons]

theorem interchangeEntries?_eq_mapM (entries : List (String × Document)) :
    interchangeEntries? entries = entries.mapM fun e => e.2.interchange?.map (e.1, ·) := by
  induction entries with
  | nil => rfl
  | cons e rest ih =>
    rw [interchangeEntries?, ih, List.mapM_cons]
    cases e.2.interchange? <;> rfl

theorem isLeaf_of_interchange? {d d' : Document} (hd : d.isLeaf = true)
    (h : d.interchange? = some d') : d'.isLeaf = true := by
  cases d with
  | integer i =>
    rw [Document.interchange?] at h
    split at h
    · cases h
      rfl
    · cases h
  | float x =>
    rw [Document.interchange?] at h
    cases h
    split <;> rfl
  | list | mapping => cases hd
  | _ =>
    cases h
    rfl

/-- What is brought into a form that JSON has keeps its keys. -/
theorem KeysIncrease.interchange? {d d' : Document} (hd : d.KeysIncrease)
    (h : d.interchange? = some d') : d'.KeysIncrease := by
  induction hd generalizing d' with
  | leaf hleaf => exact .leaf (isLeaf_of_interchange? hleaf h)
  | list _ ih =>
    obtain ⟨items, hitems, rfl⟩ := Option.map_eq_some_iff.1 h
    rw [interchangeItems?_eq_mapM, List.mapM_eq_some_iff] at hitems
    refine .list fun d hd => ?_
    obtain ⟨x, hx, hd⟩ := hitems.exists_left hd
    exact ih x hx hd
  | mapping _ hkeys ih =>
    obtain ⟨entries, hentries, rfl⟩ := Option.map_eq_some_iff.1 h
    rw [interchangeEntries?_eq_mapM, List.mapM_eq_some_iff] at hentries
    refine .mapping (fun e he => ?_) ?_
    · obtain ⟨x, hx, he⟩ := hentries.exists_left he
      obtain ⟨d, hd, rfl⟩ := Option.map_eq_some_iff.1 he
      exact ih x hx hd
    · suffices hsame : ∀ {es es' : List (String × Document)}, List.Forall₂
          (fun e e' => e.2.interchange?.map (e.1, ·) = some e') es es' →
          es'.map Prod.fst = es.map Prod.fst from hsame hentries ▸ hkeys
      intro es es' hes
      induction hes with
      | nil => rfl
      | cons he _ ih =>
        obtain ⟨d, -, rfl⟩ := Option.map_eq_some_iff.1 he
        rw [List.map_cons, List.map_cons, ih]

end KafkaTopology.Document
