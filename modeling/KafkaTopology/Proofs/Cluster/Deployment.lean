import KafkaTopology.Artefact
import KafkaTopology.Proofs.Cluster.Mark
/-!
# Deployments

The connectors of Connect servers, by server and name. Deploying one that is there leaves it as it
is; withdrawing an artefact removes what its deletion reaches, whatever the definition of that. A
plan withdraws what is not desired before it deploys what is missing, so that a connector whose
definition moved makes room for itself, as long as every deletion is precise: it reaches the place
of its artefact and no other one.

* `Connectors.Between.onAll` — every part of a precise script stays in between.
* `Connectors.Between.holds_onAll_script` — a whole precise script leads from anywhere in between to
  the desired connectors.
* `Connectors.onAll_eq_self_iff` — a precise script that has begun cannot be undone by doing
  nothing.
-/
namespace KafkaTopology

/-- Whether an artefact is deployed under a name at a server. -/
def Artefact.isAt (a : Artefact) (server name : String) : Bool :=
  a.server == server && a.name == name

theorem Artefact.isAt_iff {a : Artefact} {server name : String} :
    a.isAt server name = true ↔ a.server = server ∧ a.name = name := by
  simp [isAt]

theorem Artefact.eq_mk_of_isAt {a : Artefact} {server name : String}
    (h : a.isAt server name = true) : a = ⟨server, name, a.path⟩ := by
  obtain ⟨rfl, rfl⟩ := Artefact.isAt_iff.1 h
  rfl

/-- No server has two of the artefacts under one name. -/
def Artefact.Distinct (s : Set Artefact) : Prop :=
  ∀ a ∈ s, ∀ b ∈ s, a.server = b.server → a.name = b.name → a = b

theorem Artefact.of_find?_isAt {xs : List Artefact} {a : Artefact} {server name : String}
    (h : xs.find? (·.isAt server name) = some a) : a ∈ xs ∧ a.isAt server name = true :=
  ⟨List.mem_of_find?_eq_some h, by simpa using List.find?_some h⟩

/-- Where artefacts are distinct, each is found in its place. -/
theorem Artefact.Distinct.find?_isAt {s : Set Artefact} (h : Distinct s) {xs : List Artefact}
    (hxs : ∀ a ∈ xs, a ∈ s) {a : Artefact} (ha : a ∈ xs) :
    xs.find? (·.isAt a.server a.name) = some a := by
  have hat : a.isAt a.server a.name = true := isAt_iff.2 ⟨rfl, rfl⟩
  obtain ⟨b, hb⟩ := Option.isSome_iff_exists.1 <|
    List.find?_isSome (p := (·.isAt a.server a.name)).2 ⟨a, ha, hat⟩
  obtain ⟨hmem, hat⟩ := of_find?_isAt hb
  obtain ⟨hserver, hname⟩ := Artefact.isAt_iff.1 hat
  rw [hb, h b (hxs b hmem) a (hxs a ha) hserver hname]

/-- The definition of each connector, by server and name. -/
abbrev Connectors := String → String → Option String

namespace Connectors

/-- The connectors are exactly the artefacts. -/
def Holds (cs : Connectors) (s : Set Artefact) : Prop :=
  ∀ server name path, cs server name = some path ↔ ⟨server, name, path⟩ ∈ s

/-- What the deletion of each artefact reaches, by server and name. -/
abbrev Reach := Artefact → String → String → Bool

/-- Connectors after a mark. -/
def on (reaches : Reach) (cs : Connectors) : Mark Artefact → Connectors
  | .put a => fun server name =>
    (cs server name).or (if a.isAt server name then some a.path else none)
  | .drop a => fun server name => if reaches a server name then none else cs server name

/-- Connectors after marks, in order. -/
def onAll (reaches : Reach) (cs : Connectors) (ms : List (Mark Artefact)) : Connectors :=
  ms.foldl (on reaches) cs

section
variable (reaches : Reach)

theorem on_put (cs : Connectors) (a : Artefact) (server name : String) :
    cs.on reaches (.put a) server name =
      (cs server name).or (if a.isAt server name then some a.path else none) := rfl

theorem on_drop (cs : Connectors) (a : Artefact) (server name : String) :
    cs.on reaches (.drop a) server name =
      if reaches a server name then none else cs server name := rfl

theorem onAll_append (cs : Connectors) (ms ns : List (Mark Artefact)) :
    cs.onAll reaches (ms ++ ns) = (cs.onAll reaches ms).onAll reaches ns := List.foldl_append

theorem onAll_puts (cs : Connectors) (xs : List Artefact) (server name : String) :
    cs.onAll reaches (xs.map .put) server name =
      (cs server name).or ((xs.find? (·.isAt server name)).map (·.path)) := by
  induction xs generalizing cs with
  | nil => exact Option.or_none.symm
  | cons x xs ih =>
    show (cs.on reaches (.put x)).onAll reaches (xs.map .put) server name = _
    rw [ih, on_put, Option.or_assoc]
    cases hx : x.isAt server name <;> simp [hx]

theorem onAll_drops (cs : Connectors) (xs : List Artefact) (server name : String) :
    cs.onAll reaches (xs.map .drop) server name =
      if xs.any (reaches · server name) then none else cs server name := by
  induction xs generalizing cs with
  | nil => rfl
  | cons x xs ih =>
    show (cs.on reaches (.drop x)).onAll reaches (xs.map .drop) server name = _
    rw [ih, on_drop]
    cases hx : reaches x server name <;> simp [hx]

end

/-- Artefacts that are withdrawn, and then artefacts that are deployed. -/
def script (added removed : List Artefact) : List (Mark Artefact) :=
  removed.map .drop ++ added.map .put

theorem onAll_script (reaches : Reach) (cs : Connectors) (added removed : List Artefact)
    (server name : String) :
    cs.onAll reaches (script added removed) server name =
      (if removed.any (reaches · server name) then none else cs server name).or
        ((added.find? (·.isAt server name)).map (·.path)) := by
  rw [script, onAll_append, onAll_puts, onAll_drops]

theorem put_mem_script {added removed : List Artefact} {a : Artefact}
    (h : .put a ∈ script added removed) : a ∈ added := by
  simpa [script] using h

theorem drop_mem_script {added removed : List Artefact} {a : Artefact}
    (h : .drop a ∈ script added removed) : a ∈ removed := by
  simpa [script] using h

section
variable {reaches : Reach} {cs : Connectors} {added removed : List Artefact}
  {ms : List (Mark Artefact)} {server name path : String}

/-- Marks of a script deploy nothing else. -/
theorem eq_or_mem_added (h : ∀ m ∈ ms, m ∈ script added removed)
    (hpath : cs.onAll reaches ms server name = some path) :
    cs server name = some path ∨ ⟨server, name, path⟩ ∈ added := by
  induction ms generalizing cs with
  | nil => exact .inl hpath
  | cons m ms ih =>
    have hm : m ∈ script added removed := h m List.mem_cons_self
    rcases ih (fun n hn => h n (List.mem_cons_of_mem _ hn)) hpath with hon | hadded
    · cases m with
      | put a =>
        rw [on_put, Option.or_eq_some_iff] at hon
        rcases hon with hcs | ⟨-, hput⟩
        · exact .inl hcs
        · split at hput
          · rename_i hat
            cases hput
            exact .inr (Artefact.eq_mk_of_isAt hat ▸ put_mem_script hm)
          · cases hput
      | drop a =>
        rw [on_drop] at hon
        split at hon
        · cases hon
        · exact .inl hon
    · exact .inr hadded

/-- Marks of a script leave a connector alone that no deletion among them reaches. -/
theorem onAll_of_eq (h : ∀ m ∈ ms, m ∈ script added removed)
    (hpath : cs server name = some path) (hremoved : ∀ a ∈ removed, ¬reaches a server name = true) :
    cs.onAll reaches ms server name = some path := by
  induction ms generalizing cs with
  | nil => exact hpath
  | cons m ms ih =>
    have hm : m ∈ script added removed := h m List.mem_cons_self
    refine ih (fun n hn => h n (List.mem_cons_of_mem _ hn)) ?_
    cases m with
    | put a => rw [on_put, hpath, Option.some_or]
    | drop a => rw [on_drop, if_neg (hremoved a (drop_mem_script hm)), hpath]

/-- Where the deletions among some marks are precise, the marks do what is meant by them. -/
theorem onAll_of_precise (h : ∀ a, .drop a ∈ ms → reaches a = a.isAt) :
    cs.onAll reaches ms = cs.onAll Artefact.isAt ms := by
  induction ms generalizing cs with
  | nil => rfl
  | cons m ms ih =>
    have hon : cs.on reaches m = cs.on Artefact.isAt m := by
      cases m with
      | put a => rfl
      | drop a => rw [on, on, h a List.mem_cons_self]
    show (cs.on reaches m).onAll reaches ms = (cs.on Artefact.isAt m).onAll Artefact.isAt ms
    rw [hon, ih fun a ha => h a (List.mem_cons_of_mem _ ha)]

end

/-- Connectors that a script which broke off can have led to on its way from `s` to `t`. -/
structure Between (s t : Set Artefact) (cs : Connectors) : Prop where
  mem_or : ∀ server name path, cs server name = some path →
    ⟨server, name, path⟩ ∈ s ∨ ⟨server, name, path⟩ ∈ t
  of_mem : ∀ a ∈ s, a ∈ t → cs a.server a.name = some a.path

section
variable {s t : Set Artefact} {cs : Connectors} {added removed : List Artefact}
  {ms : List (Mark Artefact)}

theorem Holds.between (h : cs.Holds s) (t : Set Artefact) : Between s t cs :=
  ⟨fun server name path hpath => .inl ((h server name path).1 hpath),
    fun a ha _ => (h a.server a.name a.path).2 ha⟩

/-- What is desired and recorded shares its place with nothing that is to be withdrawn. -/
theorem not_isAt_of_removed (hs : Artefact.Distinct s)
    (hremoved : ∀ a, a ∈ removed ↔ a ∈ s ∧ a ∉ t) {b : Artefact} (hb : b ∈ s) (hbt : b ∈ t) :
    ∀ a ∈ removed, ¬a.isAt b.server b.name = true := by
  intro a ha hat
  obtain ⟨has, hat'⟩ := (hremoved a).1 ha
  obtain ⟨hserver, hname⟩ := Artefact.isAt_iff.1 hat
  exact hat' (hs a has b hb hserver hname ▸ hbt)

theorem Between.onAll (h : Between s t cs) (hs : Artefact.Distinct s)
    (hadded : ∀ a, a ∈ added ↔ a ∈ t ∧ a ∉ s) (hremoved : ∀ a, a ∈ removed ↔ a ∈ s ∧ a ∉ t)
    (hms : ∀ m ∈ ms, m ∈ script added removed) : Between s t (cs.onAll Artefact.isAt ms) where
  mem_or server name path hpath := by
    rcases eq_or_mem_added hms hpath with hcs | hmem
    · exact h.mem_or server name path hcs
    · exact .inr ((hadded _).1 hmem).1
  of_mem a has hat :=
    onAll_of_eq hms (h.of_mem a has hat) (not_isAt_of_removed hs hremoved has hat)

/-- A whole script leads from anywhere in between to the desired connectors. -/
theorem Between.holds_onAll_script (h : Between s t cs) (hs : Artefact.Distinct s)
    (ht : Artefact.Distinct t) (hadded : ∀ a, a ∈ added ↔ a ∈ t ∧ a ∉ s)
    (hremoved : ∀ a, a ∈ removed ↔ a ∈ s ∧ a ∉ t) :
    (cs.onAll Artefact.isAt (script added removed)).Holds t := by
  intro server name path
  -- Where nothing is withdrawn, what is there is desired.
  have hkept : ¬removed.any (·.isAt server name) = true → ∀ p, cs server name = some p →
      ⟨server, name, p⟩ ∈ t := by
    intro hany p hp
    rcases h.mem_or server name p hp with hmem | hmem
    · by_contra hnot
      refine hany (List.any_eq_true.2 ⟨_, (hremoved _).2 ⟨hmem, hnot⟩, ?_⟩)
      exact Artefact.isAt_iff.2 ⟨rfl, rfl⟩
    · exact hmem
  rw [onAll_script, Option.or_eq_some_iff]
  constructor
  · rintro (hcs | ⟨-, hput⟩)
    · split at hcs
      · cases hcs
      · rename_i hany
        exact hkept hany path hcs
    · obtain ⟨a, ha, rfl⟩ := Option.map_eq_some_iff.1 hput
      obtain ⟨hmem, hat⟩ := Artefact.of_find?_isAt ha
      exact Artefact.eq_mk_of_isAt hat ▸ ((hadded a).1 hmem).1
  · intro hmem
    by_cases hs' : (⟨server, name, path⟩ : Artefact) ∈ s
    · refine .inl ?_
      have hnone : ¬removed.any (·.isAt server name) = true := fun hany => by
        obtain ⟨a, ha, hat⟩ := List.any_eq_true.1 hany
        exact not_isAt_of_removed hs hremoved hs' hmem a ha hat
      rw [if_neg hnone]
      exact h.of_mem _ hs' hmem
    · have hfind := ht.find?_isAt (fun a ha => ((hadded a).1 ha).1) ((hadded _).2 ⟨hmem, hs'⟩)
      cases hcs : (if removed.any (·.isAt server name) then none else cs server name) with
      | none => exact .inr ⟨rfl, congrArg (Option.map (·.path)) hfind⟩
      | some p =>
        split at hcs
        · cases hcs
        · rename_i hany
          have hp := ht _ (hkept hany p hcs) _ hmem rfl rfl
          exact .inl (congrArg (fun a : Artefact => some a.path) hp)

/-- If a script deploys what is missing and withdraws what is not desired, then no part of it but
the empty one leaves the connectors as they were. -/
theorem onAll_eq_self_iff (h : cs.Holds s) (ht : Artefact.Distinct t)
    (hadded : ∀ a, a ∈ added ↔ a ∈ t ∧ a ∉ s) (hremoved : ∀ a, a ∈ removed ↔ a ∈ s ∧ a ∉ t)
    (hms : ms <+: script added removed) : cs.onAll Artefact.isAt ms = cs ↔ ms = [] := by
  refine ⟨fun heq => ?_, fun h => by rw [h]; rfl⟩
  cases ms with
  | nil => rfl
  | cons m ms =>
    exfalso
    have htail : ∀ n ∈ ms, n ∈ script added removed :=
      fun n hn => hms.subset (List.mem_cons_of_mem _ hn)
    cases removed with
    | cons a as =>
      -- The first connector is withdrawn, and its definition is none of those that are deployed.
      obtain rfl : m = .drop a := (List.cons_prefix_cons.1 hms).1
      obtain ⟨has, hat⟩ := (hremoved a).1 List.mem_cons_self
      have heq : (cs.on Artefact.isAt (.drop a)).onAll Artefact.isAt ms = cs := heq
      have hpath : (cs.on Artefact.isAt (.drop a)).onAll Artefact.isAt ms a.server a.name =
          some a.path := by
        rw [heq]
        exact (h _ _ _).2 has
      rcases eq_or_mem_added htail hpath with hdrop | hmem
      · rw [on_drop, if_pos (Artefact.isAt_iff.2 ⟨rfl, rfl⟩)] at hdrop
        cases hdrop
      · exact hat ((hadded _).1 hmem).1
    | nil =>
      cases added with
      | nil => simp [script] at hms
      | cons b bs =>
        -- Nothing is withdrawn, so the first connector that is deployed finds its place empty.
        obtain rfl : m = .put b := (List.cons_prefix_cons.1 hms).1
        obtain ⟨hbt, hbs⟩ := (hadded b).1 List.mem_cons_self
        have hempty : cs b.server b.name = none := by
          cases hcs : cs b.server b.name with
          | none => rfl
          | some p =>
            have hmem := (h _ _ _).1 hcs
            by_cases hpt : (⟨b.server, b.name, p⟩ : Artefact) ∈ t
            · exact absurd (ht _ hpt b hbt rfl rfl ▸ hmem) hbs
            · exact absurd ((hremoved _).2 ⟨hmem, hpt⟩) List.not_mem_nil
        have hput : cs.on Artefact.isAt (.put b) b.server b.name = some b.path := by
          rw [on_put, hempty, if_pos (Artefact.isAt_iff.2 ⟨rfl, rfl⟩), Option.none_or]
        have heq : (cs.on Artefact.isAt (.put b)).onAll Artefact.isAt ms = cs := heq
        have hpath : cs b.server b.name = some b.path := by
          rw [← heq]
          exact onAll_of_eq htail hput fun a ha => absurd ha List.not_mem_nil
        exact hbs ((h _ _ _).1 hpath)

end
end Connectors
end KafkaTopology
