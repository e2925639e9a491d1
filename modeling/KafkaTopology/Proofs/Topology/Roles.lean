import KafkaTopology.Proofs.Topology.Declared
import Mathlib.Data.List.Dedup
/-!
# Merged role assignments

A project may assign roles in a list of mappings, and a role may come in several of them. The reader
folds them into one map, so what holds of it is said for any map that roles are added to: adding
entries changes the roles that they name, and puts their principals behind those that are there
(`get?_addRoles`). From this the list of mappings and the one mapping that lists everything for each
role come to the same assignments (`readRbac_merges`).
-/
namespace KafkaTopology

/-- A map is known by what it has under each key. -/
theorem OrderedMap.ext_get? {κ β : Type} [Ord κ] [Std.TransOrd κ] [Std.LawfulEqOrd κ]
    {m m' : OrderedMap κ β} (h : ∀ key, m.get? key = m'.get? key) : m = m' := by
  refine OrderedSet.ext_mem fun e => ?_
  rw [← get?_eq_some_iff, ← get?_eq_some_iff, h]

namespace Topology

open Except (bind_eq_ok_iff mapM_eq_ok_iff)

/-- The text of the principal that a document declares. -/
def principalText? (d : Document) : Option String :=
  (d.get? "principal").bind Document.scalarText?

/-- The principals that entries list for a role, in their order. -/
def principalsFor (role : String) (entries : Entries) : List String :=
  (listedFor role entries).filterMap principalText?

/-- One mapping with everything that several mappings list for each role, in their order. -/
def mergedRoles (mappings : List Entries) : Entries :=
  (Entries.keys mappings.flatten).dedup.map fun role =>
    (role, .list (listedFor role mappings.flatten))

variable {project : String} {m m' : OrderedMap String (List String)} {entries : Entries}
  {mappings : List Entries}

/-! ## What is listed for a role -/

theorem listedFor_append (role : String) (entries entries' : Entries) :
    listedFor role (entries ++ entries') = listedFor role entries ++ listedFor role entries' :=
  List.flatMap_append

theorem principalsFor_append (role : String) (entries entries' : Entries) :
    principalsFor role (entries ++ entries') =
      principalsFor role entries ++ principalsFor role entries' := by
  rw [principalsFor, listedFor_append, List.filterMap_append]
  rfl

theorem principalsFor_flatten (role : String) (mappings : List Entries) :
    principalsFor role mappings.flatten = mappings.flatMap (principalsFor role) := by
  induction mappings with
  | nil => rfl
  | cons entries mappings ih =>
    rw [List.flatten_cons, principalsFor_append, ih, List.flatMap_cons]

theorem listedFor_eq_nil {role : String} (h : role ∉ entries.keys) :
    listedFor role entries = [] := by
  refine List.flatMap_eq_nil_iff.2 fun e he => ?_
  obtain ⟨key, d⟩ := e
  have hkey : key ≠ role := by
    rintro rfl
    exact h (List.mem_map_of_mem he)
  cases d <;> simp [hkey]

/-- Of different roles with one list each, a role has its own list. -/
theorem listedFor_map {roles : List String} (hroles : roles.Nodup) (f : String → List Document)
    (role : String) :
    listedFor role (roles.map fun role => (role, .list (f role))) =
      if role ∈ roles then f role else [] := by
  induction roles with
  | nil => rfl
  | cons first roles ih =>
    obtain ⟨hnew, hroles⟩ := List.nodup_cons.1 hroles
    have hrest := ih hroles
    rw [List.map_cons, listedFor, List.flatMap_cons, ← listedFor, hrest]
    by_cases hfirst : first = role
    · subst hfirst
      simp [hnew]
    · simp [hfirst, Ne.symm hfirst]

theorem keys_mergedRoles (mappings : List Entries) :
    (mergedRoles mappings).keys = (Entries.keys mappings.flatten).dedup := by
  rw [mergedRoles, Entries.keys, List.map_map]
  exact List.map_id _

theorem listedFor_mergedRoles (role : String) (mappings : List Entries) :
    listedFor role (mergedRoles mappings) = listedFor role mappings.flatten := by
  rw [mergedRoles, listedFor_map (List.nodup_dedup _)]
  split
  · rfl
  · next hrole => exact (listedFor_eq_nil (mt List.mem_dedup.2 hrole)).symm

/-! ## Adding roles -/

theorem filterMap_principalText? {role : String} {items : List Document} {names : List String}
    (h : items.mapM (readPrincipal project role) = .ok names) :
    items.filterMap principalText? = names := by
  induction items generalizing names with
  | nil =>
    cases h
    rfl
  | cons item items ih =>
    obtain ⟨name, hname, rest, hrest, rfl⟩ := Except.mapM_cons_eq_ok_iff.1 h
    have hitem : principalText? item = some name := by
      rw [readPrincipal] at hname
      rw [principalText?]
      split at hname
      · next s hs =>
        cases hname
        exact hs
      · cases hname
    rw [List.filterMap_cons_some hitem, ih hrest]

/-- Adding a role changes that role alone, and what it has comes behind what is there. -/
theorem get?_addRole {e : String × Document} (h : addRole project m e = .ok m') (role : String) :
    m'.get? role =
      if e.1 = role then some ((m.get? role).getD [] ++ principalsFor role [e])
      else m.get? role := by
  obtain ⟨key, d⟩ := e
  cases d with
  | list items =>
    obtain ⟨names, hnames, ⟨⟩⟩ := bind_eq_ok_iff.1 h
    rw [OrderedMap.get?_set]
    by_cases hrole : key = role
    · subst hrole
      have hprincipals : principalsFor key [(key, .list items)] = names := by
        rw [← filterMap_principalText? hnames, principalsFor]
        simp [listedFor]
      simp [hprincipals]
    · simp [hrole, Ne.symm hrole]
  | _ => cases h

/-- Adding roles one after the other: a role that is named has what the entries list for it behind
what was there, even if they list nothing, and any other role has what it had. -/
theorem get?_addRoles (h : entries.foldlM (addRole project) m = .ok m') (role : String) :
    m'.get? role =
      if role ∈ Entries.keys entries then some ((m.get? role).getD [] ++ principalsFor role entries)
      else m.get? role := by
  induction entries generalizing m with
  | nil =>
    cases h
    rfl
  | cons e entries ih =>
    obtain ⟨m₁, hfirst, hrest⟩ := bind_eq_ok_iff.1 h
    have hhead := get?_addRole hfirst role
    have htail := ih hrest
    have happend := principalsFor_append role [e] entries
    rw [List.singleton_append] at happend
    by_cases hentries : role ∈ Entries.keys entries
    · have hkeys : role ∈ Entries.keys (e :: entries) := List.mem_cons_of_mem _ hentries
      rw [htail, if_pos hentries, if_pos hkeys, happend, hhead]
      by_cases hrole : e.1 = role
      · simp [hrole]
      · have hother : role ∉ Entries.keys [e] := by simpa [Entries.keys] using Ne.symm hrole
        have hnone : principalsFor role [e] = [] := by
          rw [principalsFor, listedFor_eq_nil hother]
          rfl
        simp [hrole, hnone]
    · have hnone : principalsFor role entries = [] := by
        rw [principalsFor, listedFor_eq_nil hentries]
        rfl
      rw [htail, if_neg hentries, hhead, happend, hnone, List.append_nil]
      have hkeys : role ∈ Entries.keys (e :: entries) ↔ e.1 = role := by
        simp only [Entries.keys, List.map_cons, List.mem_cons] at hentries ⊢
        exact ⟨fun h => (h.resolve_right hentries).symm, fun h => .inl h.symm⟩
      simp only [hkeys]

/-! ## Role assignments -/

theorem readRbac_mapping (project : String) (entries : Entries) :
    readRbac project (some (.mapping entries)) = entries.foldlM (addRole project) ∅ := by
  show [entries].flatten.foldlM (addRole project) ∅ = _
  rw [List.flatten_singleton]

theorem readRbac_mappings (project : String) (mappings : List Entries) :
    readRbac project (some (.list (mappings.map .mapping))) =
      mappings.flatten.foldlM (addRole project) ∅ := by
  have hmappings : rbacMappings project (some (.list (mappings.map .mapping))) = .ok mappings := by
    rw [rbacMappings, mapM_eq_ok_iff, List.forall₂_map_left_iff]
    exact List.forall₂_same.2 fun _ _ => rfl
  rw [readRbac, hmappings]
  rfl

/-- Which assignments are accepted is decided entry by entry. -/
theorem isOk_readRbac_mappings_iff :
    (readRbac project (some (.list (mappings.map .mapping)))).isOk = true ↔
      ∀ mapping ∈ mappings, (readRbac project (some (.mapping mapping))).isOk = true := by
  simp only [readRbac_mappings, readRbac_mapping, isOk_foldlM_addRole_iff, List.forall_mem_flatten]

/-- A role has what is listed for it, and only roles that are named are there. -/
theorem get?_of_addRoles (h : entries.foldlM (addRole project) ∅ = .ok m) (role : String) :
    m.get? role = if role ∈ entries.keys then some (principalsFor role entries) else none :=
  get?_addRoles h role

/-- What can be added role by role can be added with everything for one role at a time. -/
theorem exists_addRoles_mergedRoles (h : mappings.flatten.foldlM (addRole project) ∅ = .ok m) :
    ∃ m', (mergedRoles mappings).foldlM (addRole project) ∅ = .ok m' := by
  have hforms := isOk_foldlM_addRole_iff.1 (Except.isOk_iff.2 ⟨m, h⟩)
  refine Except.isOk_iff.1 (isOk_foldlM_addRole_iff.2 fun e he => ?_)
  obtain ⟨role, -, rfl⟩ := List.mem_map.1 he
  refine ⟨_, rfl, fun item hitem => ?_⟩
  obtain ⟨⟨key, d⟩, hentry, hitem⟩ := List.mem_flatMap.1 hitem
  obtain ⟨items, rfl, hitems⟩ := hforms _ hentry
  by_cases hkey : key = role
  · simp only [if_pos hkey] at hitem
    exact hitems item hitem
  · simp only [if_neg hkey] at hitem
    cases hitem

theorem readRbac_mergedRoles
    (h : readRbac project (some (.list (mappings.map .mapping))) = .ok m) :
    readRbac project (some (.mapping (mergedRoles mappings))) = .ok m := by
  rw [readRbac_mappings] at h
  rw [readRbac_mapping]
  obtain ⟨m', hm'⟩ := exists_addRoles_mergedRoles h
  rw [hm']
  refine congrArg Except.ok (OrderedMap.ext_get? fun role => ?_)
  rw [get?_of_addRoles hm', get?_of_addRoles h, keys_mergedRoles, principalsFor, principalsFor,
    listedFor_mergedRoles]
  simp only [List.mem_dedup]

theorem readRbac_of_no_mapping {items : List Document}
    (h : ∃ d ∈ items, ∀ mapping, d ≠ .mapping mapping) :
    readRbac project (some (.list items)) =
      .error (.invalidSection (.rbac project) .rbacHoldsNoMapping) := by
  obtain ⟨d, hd, hnone⟩ := h
  have hfails : rbacMappings project (some (.list items)) =
      .error (.invalidSection (.rbac project) .rbacHoldsNoMapping) := by
    rw [rbacMappings]
    induction items with
    | nil => cases hd
    | cons first items ih =>
      rw [List.mapM_cons]
      cases first with
      | mapping entries =>
        have hrest : d ∈ items := (List.mem_cons.1 hd).resolve_left (hnone entries)
        rw [ih hrest]
        rfl
      | _ => rfl
  rw [readRbac, hfails]
  rfl

/-- **Role assignments are merged.** A list of mappings is accepted exactly if each of its mappings
is on its own. It then assigns to every role that some mapping names, even with an empty list, the
principals of the first mapping for that role, then those of the second one, and so on; no other
role is assigned anything. The one mapping with everything for each role gives the same assignments.
A list with something that is no mapping is refused because of that, whatever else is wrong. -/
theorem readRbac_merges (project : String) :
    (∀ mappings : List Entries,
      ((readRbac project (some (.list (mappings.map .mapping)))).isOk = true ↔
        ∀ mapping ∈ mappings, (readRbac project (some (.mapping mapping))).isOk = true) ∧
      ∀ rbac, readRbac project (some (.list (mappings.map .mapping))) = .ok rbac →
        (∀ role, rbac.get? role =
          if ∃ mapping ∈ mappings, role ∈ mapping.keys then
            some (mappings.flatMap (principalsFor role))
          else none) ∧
        readRbac project (some (.mapping (mergedRoles mappings))) = .ok rbac) ∧
    ∀ items : List Document, (∃ d ∈ items, ∀ mapping, d ≠ .mapping mapping) →
      readRbac project (some (.list items)) =
        .error (.invalidSection (.rbac project) .rbacHoldsNoMapping) := by
  refine ⟨fun mappings => ⟨isOk_readRbac_mappings_iff, fun rbac h => ⟨fun role => ?_, ?_⟩⟩,
    fun items => readRbac_of_no_mapping⟩
  · have hget := get?_of_addRoles ((readRbac_mappings project mappings).symm.trans h) role
    have hkeys : role ∈ Entries.keys mappings.flatten ↔
        ∃ mapping ∈ mappings, role ∈ mapping.keys := by
      simp [Entries.keys, List.map_flatten]
    rw [hget, principalsFor_flatten]
    simp only [hkeys]
  · exact readRbac_mergedRoles h

/-! ## Two teams -/

namespace Roster

/-- An entry of a role. -/
def entry (principal : Document) : Document := .mapping [("principal", principal)]

/-- The roles of two teams, which both have administrators; the first one has no readers yet. -/
def teams : List Entries := [
  [("reader", .list []), ("admin", .list [entry (.text "User:ann")])],
  [("admin", .list [entry (.integer 7), entry (.text "User:bob")])]]

/-- The same with a role that is no list, and a name in place of a mapping. -/
def broken : List Document := [.mapping [("admin", .text "everyone")], .text "admin"]

end Roster

/-- The administrators of both teams are assigned in order, and the name is what is reported. -/
theorem readRbac_merges_roster :
    (∀ mapping ∈ Roster.teams, (readRbac "pay" (some (.mapping mapping))).isOk = true) ∧
      (∃ rbac, readRbac "pay" (some (.list (Roster.teams.map .mapping))) = .ok rbac ∧
        rbac.get? "reader" = some [] ∧ rbac.get? "admin" = some ["User:ann", "7", "User:bob"] ∧
        rbac.get? "owner" = none ∧
        readRbac "pay" (some (.mapping (mergedRoles Roster.teams))) = .ok rbac) ∧
      (∃ d ∈ Roster.broken, ∀ mapping, d ≠ .mapping mapping) ∧
      readRbac "pay" (some (.list Roster.broken)) =
        .error (.invalidSection (.rbac "pay") .rbacHoldsNoMapping) := by
  obtain ⟨hlists, hfault⟩ := readRbac_merges "pay"
  obtain ⟨hok, hroles⟩ := hlists Roster.teams
  have hall : ∀ mapping ∈ Roster.teams, (readRbac "pay" (some (.mapping mapping))).isOk = true := by
    decide +kernel
  have hname : ∃ d ∈ Roster.broken, ∀ mapping, d ≠ .mapping mapping :=
    ⟨.text "admin", by simp [Roster.broken], nofun⟩
  obtain ⟨rbac, hrbac⟩ := Except.isOk_iff.1 (hok.2 hall)
  obtain ⟨hget, hmerged⟩ := hroles rbac hrbac
  have hreader := hget "reader"
  have hadmin := hget "admin"
  have howner := hget "owner"
  refine ⟨hall, ⟨rbac, hrbac, hreader.trans ?_, hadmin.trans ?_, howner.trans ?_, hmerged⟩, hname,
    hfault _ hname⟩ <;> decide +kernel

end Topology
end KafkaTopology
