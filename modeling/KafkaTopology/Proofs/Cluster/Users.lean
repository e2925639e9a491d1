import KafkaTopology.Proofs.Cluster.History
import KafkaTopology.Proofs.Cluster.Retry
import KafkaTopology.Proofs.Host.FileTree
import Mathlib.Data.List.Induction
/-!
# Users of accounts

Accounts are told apart by their principals. Their users are known to the cluster by what is left of
a principal without `User:` before it, so two accounts can share one user. A plan gives new accounts
their users first and takes the users of other accounts away last, with those that are shared.

* `Topology.users_after_eq_iff` — after an apply from a site where users and accounts agree, they
  agree again if and only if no account is given up whose user is that of a desired one.
* `Site.users_agree_iff` — so it is for every apply of a history. No user is ever left over.
* `Namesakes.user_lost` — an account that is renamed loses its user.
-/
namespace KafkaTopology

/-! ## One apply -/

namespace Topology

variable {t : Topology} {options : PlanOptions} {recorded : State} {w : World}

/-- Whether an account is given up whose user is that of a desired account. -/
def Displaces (t : Topology) (recorded : State) : Prop :=
  ∃ a ∈ recorded.accounts, (∀ b ∈ t.accounts, b.principal ≠ a.principal) ∧
    ∃ b ∈ t.accounts, Action.user b = Action.user a

theorem mem_newUsers (hmanaged : options.managesAccounts = true) {name : String} :
    name ∈ t.newUsers options recorded ↔
      ∃ b ∈ t.accounts, (∀ a ∈ recorded.accounts, a.principal ≠ b.principal) ∧
        Action.user b = name := by
  rw [newUsers, if_pos hmanaged, List.mem_map]
  exact exists_congr fun b => (and_congr_left fun _ => mem_diff_accounts).trans and_assoc

theorem mem_oldUsers (hmanaged : options.managesAccounts = true) {name : String} :
    name ∈ t.oldUsers options recorded ↔
      ∃ a ∈ recorded.accounts, (∀ b ∈ t.accounts, b.principal ≠ a.principal) ∧
        Action.user a = name := by
  rw [oldUsers, if_pos hmanaged, List.mem_map]
  exact exists_congr fun a => (and_congr_left fun _ => mem_diff_accounts).trans and_assoc

theorem mem_users_after {c : Circumstances} {name : String} :
    name ∈ (w.after (t.operations options c recorded)).users ↔
      (name ∈ w.users ∨ name ∈ t.newUsers options recorded) ∧
        name ∉ t.oldUsers options recorded := by
  rw [World.after_eq, userMarks_operations]
  exact Mark.mem_onAll_script

/-- If every user is that of an account, so it is after an apply. -/
theorem users_after_subset (hmanaged : options.managesAccounts = true) {c : Circumstances}
    (h : w.users ⊆ Action.user '' recorded.accounts.elements) :
    (w.after (t.operations options c recorded)).users ⊆ Action.user '' t.accounts.elements := by
  intro name hname
  obtain ⟨hname | hname, hkept⟩ := mem_users_after.1 hname
  · obtain ⟨a, ha, rfl⟩ := h hname
    by_contra hnot
    refine hkept ((mem_oldUsers hmanaged).2 ⟨a, ha, fun b hb heq => hnot ⟨b, hb, ?_⟩, rfl⟩)
    exact congrArg KafkaTools.userName heq
  · obtain ⟨b, hb, -, rfl⟩ := (mem_newUsers hmanaged).1 hname
    exact ⟨b, hb, rfl⟩

/-- **One apply.** If users and accounts agree, then they agree after an apply if and only if no
account is given up whose user is that of a desired account. -/
theorem users_after_eq_iff (hmanaged : options.managesAccounts = true) {c : Circumstances}
    (h : w.users = Action.user '' recorded.accounts.elements) :
    (w.after (t.operations options c recorded)).users = Action.user '' t.accounts.elements ↔
      ¬t.Displaces recorded := by
  constructor
  · rintro heq ⟨a, ha, hgone, b, hb, huser⟩
    have hlive : Action.user b ∈ Action.user '' t.accounts.elements := ⟨b, hb, rfl⟩
    rw [← heq, huser] at hlive
    exact (mem_users_after.1 hlive).2 ((mem_oldUsers hmanaged).2 ⟨a, ha, hgone, rfl⟩)
  · intro hnone
    refine Set.Subset.antisymm (users_after_subset hmanaged h.subset) ?_
    rintro _ ⟨b, hb, rfl⟩
    refine mem_users_after.2 ⟨?_, fun hold => ?_⟩
    · -- The account is a recorded one, or else a new one.
      by_cases hknown : ∃ a ∈ recorded.accounts, a.principal = b.principal
      · obtain ⟨a, ha, hprincipal⟩ := hknown
        rw [h]
        exact .inl ⟨a, ha, congrArg KafkaTools.userName hprincipal⟩
      · refine .inr ((mem_newUsers hmanaged).2 ⟨b, hb, fun a ha heq => ?_, rfl⟩)
        exact hknown ⟨a, ha, heq⟩
    · obtain ⟨a, ha, hgone, huser⟩ := (mem_oldUsers hmanaged).1 hold
      exact hnone ⟨a, ha, hgone, b, hb, huser.symm⟩

end Topology

/-! ## Histories -/

namespace Site

/-- A site after one more apply. -/
def next (s : Site) (u : Turn) : Site := (s.apply u.topology u.options u.circumstances).2

/-- A site after applies, in order. -/
def after (s : Site) (us : List Turn) : Site := us.foldl next s

/-- Every apply of a history succeeds. -/
def Succeeds (s : Site) (us : List Turn) : Prop :=
  ∀ done u, done ++ [u] <+: us → u.succeeds (s.after done).recorded = true

theorem image_user_empty : Action.user '' State.empty.accounts.elements = ∅ := by
  have hnone : State.empty.accounts.elements = ∅ :=
    Set.eq_empty_of_forall_notMem fun _ => List.not_mem_nil
  rw [hnone, Set.image_empty]

/-- Users and accounts agree. -/
def UsersAgree (s : Site) : Prop := s.world.users = Action.user '' s.recorded.accounts.elements

variable {s : Site} {us : List Turn} {u : Turn}

theorem after_concat (s : Site) (us : List Turn) (u : Turn) :
    s.after (us ++ [u]) = (s.after us).next u :=
  List.foldl_append

theorem succeeds_nil (s : Site) : s.Succeeds [] := fun _ _ h =>
  absurd (List.prefix_nil.1 h) (by simp)

theorem Succeeds.concat (h : s.Succeeds us) (hu : u.succeeds (s.after us).recorded = true) :
    s.Succeeds (us ++ [u]) := by
  intro done v hdone
  rcases List.prefix_concat_iff.1 hdone with heq | hbefore
  · obtain ⟨rfl, rfl⟩ := List.append_singleton_inj.1 heq
    exact hu
  · exact h done v hbefore

/-- A site after an apply that succeeded. -/
theorem next_eq (h : u.succeeds s.recorded = true) :
    s.next u = ⟨s.world.after (u.topology.operations u.options u.circumstances s.recorded),
      u.topology.settled u.options s.recorded⟩ := by
  obtain ⟨summary, houtcome⟩ : ∃ summary,
      (u.topology.apply u.options u.circumstances s.recorded).outcome = .ok summary := by
    rw [Turn.succeeds, Turn.applied] at h
    cases houtcome : (u.topology.apply u.options u.circumstances s.recorded).outcome with
    | ok summary => exact ⟨summary, rfl⟩
    | error e => rw [houtcome] at h; cases h
  exact apply_ok (Prod.ext houtcome rfl)

theorem users_settled (hmanaged : u.options.managesAccounts = true) (recorded : State) :
    Action.user '' (u.topology.settled u.options recorded).accounts.elements =
      Action.user '' u.topology.accounts.elements := by
  rw [Topology.settled, if_pos hmanaged, u.topology.image_user_preferring]

theorem users_next_subset (hmanaged : u.options.managesAccounts = true)
    (hok : u.succeeds s.recorded = true)
    (h : s.world.users ⊆ Action.user '' s.recorded.accounts.elements) :
    (s.next u).world.users ⊆ Action.user '' (s.next u).recorded.accounts.elements := by
  rw [next_eq hok, users_settled hmanaged]
  exact Topology.users_after_subset hmanaged h

theorem usersAgree_next_iff (hmanaged : u.options.managesAccounts = true)
    (hok : u.succeeds s.recorded = true) (h : s.UsersAgree) :
    (s.next u).UsersAgree ↔ ¬u.topology.Displaces s.recorded := by
  rw [UsersAgree, next_eq hok, users_settled hmanaged]
  exact Topology.users_after_eq_iff hmanaged h

/-- **Users of a history.** Begin with nothing on record and no user, and let every apply of a history
succeed, with accounts managed. Every user is at all times that of a recorded account. Users and
accounts agree after each apply if and only if none of the applies gives an account up whose user is
that of a desired account. -/
theorem users_agree_iff (husers : s.world.users = ∅) (hrecorded : s.recorded = .empty)
    (hmanaged : ∀ u ∈ us, u.options.managesAccounts = true) (hok : s.Succeeds us) :
    (∀ done, done <+: us → (s.after done).world.users ⊆
      Action.user '' (s.after done).recorded.accounts.elements) ∧
    ((∀ done, done <+: us → (s.after done).UsersAgree) ↔
      ∀ done u, done ++ [u] <+: us → ¬u.topology.Displaces (s.after done).recorded) := by
  induction us using List.reverseRecOn with
  | nil =>
    have hstart : s.UsersAgree := by
      rw [UsersAgree, husers, hrecorded, image_user_empty]
    refine ⟨fun done hdone => ?_, fun _ done u hdone => ?_, fun _ done hdone => ?_⟩
    · rw [List.prefix_nil.1 hdone]
      exact hstart.subset
    · exact absurd (List.prefix_nil.1 hdone) (by simp)
    · rw [List.prefix_nil.1 hdone]
      exact hstart
  | append_singleton us u ih =>
    have hlast : us ++ [u] <+: us ++ [u] := List.prefix_rfl
    have hfirst : us <+: us ++ [u] := List.prefix_append us [u]
    obtain ⟨hsubset, hagree⟩ := ih (fun v hv => hmanaged v (List.mem_append_left _ hv))
      fun done v hdone => hok done v (hdone.trans hfirst)
    have hon := hmanaged u (List.mem_append_right _ List.mem_cons_self)
    have hsucceeds := hok us u hlast
    refine ⟨fun done hdone => ?_, fun h done v hdone => ?_, fun h done hdone => ?_⟩
    · rcases List.prefix_concat_iff.1 hdone with rfl | hdone
      · rw [after_concat]
        exact users_next_subset hon hsucceeds (hsubset us List.prefix_rfl)
      · exact hsubset done hdone
    · rcases List.prefix_concat_iff.1 hdone with heq | hbefore
      · obtain ⟨rfl, rfl⟩ := List.append_singleton_inj.1 heq
        have hnext := h (done ++ [v]) hlast
        rw [after_concat] at hnext
        exact (usersAgree_next_iff hon hsucceeds (h done hfirst)).1 hnext
      · exact hagree.1 (fun d hd => h d (hd.trans hfirst)) done v hbefore
    · have hbefore := hagree.2 fun d v hd => h d v (hd.trans hfirst)
      rcases List.prefix_concat_iff.1 hdone with rfl | hdone
      · rw [after_concat]
        exact (usersAgree_next_iff hon hsucceeds (hbefore us List.prefix_rfl)).2 (h us u hlast)
      · exact hbefore done hdone

end Site

/-! ## Namesakes -/

namespace Namesakes

/-- A host that lasts for two calls. -/
def host : Host where
  files := ⟨[(["kafka-configs"], .file .binary true)]⟩
  environment := ⟨[("STREAMFORM_SCRAM_PASSWORD", "secret")], none⟩
  searchPath := [""]
  tools := fun calls _ => if calls.length < 2 then .success else .failure "timed out"
  servers := fun calls _ => if calls.length < 2 then .status 200 else .unreachable "timed out"
  clock := default
  consent := none
  output := ""
  calls := []

/-- The tools of the host. -/
def tools : KafkaTools := .ofConfig .standard host.environment

/-- A topology as it is written, in which one principal works with schemas. -/
def document (principal : String) : Document :=
  .mapping [
    ("context", .text "acme"),
    ("projects", .list [.mapping [
      ("name", .text "orders"),
      ("topics", .list []),
      ("schemas", .list [.mapping [("principal", .text principal)]])]])]

/-- The topology with that principal. -/
def topology (principal : String) : Topology where
  context := "acme"
  attributes := []
  separator := "."
  platform := ⟨none, none, none, none⟩
  projects := [
    { name := "orders"
      qualifiedName := "acme.orders"
      order := ["context"]
      consumers := none
      producers := none
      streams := none
      connectors := none
      schemas := some [⟨principal, []⟩]
      rbac := ∅
      topics := [] }]

theorem lasts_host : host.Lasts 2 := by
  intro made i
  by_cases hn : made.length < 2
  · cases i <;> simp only [Host.call, host, List.nil_append, hn, if_true] <;> rfl
  · cases i <;> simp only [Host.call, host, List.nil_append, hn, if_false] <;> rfl

/-- A command of the tool for accounts can be started. -/
theorem isOk_errand {c : Command} (htool : c.tool = "kafka-configs")
    (hplain : (c.tool :: c.arguments).all (fun word =>
      !word.toList.contains '\x00' && word.utf8ByteSize < 131072) = true) :
    (host.errand c).isOk = true := by
  have hstart : host.checkStartable "kafka-configs" = .ok () :=
    Host.checkStartable_plain (by decide) rfl rfl
  rw [Host.errand, Host.checkCommand_plain hplain, htool, hstart]
  rfl

/-- Two principals with one user. -/
def principals : List String := ["User:alice", "alice"]

theorem isOk_upsertErrand {p : String} (h : p ∈ principals) :
    (tools.upsertErrand host ⟨p, none⟩).isOk = true := by
  have hvariable : host.environment.get? tools.passwordVariable = some "secret" := by
    show Variables.get? ⟨[("STREAMFORM_SCRAM_PASSWORD", "secret")], none⟩ _ = _
    rfl
  have hplain : ∀ p ∈ principals, (((tools.upsertAccount ⟨p, none⟩ "secret").tool ::
      (tools.upsertAccount ⟨p, none⟩ "secret").arguments).all fun word =>
        !word.toList.contains '\x00' && word.utf8ByteSize < 131072) = true := by
    decide
  rw [KafkaTools.upsertErrand, hvariable]
  exact isOk_errand rfl (hplain p h)

theorem isOk_deleteErrand {p : String} (h : p ∈ principals) :
    (host.errand (tools.deleteAccount ⟨p, none⟩)).isOk = true := by
  have hplain : ∀ p ∈ principals, (((tools.deleteAccount ⟨p, none⟩).tool ::
      (tools.deleteAccount ⟨p, none⟩).arguments).all fun word =>
        !word.toList.contains '\x00' && word.utf8ByteSize < 131072) = true := by
    decide
  exact isOk_errand rfl (hplain p h)

/-- What an apply meets on the host. -/
def circumstances : Circumstances := ⟨.standard, host, none⟩

/-- Only accounts are managed beyond bindings. -/
def options : PlanOptions := ⟨false, true⟩

theorem succeeds_turn {t : Topology} {recorded : State}
    (herrands : ∀ e ∈ (t.actions options recorded).flatMap (·.errands .standard host),
      e.isOk = true)
    (hlength : (t.agenda options circumstances recorded).length ≤ 2) :
    Turn.succeeds ⟨t, options, circumstances⟩ recorded = true := by
  obtain ⟨-, houtcome⟩ := Topology.apply_of_lasts (c := circumstances) lasts_host rfl herrands
  rw [if_pos hlength] at houtcome
  obtain ⟨summary, hsummary⟩ := houtcome
  rw [Turn.succeeds, Turn.applied, hsummary]
  rfl

/-- The topology of one of the principals is applied. -/
def turn (principal : String) : Turn := ⟨topology principal, options, circumstances⟩

/-- An account is made, and then renamed. -/
def turns : List Turn := [turn "User:alice", turn "alice"]

theorem managed_turns : ∀ u ∈ turns, u.options.managesAccounts = true := by
  simp [turns, turn, options]

/-- Nothing is recorded and there is no user. -/
def start : Site := ⟨.holding ∅ .empty, .empty⟩

/-- What is recorded once the account is made. -/
def recorded : State := (topology "User:alice").settled options .empty

theorem succeeds_first : (turn "User:alice").succeeds .empty = true := by
  have hactions : (topology "User:alice").actions options .empty =
      [.createAccounts [⟨"User:alice", none⟩]] := rfl
  refine succeeds_turn ?_ ?_
  · rw [hactions]
    simp only [List.flatMap_cons, List.flatMap_nil, Action.errands, List.map_cons, List.map_nil,
      List.append_nil, List.forall_mem_singleton]
    exact isOk_upsertErrand (by decide)
  · rw [Topology.agenda, hactions]
    decide

theorem succeeds_second : (turn "alice").succeeds recorded = true := by
  have hactions : (topology "alice").actions options recorded =
      [.createAccounts [⟨"alice", none⟩], .clearAccounts [⟨"User:alice", none⟩]] := rfl
  refine succeeds_turn ?_ ?_
  · rw [hactions]
    simp only [List.flatMap_cons, List.flatMap_nil, Action.errands, List.map_cons, List.map_nil,
      List.cons_append, List.nil_append, List.forall_mem_cons]
    exact ⟨isOk_upsertErrand (by decide), isOk_deleteErrand (by decide), List.forall_mem_nil _⟩
  · rw [Topology.agenda, hactions]
    decide

theorem after_first :
    start.after [turn "User:alice"] =
      ⟨start.world.after ((topology "User:alice").operations options circumstances .empty),
        recorded⟩ := by
  have hstart : start.recorded = .empty := rfl
  have hnext := Site.next_eq (s := start) (u := turn "User:alice")
    (by rw [hstart]; exact succeeds_first)
  rw [hstart] at hnext
  exact hnext

theorem succeeds_turns : start.Succeeds turns := by
  refine ((Site.succeeds_nil start).concat (u := turn "User:alice") succeeds_first).concat
    (u := turn "alice") ?_
  show (turn "alice").succeeds (start.after [turn "User:alice"]).recorded = true
  rw [after_first]
  exact succeeds_second

/-- The account is given up under its old name. -/
theorem displaces : (topology "alice").Displaces recorded := by
  have hold : ⟨"User:alice", none⟩ ∈ recorded.accounts := List.mem_singleton.2 rfl
  have hnew : ⟨"alice", none⟩ ∈ (topology "alice").accounts := List.mem_singleton.2 rfl
  refine ⟨_, hold, fun b hb => ?_, _, hnew, by decide⟩
  obtain rfl : b = ⟨"alice", none⟩ := List.mem_singleton.1 hb
  decide

/-- An account that is renamed is recorded under its new name, but its user is gone. -/
theorem user_lost :
    Topology.ofDocument ⟨∅, "."⟩ (document "User:alice") = .ok (topology "User:alice") ∧
      Topology.ofDocument ⟨∅, "."⟩ (document "alice") = .ok (topology "alice") ∧
      start.world.users = ∅ ∧ start.recorded = .empty ∧
      (∀ u ∈ turns, u.options.managesAccounts = true) ∧ start.Succeeds turns ∧
      ⟨"alice", none⟩ ∈ (start.after turns).recorded.accounts ∧
      "alice" ∉ (start.after turns).world.users := by
  have hafter : start.after turns =
      ⟨(start.after [turn "User:alice"]).world.after
          ((topology "alice").operations options circumstances recorded),
        (topology "alice").settled options recorded⟩ := by
    have hok : (turn "alice").succeeds (start.after [turn "User:alice"]).recorded = true := by
      rw [after_first]
      exact succeeds_second
    show (start.after [turn "User:alice"]).next (turn "alice") = _
    rw [Site.next_eq hok, after_first]
    rfl
  rw [hafter]
  refine ⟨rfl, rfl, Site.image_user_empty, rfl, managed_turns, succeeds_turns,
    List.mem_singleton.2 rfl, ?_⟩
  have hold : "alice" ∈ (topology "alice").oldUsers options recorded := by decide
  exact fun hlive => (Topology.mem_users_after.1 hlive).2 hold

end Namesakes

/-- An account is made and renamed: users and accounts do not agree. -/
theorem Site.users_agree_iff_namesakes :
    Namesakes.start.Succeeds Namesakes.turns ∧
      (Namesakes.start.after Namesakes.turns).world.users ⊆
        Action.user '' (Namesakes.start.after Namesakes.turns).recorded.accounts.elements ∧
      ¬∀ done, done <+: Namesakes.turns → (Namesakes.start.after done).UsersAgree := by
  obtain ⟨hsubset, hiff⟩ := users_agree_iff image_user_empty rfl Namesakes.managed_turns
    Namesakes.succeeds_turns
  refine ⟨Namesakes.succeeds_turns, hsubset _ List.prefix_rfl, fun h => ?_⟩
  refine hiff.1 h [Namesakes.turn "User:alice"] (Namesakes.turn "alice") List.prefix_rfl ?_
  rw [Namesakes.after_first]
  exact Namesakes.displaces

end KafkaTopology
