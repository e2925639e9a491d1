import KafkaTopology.Main
import KafkaTopology.Proofs.Calls
import KafkaTopology.Proofs.Except
import KafkaTopology.Proofs.Text.Octets
import Mathlib.Data.List.Forall2
/-!
# Hosts that differ in a secret

Two hosts are twins if they differ in the value of one variable alone, and if their tools and
servers react in the same way to commands that differ in a password alone. An attempt agrees on
twins if it ends in the same way on both of them and leaves twins behind (`Host.Agrees`). Nearly
every attempt of the program does so for the plain reason that it does not look at the variable; one
that does look makes commands that are counterparts of one another (`Command.Counterpart`), and
whatever is said about these is the same. If the values are no texts it fails on both hosts, with
reports that show them (`Failure.Counterpart`).
-/
namespace KafkaTopology

/-! ## Variables -/

namespace Variables

/-- Whether what is given for one name can show in what is given for another. An entry is one text,
and each of the equals signs in it ends a name. -/
def Meet (a b : String) : Prop :=
  (a ++ "=").toList <+: (b ++ "=").toList ∨ (b ++ "=").toList <+: (a ++ "=").toList

instance (a b : String) : Decidable (Meet a b) := inferInstanceAs (Decidable (_ ∨ _))

/-- Whether a path has no use for a variable. -/
def Unmentioned (secret path : String) : Prop := ∀ name ∈ namesIn path, ¬Meet secret name

/-- Variables that are the same but for the value of one that is set. -/
structure DifferIn (secret : String) (p q : VariableValue) (vs vs' : Variables) : Prop where
  accountHome : vs.accountHome = vs'.accountHome
  left : vs.value? secret = some p
  right : vs'.value? secret = some q
  others : ∀ name, ¬Meet secret name → vs.value? name = vs'.value? name

/-- Whether no location depends on a variable: it is none of those that locations are found by, and
none of the paths among these mentions it. -/
structure Spares (vs : Variables) (secret : String) : Prop where
  notLocation : ∀ name ∈ locationVariables, ¬Meet secret name
  unmentioned : ∀ own ∈ ["STREAMFORM_CONFIG_DIR", "STREAMFORM_STATE_DIR"], ∀ dir,
    vs.get? own = some dir → Unmentioned secret dir

section

variable {secret : String}

end

variable {secret : String} {p q : VariableValue} {vs vs' : Variables}

theorem valueOf?_congr {part : Part} (h : ∀ name default, part = .variable name default →
    vs.get? (String.ofList name) = vs'.get? (String.ofList name)) :
    vs.valueOf? part = vs'.valueOf? part := by
  cases part with
  | plain text => rfl
  | «variable» name default => rw [valueOf?, valueOf?, h name default rfl]

namespace DifferIn

variable (hvs : DifferIn secret p q vs vs')
include hvs

theorem get? {name : String} (h : ¬Meet secret name) : vs.get? name = vs'.get? name := by
  rw [Variables.get?, Variables.get?, hvs.others name h]

theorem home? (hspares : vs.Spares secret) : vs.home? = vs'.home? := by
  rw [Variables.home?, Variables.home?, hvs.get? (hspares.notLocation _ (by decide)),
    hvs.accountHome]

/-- A path that does not mention the variable is expanded to the same path. -/
theorem expand (hspares : vs.Spares secret) {path : String} (hpath : Unmentioned secret path) :
    vs.expand path = vs'.expand path := by
  have hvalue : ∀ part ∈ parts (path.toList.length + 1) path.toList,
      vs.valueOf? part = vs'.valueOf? part := by
    intro part hpart
    refine valueOf?_congr fun name default heq => hvs.get? (hpath _ ?_)
    rw [namesIn, List.mem_filterMap]
    exact ⟨part, hpart, by rw [heq]⟩
  have hparts : vs.substitute? path.toList = vs'.substitute? path.toList := by
    rw [substitute?, substitute?, List.mapM_congr_mem hvalue]
  have hexpand (text : List Char) : vs.expandHome text = vs'.expandHome text := by
    simp only [expandHome, hvs.home? hspares]
  simp only [Variables.expand, hparts, hexpand]

theorem directory? (hspares : vs.Spares secret) {own common : String}
    (hown : own ∈ ["STREAMFORM_CONFIG_DIR", "STREAMFORM_STATE_DIR"])
    (hcommon : common ∈ locationVariables) (inHome : List String) :
    vs.directory? own common inHome = vs'.directory? own common inHome := by
  have hlocation {name : String} (hname : name ∈ locationVariables) :
      vs.get? name = vs'.get? name :=
    hvs.get? (hspares.notLocation name hname)
  have hown' : own ∈ locationVariables := by
    rcases List.mem_pair.1 hown with rfl | rfl <;> decide
  rw [Variables.directory?, Variables.directory?, ← hlocation hown', ← hlocation hcommon,
    hvs.home? hspares]
  cases hdir : vs.get? own with
  | none => rfl
  | some dir => simp only [hvs.expand hspares (hspares.unmentioned own hown dir hdir)]

theorem configFile? (hspares : vs.Spares secret) : vs.configFile? = vs'.configFile? := by
  rw [Variables.configFile?, Variables.configFile?, configDirectory?, configDirectory?,
    hvs.directory? hspares (by decide) (by decide)]

theorem stateFile? (hspares : vs.Spares secret) : vs.stateFile? = vs'.stateFile? := by
  rw [Variables.stateFile?, Variables.stateFile?, stateDirectory?, stateDirectory?,
    hvs.directory? hspares (by decide) (by decide)]

end DifferIn
end Variables

/-! ## Commands and calls -/

/-- Commands that are the same but for the password that an account is given. -/
inductive Command.Counterpart (p q : VariableValue) : Command → Command → Prop
  | same (c : Command) : Counterpart p q c c
  | upsert (k : KafkaTools) (a : Account) {password password' : String}
    (hp : p = .text password) (hq : q = .text password') :
    Counterpart p q (k.upsertAccount a password) (k.upsertAccount a password')

/-- Calls that asked for counterparts and had the same outcome. -/
inductive Call.Counterpart (p q : VariableValue) : Call → Call → Prop
  | ran {c c' : Command} (h : c.Counterpart p q c') (outcome : Outcome) :
    Counterpart p q (.ran c outcome) (.ran c' outcome)
  | sent (r : Request) (answer : Answer) : Counterpart p q (.sent r answer) (.sent r answer)

/-- Failures that are the same but for the values that they show. These are no passwords because
they are no texts. -/
inductive Failure.Counterpart (p q : VariableValue) : Failure → Failure → Prop
  | same (f : Failure) : Counterpart p q f f
  | noPassword (k : KafkaTools) (hp : p.text? = none) (hq : q.text? = none) :
    Counterpart p q (k.noPassword (some p)) (k.noPassword (some q))
  | action (description : String) {f f' : Failure} (h : Counterpart p q f f') :
    Counterpart p q (PlanError.action description f).failure
      (PlanError.action description f').failure

namespace Text

theorem occursAmong_append (needle before after : List Char) :
    occursAmong needle (before ++ needle ++ after) = true := by
  induction before with
  | nil =>
    cases needle with
    | nil => cases after <;> rfl
    | cons c needle =>
      rw [List.nil_append, List.cons_append, occursAmong, ← List.cons_append,
        List.isPrefixOf_iff_prefix.2 (List.prefix_append _ _), Bool.true_or]
  | cons c before ih => rw [List.cons_append, List.cons_append, occursAmong, ih, Bool.or_true]

end Text

namespace Command.Counterpart

variable {p q : VariableValue} {c c' : Command}

theorem tool (h : c.Counterpart p q c') : c.tool = c'.tool := by cases h <;> rfl

/-- The argument with a password is hidden. -/
theorem redacted_password (password : String) :
    Host.redacted (KafkaTools.mechanism ++ "=[password=" ++ password ++ "]") = "<redacted>" := by
  refine if_pos ?_
  have hshape : (KafkaTools.mechanism ++ "=[password=" ++ password ++ "]").toList =
      "SCRAM-SHA-512=[".toList ++ "password=".toList ++ (password.toList ++ "]".toList) := by
    simp [KafkaTools.mechanism]
  rw [Text.occursIn, hshape]
  exact Text.occursAmong_append _ _ _

/-- Counterparts are shown alike. -/
theorem shown (h : c.Counterpart p q c') : Host.shownCommand c = Host.shownCommand c' := by
  cases h with
  | same => rfl
  | upsert k a =>
    simp only [Host.shownCommand, KafkaTools.upsertAccount, KafkaTools.changeAccount,
      KafkaTools.command, List.map_append, List.map_cons, redacted_password]

end Command.Counterpart

/-! ## Twins -/

namespace Host

/-- Hosts that differ in the value of one variable alone, whose tools and servers react in the same
way to counterparts, and where the same happened so far but for the passwords. -/
structure Twins (secret : String) (p q : VariableValue) (h h' : Host) : Prop where
  files : h.files = h'.files
  searchPath : h.searchPath = h'.searchPath
  environments : h.environment.DifferIn secret p q h'.environment
  consent : h.consent = h'.consent
  output : h.output = h'.output
  calls : List.Forall₂ (Call.Counterpart p q) h.calls h'.calls
  starts : ∀ c c', Command.Counterpart p q c c' → h.checkCommand c = h'.checkCommand c'
  tools : ∀ made made' c c', List.Forall₂ (Call.Counterpart p q) made made' →
    Command.Counterpart p q c c' → h.tools made c = h'.tools made' c'
  servers : ∀ made made' r, List.Forall₂ (Call.Counterpart p q) made made' →
    h.servers made r = h'.servers made' r

section

variable {secret : String} {p q : VariableValue} {α β : Type} {h h' : Host}

theorem Twins.say (ht : Twins secret p q h h') (text : String) :
    Twins secret p q { h with output := h.output ++ text }
      { h' with output := h'.output ++ text } :=
  { ht with output := congrArg (· ++ text) ht.output }

theorem Twins.call (ht : Twins secret p q h h') {c c' : Call} (hc : c.Counterpart p q c') :
    Twins secret p q { h with calls := h.calls ++ [c] } { h' with calls := h'.calls ++ [c'] } :=
  { ht with calls := List.rel_append ht.calls (.cons hc .nil) }

/-- Whether two attempts end in the same way on two hosts, but for values that are shown, and leave
twins. -/
def AgreeOn (secret : String) (p q : VariableValue) (h h' : Host) (x y : Attempt Host α) : Prop :=
  (x.on h).1.Alike (Failure.Counterpart p q) (y.on h').1 ∧
    Twins secret p q (x.on h).2 (y.on h').2

theorem AgreeOn.of_eq {x y : Attempt Host α} (hout : (x.on h).1 = (y.on h').1)
    (hw : Twins secret p q (x.on h).2 (y.on h').2) : AgreeOn secret p q h h' x y :=
  ⟨.of_eq .same hout, hw⟩

/-- An attempt that agrees on all twins. -/
def Agrees (secret : String) (p q : VariableValue) (x : Attempt Host α) : Prop :=
  ∀ h h', Twins secret p q h h' → AgreeOn secret p q h h' x x

theorem AgreeOn.bind {x y : Attempt Host α} {f g : α → Attempt Host β}
    (hx : AgreeOn secret p q h h' x y)
    (hf : ∀ a w w', Twins secret p q w w' → AgreeOn secret p q w w' (f a) (g a)) :
    AgreeOn secret p q h h' (x >>= f) (y >>= g) := by
  obtain ⟨hout, hw⟩ := hx
  rcases hrun : x.on h with ⟨e | a, w⟩ <;> rcases hrun' : y.on h' with ⟨e' | a', w'⟩ <;>
    rw [hrun, hrun'] at hout hw <;> cases hout
  · rename_i hfailure
    rw [AgreeOn, Attempt.on_bind_error hrun, Attempt.on_bind_error hrun']
    exact ⟨.error hfailure, hw⟩
  · rw [AgreeOn, Attempt.on_bind_ok hrun, Attempt.on_bind_ok hrun']
    exact hf a w w' hw

namespace Agrees

theorem pure (a : α) : Agrees secret p q (pure a : Attempt Host α) :=
  fun _ _ ht => .of_eq rfl ht

theorem throw (f : Failure) : Agrees secret p q (throw f : Attempt Host α) :=
  fun _ _ ht => .of_eq rfl ht

theorem bind {x : Attempt Host α} {f : α → Attempt Host β} (hx : Agrees secret p q x)
    (hf : ∀ a, Agrees secret p q (f a)) : Agrees secret p q (x >>= f) :=
  fun h h' ht => (hx h h' ht).bind fun a => hf a

theorem forM {f : α → Attempt Host Unit} (hf : ∀ a, Agrees secret p q (f a)) (xs : List α) :
    Agrees secret p q (xs.forM f) := by
  induction xs with
  | nil => exact pure ()
  | cons x xs ih => exact bind (hf x) fun _ => ih

theorem print (lines : List String) : Agrees secret p q (print lines) :=
  fun _ _ ht => .of_eq rfl (ht.say _)

end Agrees

/-! ## Tools -/

/-- Counterparts end in the same way. -/
theorem execute_counterpart {c c' : Command} (hc : c.Counterpart p q c')
    (ht : Twins secret p q h h') :
    ((execute c).on h).1 = ((execute c').on h').1 ∧
      Twins secret p q ((execute c).on h).2 ((execute c').on h').2 := by
  rw [execute_on, execute_on, ht.starts c c' hc]
  rcases h'.checkCommand c' with e | ⟨⟩
  · exact ⟨by rw [hc.shown], ht⟩
  · rw [ht.tools _ _ c c' ht.calls hc]
    exact ⟨by rw [hc.tool], ht.call (.ran hc _)⟩

end
end Host

namespace KafkaTools

variable {secret : String} {p q : VariableValue} (k : KafkaTools)

theorem agreeOn_run (message : String) {c c' : Command} (hc : c.Counterpart p q c') {h h' : Host}
    (ht : Host.Twins secret p q h h') :
    Host.AgreeOn secret p q h h' (run message c) (run message c') := by
  obtain ⟨hout, hw⟩ := Host.execute_counterpart hc ht
  refine .of_eq ?_ ?_
  · rw [run, run, Attempt.on_context, Attempt.on_context, hout]
  · rw [run, run, Attempt.on_context, Attempt.on_context]
    exact hw

theorem agrees_run (message : String) (c : Command) : Host.Agrees secret p q (run message c) :=
  fun _ _ ht => agreeOn_run message (.same c) ht

theorem agrees_syncTopic (name : String) (config : OrderedMap String String) :
    Host.Agrees secret p q (k.syncTopic name config) := by
  refine .bind (agrees_run _ _) fun _ => ?_
  cases k.alterTopic? name config with
  | none => exact .pure ()
  | some c => exact agrees_run _ c

/-- The one place where the variable is looked at: what follows from it are counterparts. -/
theorem agrees_createAccount (hkind : p.text?.isSome = q.text?.isSome)
    (hname : Variables.Meet secret k.passwordVariable → k.passwordVariable = secret)
    (a : Account) : Host.Agrees secret p q (k.createAccount a) := by
  intro h h' ht
  have hrun (password password' : String)
      (hc : (k.upsertAccount a password).Counterpart p q (k.upsertAccount a password'))
      (hleft : k.password.on h = (.ok password, h))
      (hright : k.password.on h' = (.ok password', h')) :
      Host.AgreeOn secret p q h h' (k.createAccount a) (k.createAccount a) := by
    rw [Host.AgreeOn, createAccount, Attempt.on_bind_ok hleft, Attempt.on_bind_ok hright]
    exact agreeOn_run _ hc ht
  have hfail {f f' : Failure} (hf : f.Counterpart p q f')
      (hleft : k.password.on h = (.error f, h)) (hright : k.password.on h' = (.error f', h')) :
      Host.AgreeOn secret p q h h' (k.createAccount a) (k.createAccount a) := by
    rw [Host.AgreeOn, createAccount, Attempt.on_bind_error hleft, Attempt.on_bind_error hright]
    exact ⟨.error hf, ht⟩
  have hleft := k.password_on h
  have hright := k.password_on h'
  by_cases hsecret : k.passwordVariable = secret
  · have hp : h.environment.get? k.passwordVariable = p.text? := by
      rw [Variables.get?, hsecret, ht.environments.left, Option.bind_some]
    have hq : h'.environment.get? k.passwordVariable = q.text? := by
      rw [Variables.get?, hsecret, ht.environments.right, Option.bind_some]
    rw [hp, hsecret, ht.environments.left] at hleft
    rw [hq, hsecret, ht.environments.right] at hright
    cases p with
    | text password =>
      cases q with
      | text password' => exact hrun password password' (.upsert k a rfl rfl) hleft hright
      | octets => cases hkind
    | octets =>
      cases q with
      | text => cases hkind
      | octets => exact hfail (.noPassword k rfl rfl) hleft hright
  · have hother := mt hname hsecret
    rw [← ht.environments.get? hother, ← ht.environments.others _ hother] at hright
    cases hget : h.environment.get? k.passwordVariable with
    | some password =>
      rw [hget] at hleft hright
      exact hrun password password (.same _) hleft hright
    | none =>
      rw [hget] at hleft hright
      exact hfail (.same _) hleft hright

end KafkaTools

/-! ## Requests -/

namespace ConnectServers

variable {secret : String} {p q : VariableValue} {h h' : Host}

theorem agree_send (ht : Host.Twins secret p q h h') (r : Request) (url : String) (done : Nat) :
    ((send r url done).run.run h).1 = ((send r url done).run.run h').1 ∧
      Host.Twins secret p q ((send r url done).run.run h).2 ((send r url done).run.run h').2 := by
  rw [send_run, send_run, ht.servers _ _ r ht.calls]
  cases Url.ofText url with
  | error reason => exact ⟨rfl, ht⟩
  | ok _ => exact ⟨rfl, ht.call (.sent r _)⟩

theorem agrees_createConnector (servers : ConnectServers) (a : Artefact) :
    Host.Agrees secret p q (servers.createConnector a) := by
  intro h h' ht
  rw [Host.AgreeOn, createConnector, attempt_on, attempt_on, create_run, create_run, ht.files]
  rcases h'.files.readText a.path with reason | text
  · exact ⟨.of_eq .same rfl, ht⟩
  dsimp only
  rcases Document.ofJson? text with - | definition
  · exact ⟨.of_eq .same rfl, ht⟩
  dsimp only
  rcases servers.connectorsUrl a with e | url
  · exact ⟨.of_eq .same rfl, ht⟩
  · obtain ⟨hout, hw⟩ := agree_send ht (.post url definition) url 409
    exact ⟨.of_eq .same (by rw [hout]), hw⟩

theorem agrees_deleteConnector (servers : ConnectServers) (a : Artefact) :
    Host.Agrees secret p q (servers.deleteConnector a) := by
  intro h h' ht
  rw [Host.AgreeOn, deleteConnector, attempt_on, attempt_on, delete_run, delete_run]
  rcases servers.connectorUrl a with e | url
  · exact ⟨.of_eq .same rfl, ht⟩
  · obtain ⟨hout, hw⟩ := agree_send ht (.delete url) url 404
    exact ⟨.of_eq .same (by rw [hout]), hw⟩

end ConnectServers

/-- Every action agrees on twins. -/
theorem Action.agrees_run {secret : String} {p q : VariableValue}
    (hkind : p.text?.isSome = q.text?.isSome) {c : Config}
    (hname : Variables.Meet secret c.manage.scramPasswordEnv →
      c.manage.scramPasswordEnv = secret)
    (environment : Variables) (a : Action) :
    Host.Agrees secret p q (a.run (c.admin environment)) := by
  cases a with
  | syncTopic name config => exact KafkaTools.agrees_syncTopic _ name config
  | deleteTopics names => exact .forM (fun _ => KafkaTools.agrees_run _ _) names
  | createBindings bs => exact .forM (fun _ => KafkaTools.agrees_run _ _) bs
  | clearBindings bs => exact .forM (fun _ => KafkaTools.agrees_run _ _) bs
  | createAccounts accounts => exact .forM (KafkaTools.agrees_createAccount _ hkind hname) accounts
  | clearAccounts accounts => exact .forM (fun _ => KafkaTools.agrees_run _ _) accounts
  | createArtefact a => exact ConnectServers.agrees_createConnector _ a
  | deleteArtefact a => exact ConnectServers.agrees_deleteConnector _ a

end KafkaTopology
