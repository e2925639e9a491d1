import KafkaTopology.ConnectServers
import KafkaTopology.Proofs.Calls
/-!
# Errands

An errand is one call that is to be made, or what keeps it from being made. An attempt that
undertakes a list of errands (`Host.Undertakes`) makes their calls in order until one fails or is
kept from being made, and changes nothing else of the host. The predicate is closed under the ways
of putting attempts together.
-/
namespace KafkaTopology

/-- What a call asks for. -/
inductive Issue where
  | run (command : Command)
  | send (request : Request)
deriving BEq, Repr, Inhabited

/-- The status that says that there is nothing left to do for a request. -/
def Request.settled : Request → Nat
  | .post _ _ => 409
  | .delete _ => 404

namespace Call

/-- What the call asked for. -/
def issue : Call → Issue
  | .ran c _ => .run c
  | .sent r _ => .send r

/-- Whether the call ended well: a tool without a complaint, a request with a status below 400 or
with the one that says that there is nothing left to do. -/
def isSuccess : Call → Bool
  | .ran _ outcome => outcome == .success
  | .sent r (.status code) => decide (code < 400) || code == r.settled
  | .sent _ (.unreachable _) => false

end Call

/-- What keeps a call from being made. -/
inductive Hindrance where
  /-- The tool cannot be started. -/
  | start (reason : Host.StartError)
  /-- The variable with the password of new accounts is not set. -/
  | noPassword (name : String)
  /-- The request cannot be put together or sent. -/
  | connect (reason : ConnectError)
deriving DecidableEq, Repr

/-- A call to be made, or what keeps it from being made. -/
abbrev Errand := Except Hindrance Issue

/-! ## How far errands get -/

/-- Calls that are exactly the errands, and all ended well. -/
def Completed (errands : List Errand) (done : List Call) : Prop :=
  errands = done.map (fun c => .ok c.issue) ∧ ∀ c ∈ done, c.isSuccess = true

/-- Calls that end at an errand, with all errands before it completed. -/
inductive StopsAt (before : List Errand) : Errand → List Call → Prop
  | hindered {done : List Call} {e : Hindrance} (h : Completed before done) :
    StopsAt before (.error e) done
  | failed {done : List Call} {c : Call} (h : Completed before done) (hc : c.isSuccess = false) :
    StopsAt before (.ok c.issue) (done ++ [c])

/-- Calls that end at one of the errands. -/
def Stops (errands : List Errand) (done : List Call) : Prop :=
  ∃ before x after, errands = before ++ x :: after ∧ StopsAt before x done

variable {xs ys : List Errand} {done done' : List Call}

theorem Completed.nil : Completed [] [] := ⟨rfl, nofun⟩

theorem Completed.append (h : Completed xs done) (h' : Completed ys done') :
    Completed (xs ++ ys) (done ++ done') := by
  refine ⟨?_, fun c hc => ?_⟩
  · rw [List.map_append, ← h.1, ← h'.1]
  · rcases List.mem_append.1 hc with hc | hc
    · exact h.2 c hc
    · exact h'.2 c hc

theorem StopsAt.after {x : Errand} (h : Completed xs done) (h' : StopsAt ys x done') :
    StopsAt (xs ++ ys) x (done ++ done') := by
  cases h' with
  | hindered h' => exact .hindered (h.append h')
  | failed h' hc =>
    rw [← List.append_assoc]
    exact .failed (h.append h') hc

/-- The calls that ended well are the first of the errands. -/
theorem Stops.successes_prefix (h : Stops xs done) :
    (done.filter (·.isSuccess)).map (fun c => .ok c.issue) <+: xs := by
  obtain ⟨before, x, after, rfl, hstop⟩ := h
  cases hstop with
  | hindered h =>
    rw [List.filter_eq_self.2 h.2, ← h.1]
    exact List.prefix_append _ _
  | @failed done c h hc =>
    have hfailed : [c].filter (·.isSuccess) = [] := List.filter_eq_nil_iff.2 (by simp [hc])
    rw [List.filter_append, hfailed, List.append_nil, List.filter_eq_self.2 h.2, ← h.1]
    exact List.prefix_append _ _

theorem Stops.append_right (h : Stops xs done) (ys : List Errand) : Stops (xs ++ ys) done := by
  obtain ⟨before, x, after, rfl, hx⟩ := h
  exact ⟨before, x, after ++ ys, by simp, hx⟩

theorem Stops.after (h : Completed xs done) (h' : Stops ys done') :
    Stops (xs ++ ys) (done ++ done') := by
  obtain ⟨before, x, after, rfl, hx⟩ := h'
  exact ⟨xs ++ before, x, after, by simp, hx.after h⟩

/-! ## Undertaking errands -/

namespace Host

/-- The call that comes of what is asked for, after the calls so far. -/
def call (h : Host) (made : List Call) : Issue → Call
  | .run c => .ran c (h.tools made c)
  | .send r => .sent r (h.servers made r)

@[simp]
theorem issue_call (h : Host) (made : List Call) (i : Issue) : (h.call made i).issue = i := by
  cases i <;> rfl

/-- What was asked for by the calls that ended well, in order. -/
def completed (h : Host) : List Issue := (h.calls.filter (·.isSuccess)).map (·.issue)

/-- Every one of further calls ended as the tool or server makes it end after those before. -/
def Answers (h : Host) : List Call → List Call → Prop
  | _, [] => True
  | made, c :: done => c = h.call made c.issue ∧ h.Answers (made ++ [c]) done

theorem Answers.append {h : Host} {made done done' : List Call} (hdone : h.Answers made done)
    (hdone' : h.Answers (made ++ done) done') : h.Answers made (done ++ done') := by
  induction done generalizing made with
  | nil => rwa [List.append_nil] at hdone'
  | cons c done ih =>
    refine ⟨hdone.1, ih hdone.2 ?_⟩
    rwa [List.append_assoc]

/-- A host whose next `n` calls end well, and no call after them. -/
def Lasts (h : Host) (n : Nat) : Prop :=
  ∀ made i, (h.call (h.calls ++ made) i).isSuccess = decide (made.length < n)

theorem Lasts.isSuccess_getElem {h : Host} {n : Nat} (hlasts : h.Lasts n) {made done : List Call}
    (hdone : h.Answers (h.calls ++ made) done) {j : Nat} (hj : j < done.length) :
    done[j].isSuccess = decide (made.length + j < n) := by
  induction done generalizing made j with
  | nil => cases hj
  | cons c done ih =>
    obtain ⟨hc, hrest⟩ := hdone
    cases j with
    | zero =>
      rw [List.getElem_cons_zero, hc]
      exact hlasts made c.issue
    | succ j =>
      rw [List.append_assoc] at hrest
      rw [List.getElem_cons_succ, ih hrest (Nat.lt_of_succ_lt_succ hj), List.length_append,
        List.length_singleton, Nat.add_assoc, Nat.add_comm 1 j]

/-- Of the calls that a host takes, those up to its end are those that end well. -/
theorem Lasts.isSuccess_iff {h : Host} {n : Nat} (hlasts : h.Lasts n) {done : List Call}
    (hanswers : h.Answers h.calls done) {j : Nat} (hj : j < done.length) :
    done[j].isSuccess = true ↔ j < n := by
  rw [← List.append_nil h.calls] at hanswers
  rw [hlasts.isSuccess_getElem hanswers hj, decide_eq_true_eq, List.length_nil, Nat.zero_add]

/-- A host completes no more than it lasts for. -/
theorem Lasts.length_le {h : Host} {n : Nat} (hlasts : h.Lasts n) {done : List Call}
    (hanswers : h.Answers h.calls done) (hdone : Completed xs done) : done.length ≤ n := by
  refine Nat.le_of_not_lt fun hn => Nat.lt_irrefl n ?_
  exact (hlasts.isSuccess_iff hanswers hn).1 (hdone.2 _ (List.getElem_mem hn))

/-- A host fails at the call after those that it lasts for. -/
theorem Lasts.of_stopsAt {h : Host} {n : Nat} (hlasts : h.Lasts n) {done : List Call}
    (hanswers : h.Answers h.calls done) {e : Errand} (he : e.isOk = true)
    (hstop : StopsAt xs e done) :
    n = xs.length ∧ (done.filter (·.isSuccess)).length = n := by
  cases hstop with
  | hindered => cases he
  | @failed done c hdone hc =>
    have hlength : xs.length = done.length := by rw [hdone.1, List.length_map]
    have hend : ¬done.length < n := by
      rw [← hlasts.isSuccess_iff hanswers (by simp : done.length < (done ++ [c]).length)]
      simp [hc]
    have hbefore : ¬n < done.length := by
      intro hn
      have hn' : n < (done ++ [c]).length := by simp; omega
      refine Nat.lt_irrefl n ((hlasts.isSuccess_iff hanswers hn').1 ?_)
      rw [List.getElem_append_left hn]
      exact hdone.2 _ (List.getElem_mem hn)
    rw [List.filter_append, List.filter_eq_self.2 hdone.2, List.filter_cons, hc]
    simp only [Bool.false_eq_true, if_false, List.filter_nil, List.append_nil]
    omega

/-- The host after further calls. -/
def having (h : Host) (calls : List Call) : Host := { h with calls := h.calls ++ calls }

@[simp]
theorem having_nil (h : Host) : h.having [] = h := by
  rw [having, List.append_nil]

theorem completed_having (h : Host) (made : List Call) :
    (h.having made).completed = h.completed ++ (made.filter (·.isSuccess)).map (·.issue) := by
  rw [completed, having, List.filter_append, List.map_append, completed]

theorem having_having (h : Host) (made done : List Call) :
    (h.having made).having done = h.having (made ++ done) := by
  simp only [having, List.append_assoc]

/-- An attempt that makes the calls of its errands in order, up to the first that fails, whatever
was called before, and that leaves everything else of the host alone. -/
def Undertakes (h : Host) (errands : List Errand) (act : Attempt Host Unit) : Prop :=
  ∀ made, ∃ done, (act.on (h.having made)).2 = h.having (made ++ done) ∧
    h.Answers (h.calls ++ made) done ∧
    match (act.on (h.having made)).1 with
    | .ok () => Completed errands done
    | .error _ => Stops errands done

namespace Undertakes
variable {h : Host} {act act' : Attempt Host Unit}

theorem pure : Undertakes h [] (pure ()) := fun made =>
  ⟨[], by rw [List.append_nil]; rfl, trivial, Completed.nil⟩

/-- An attempt with one errand that is kept from being made. -/
theorem of_hindered {e : Hindrance} (hact : ∀ made, ∃ failure,
    act.on (h.having made) = (.error failure, h.having made)) : Undertakes h [.error e] act := by
  intro made
  obtain ⟨failure, hrun⟩ := hact made
  rw [hrun]
  exact ⟨[], by rw [List.append_nil], trivial, [], .error e, [], rfl, .hindered .nil⟩

/-- An attempt with one errand whose call is made. -/
theorem of_call {i : Issue} (hact : ∀ made,
    (act.on (h.having made)).2 = h.having (made ++ [h.call (h.calls ++ made) i]) ∧
      (act.on (h.having made)).1.isOk = (h.call (h.calls ++ made) i).isSuccess) :
    Undertakes h [.ok i] act := by
  intro made
  obtain ⟨hhost, hok⟩ := hact made
  have hissue := issue_call h (h.calls ++ made) i
  generalize hcall : h.call (h.calls ++ made) i = c at hhost hok hissue
  subst hissue
  refine ⟨[c], hhost, ⟨hcall.symm, trivial⟩, ?_⟩
  split
  · next hrun =>
    rw [hrun] at hok
    exact ⟨rfl, fun c' hc' => by rw [List.mem_singleton.1 hc', ← hok]; rfl⟩
  · next hrun =>
    rw [hrun] at hok
    exact ⟨[], .ok c.issue, [], rfl, .failed .nil hok.symm⟩

theorem bind (hx : Undertakes h xs act) (hy : Undertakes h ys act') :
    Undertakes h (xs ++ ys) (act >>= fun _ => act') := by
  intro made
  obtain ⟨done, hhost, hanswers, hx⟩ := hx made
  rcases hrun : act.on (h.having made) with ⟨e | ⟨⟩, w⟩
  · rw [hrun] at hhost hx
    rw [Attempt.on_bind_error hrun]
    exact ⟨done, hhost, hanswers, Stops.append_right hx ys⟩
  · rw [hrun] at hhost hx
    rw [Attempt.on_bind_ok hrun]
    obtain ⟨done', hhost', hanswers', hy⟩ := hy (made ++ done)
    simp only at hhost hx
    rw [← hhost] at hhost' hy
    rw [← List.append_assoc] at hanswers'
    refine ⟨done ++ done', by rw [hhost', List.append_assoc], hanswers.append hanswers', ?_⟩
    split
    · next hrun' =>
      rw [hrun'] at hy
      exact Completed.append hx hy
    · next hrun' =>
      rw [hrun'] at hy
      exact Stops.after hx hy

theorem forM {α : Type} {f : α → Attempt Host Unit} {errands : α → List Errand}
    (hf : ∀ a, Undertakes h (errands a) (f a)) (as : List α) :
    Undertakes h (as.flatMap errands) (as.forM f) := by
  induction as with
  | nil => exact pure
  | cons a as ih =>
    rw [List.flatMap_cons]
    exact (hf a).bind ih

theorem context (hx : Undertakes h xs act) (message : String) :
    Undertakes h xs (act.context message) := by
  intro made
  obtain ⟨done, hhost, hanswers, hx⟩ := hx made
  rw [Attempt.on_context]
  refine ⟨done, hhost, hanswers, ?_⟩
  rcases hrun : (act.on (h.having made)).1 with e | ⟨⟩ <;> rw [hrun] at hx <;> exact hx

end Undertakes
end Host
end KafkaTopology
