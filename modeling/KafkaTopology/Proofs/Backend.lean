import KafkaTopology.Proofs.Host.FileTree
import KafkaTopology.Proofs.Plan.Run
import KafkaTopology.Proofs.StateFile.Keeping
/-!
# Backends on file and in memory

A `Station` is a backend with the world of its medium, and is called in any order at any time. A
station on file mirrors one in memory as long as both have the same entries staged and the file
keeps what the memory stores (`Station.Mirrors`). Every call keeps that up, so no history of calls
tells the two apart (`file_mirrors_memory`).
-/
namespace KafkaTopology

/-- A call of a backend. -/
inductive BackendCall where
  | load
  | reset
  | addTopics (names : List String)
  | addBindings (bindings : List Acl.Binding)
  | addAccounts (accounts : List Account)
  | addArtefacts (artefacts : List Artefact)
  | flush
deriving DecidableEq, Repr

/-- A backend with the world of its medium. -/
structure Station (ω : Type) where
  backend : Backend
  world : ω

namespace Station

variable {ω α : Type}

/-- An attempt on the world. -/
def outer (a : Attempt ω α) : Attempt (Station ω) α :=
  ExceptT.mk fun st => ((a.on st.world).1, { st with world := (a.on st.world).2 })

/-- A change of the backend that does not use the medium. -/
def stage (change : Backend → Backend) : Attempt (Station ω) Unit :=
  modifyThe (Station ω) fun st => { st with backend := change st.backend }

/-- A change of the backend that uses the medium. -/
def exchange (change : Backend → Attempt ω Backend) : Attempt (Station ω) Unit := do
  let b ← outer (change (← getThe (Station ω)).backend)
  stage fun _ => b

/-- Carries a call out. -/
def perform (medium : Medium ω) : BackendCall → Attempt (Station ω) Unit
  | .load => exchange (Backend.load medium)
  | .reset => stage Backend.reset
  | .addTopics names => stage (·.addTopics names)
  | .addBindings bs => stage (·.addBindings bs)
  | .addAccounts accounts => stage (·.addAccounts accounts)
  | .addArtefacts artefacts => stage (·.addArtefacts artefacts)
  | .flush => exchange (Backend.flush medium)

/-- Carries calls out, each at its time, and answers with their outcomes. -/
def performAll (medium : Medium ω) (wait : Timestamp → ω → ω) :
    List (Timestamp × BackendCall) → Station ω → List (Except Failure Unit) × Station ω
  | [], st => ([], st)
  | (t, call) :: rest, st =>
    let (outcome, st) := (perform medium call).on { st with world := wait t st.world }
    let (outcomes, st) := performAll medium wait rest st
    (outcome :: outcomes, st)

/-- The calls of a backend on file. The clock of the host shows the time of each. -/
def onFile (path : String) (history : List (Timestamp × BackendCall)) (st : Station Host) :
    List (Except Failure Unit) × Station Host :=
  performAll (StateFile.medium path) (fun t h => { h with clock := t }) history st

/-- The medium of a world that is a memory store. -/
def memory : Medium MemoryStore := MemoryStore.medium id fun m _ => m

/-- The calls of a backend in memory. -/
def inMemory (history : List (Timestamp × BackendCall)) (st : Station MemoryStore) :
    List (Except Failure Unit) × Station MemoryStore :=
  performAll memory (fun _ m => m) history st

theorem on_outer (a : Attempt ω α) (st : Station ω) :
    (outer a).on st = ((a.on st.world).1, { st with world := (a.on st.world).2 }) := rfl

/-- The backend changes only if the medium does what it is asked for. -/
theorem on_exchange (change : Backend → Attempt ω Backend) (st : Station ω) :
    (exchange change).on st =
      match (change st.backend).on st.world with
      | (.ok b, w) => (.ok (), ⟨b, w⟩)
      | (.error e, w) => (.error e, ⟨st.backend, w⟩) := by
  rw [exchange, Attempt.on_bind_ok (Attempt.on_get st), Attempt.on_bind, on_outer]
  rcases (change st.backend).on st.world with ⟨e | b, w⟩ <;> rfl

theorem on_load (medium : Medium ω) (st : Station ω) :
    (perform medium .load).on st =
      match medium.fetch.on st.world with
      | (.ok s, w) => (.ok (), ⟨⟨s.state, s.writtenAt⟩, w⟩)
      | (.error e, w) => (.error e, ⟨st.backend, w⟩) := by
  rw [perform, on_exchange, Backend.load, Attempt.on_bind]
  rcases medium.fetch.on st.world with ⟨e | s, w⟩ <;> rfl

theorem on_flush (medium : Medium ω) (st : Station ω) :
    (perform medium .flush).on st =
      match (medium.save st.backend.staged).on st.world with
      | (.ok writtenAt, w) => (.ok (), ⟨⟨st.backend.staged, writtenAt⟩, w⟩)
      | (.error e, w) => (.error e, ⟨st.backend, w⟩) := by
  rw [perform, on_exchange, Backend.flush, Attempt.on_bind]
  rcases (medium.save st.backend.staged).on st.world with ⟨e | writtenAt, w⟩ <;> rfl

/-- A call that fails leaves the backend. -/
theorem backend_perform {medium : Medium ω} {call : BackendCall} {st : Station ω}
    (h : ((perform medium call).on st).1.isOk = false) :
    ((perform medium call).on st).2.backend = st.backend := by
  have hexchange (change : Backend → Attempt ω Backend)
      (h : ((exchange change).on st).1.isOk = false) :
      ((exchange change).on st).2.backend = st.backend := by
    rw [on_exchange] at h ⊢
    rcases hrun : (change st.backend).on st.world with ⟨e | b, w⟩
    · rfl
    · rw [hrun] at h
      cases h
  cases call with
  | load => exact hexchange _ h
  | flush => exact hexchange _ h
  | _ => cases h

/-- A load fails if the file keeps no state. -/
theorem isOk_load_file {path : String} {st : Station Host} :
    ((perform (StateFile.medium path) .load).on st).1.isOk =
      (StateFile.kept? path st.world.files).isSome := by
  rw [on_load]
  rcases hkept : StateFile.kept? path st.world.files with - | s
  · obtain ⟨e, hfetch⟩ := StateFile.fetch_unkept hkept
    rw [hfetch]
    rfl
  · obtain ⟨writtenAt, hfetch⟩ := StateFile.fetch_kept hkept
    rw [hfetch]
    rfl

/-- A flush fails if the file cannot be written. -/
theorem isOk_flush_file {path : String} {st : Station Host} :
    ((perform (StateFile.medium path) .flush).on st).1.isOk =
      StateFile.isWritable path st.world.files := by
  rw [on_flush]
  cases hwritable : StateFile.isWritable path st.world.files with
  | false =>
    obtain ⟨e, hsave⟩ := StateFile.save_unwritable hwritable st.backend.staged
    rw [hsave]
    rfl
  | true =>
    obtain ⟨files, hsave, -⟩ := StateFile.save_writable hwritable st.backend.staged
    rw [hsave]
    rfl

/-! ## Mirrors -/

/-- A station on file has staged what a station in memory has, and its file keeps what the memory
stores; it can be written if it has to be. -/
structure Mirrors (path : String) (written : Prop) (file : Station Host)
    (memory : Station MemoryStore) : Prop where
  staged : file.backend.staged = memory.backend.staged
  kept : StateFile.kept? path file.world.files = some memory.world.stored
  writable : written → StateFile.isWritable path file.world.files = true
  loads : memory.world.loadRefusal = none
  flushes : memory.world.flushRefusal = none

/-- A call has succeeded on both sides, and the station on file mirrors the other. -/
def InStep (path : String) (written : Prop) (file : Except Failure Unit × Station Host)
    (memory : Except Failure Unit × Station MemoryStore) : Prop :=
  file.1 = .ok () ∧ memory.1 = .ok () ∧ Mirrors path written file.2 memory.2

section
variable {path : String} {written : Prop} {f : Station Host} {m : Station MemoryStore}

/-- A change of what is staged. -/
theorem Mirrors.stage (h : Mirrors path written f m) {change : Backend → Backend}
    (add : State → State) (hchange : ∀ b, (change b).staged = add b.staged) :
    InStep path written ((stage change).on f) ((stage change).on m) := by
  have hstaged : (change f.backend).staged = (change m.backend).staged := by
    rw [hchange, hchange, h.staged]
  exact ⟨rfl, rfl, hstaged, h.kept, h.writable, h.loads, h.flushes⟩

theorem Mirrors.load (h : Mirrors path written f m) :
    InStep path written ((perform (StateFile.medium path) .load).on f)
      ((perform memory .load).on m) := by
  obtain ⟨writtenAt, hfile⟩ := StateFile.fetch_kept h.kept
  have hmemory : memory.fetch.on m.world = (.ok ⟨m.world.stored, none⟩, m.world) := by
    rw [memory, MemoryStore.medium, Attempt.on_bind_ok (Attempt.on_get m.world)]
    simp only [id, h.loads]
    rfl
  rw [on_load, on_load, hfile, hmemory]
  exact ⟨rfl, rfl, rfl, h.kept, h.writable, h.loads, h.flushes⟩

theorem Mirrors.flush (h : Mirrors path written f m) (hwritten : written)
    (hclock : f.world.clock.IsInstant) :
    InStep path written ((perform (StateFile.medium path) .flush).on f)
      ((perform memory .flush).on m) := by
  obtain ⟨files, hfile, hkept, hwritable⟩ :=
    StateFile.save_writable (h.writable hwritten) f.backend.staged
  have hmemory : (memory.save m.backend.staged).on m.world =
      (.ok none, { m.world with stored := m.backend.staged, flushes := m.world.flushes + 1 }) := by
    rw [memory, MemoryStore.medium]
    simp only
    rw [Attempt.on_bind_ok (Attempt.on_get m.world)]
    simp only [id, h.flushes]
    rfl
  rw [on_flush, on_flush, hfile, hmemory]
  exact ⟨rfl, rfl, h.staged, h.staged ▸ hkept hclock, fun _ => hwritable, h.loads, h.flushes⟩

/-- One call. -/
theorem Mirrors.perform (h : Mirrors path written f m) {call : BackendCall}
    (hwritten : call = .flush → written) (hclock : f.world.clock.IsInstant) :
    InStep path written ((perform (StateFile.medium path) call).on f)
      ((perform memory call).on m) := by
  cases call with
  | load => exact h.load
  | reset => exact h.stage (fun _ => .empty) fun _ => rfl
  | addTopics names => exact h.stage (·.addTopics names) fun _ => rfl
  | addBindings bs => exact h.stage (·.addBindings bs) fun _ => rfl
  | addAccounts accounts => exact h.stage (·.addAccounts accounts) fun _ => rfl
  | addArtefacts artefacts => exact h.stage (·.addArtefacts artefacts) fun _ => rfl
  | flush => exact h.flush (hwritten rfl) hclock

/-- A history of calls. -/
theorem Mirrors.performAll (h : Mirrors path written f m)
    {history : List (Timestamp × BackendCall)}
    (hwritten : ∀ e ∈ history, e.2 = .flush → written) (hclock : ∀ e ∈ history, e.1.IsInstant) :
    (∀ outcome ∈ (onFile path history f).1, outcome = .ok ()) ∧
      (∀ outcome ∈ (inMemory history m).1, outcome = .ok ()) ∧
      Mirrors path written (onFile path history f).2 (inMemory history m).2 := by
  induction history generalizing f m with
  | nil => exact ⟨nofun, nofun, h⟩
  | cons e history ih =>
    obtain ⟨t, call⟩ := e
    obtain ⟨hwritten₁, hwritten⟩ := List.forall_mem_cons.1 hwritten
    obtain ⟨hclock₁, hclock⟩ := List.forall_mem_cons.1 hclock
    have hnow : Mirrors path written { f with world := { f.world with clock := t } } m :=
      ⟨h.staged, h.kept, h.writable, h.loads, h.flushes⟩
    obtain ⟨hfile, hmemory, hnext⟩ := hnow.perform hwritten₁ hclock₁
    obtain ⟨hfiles, hmemories, hlast⟩ := ih hnext hwritten hclock
    exact ⟨List.forall_mem_cons.2 ⟨hfile, hfiles⟩, List.forall_mem_cons.2 ⟨hmemory, hmemories⟩,
      hlast⟩

end

/-! ## The file as good as memory -/

/-- **A backend on file is as good as one in memory.** Both begin with the same entries staged, the
file keeps the state that the memory stores, it can be written if it is flushed at all, and the
clock shows instants of the calendar. Then after any number of calls all have succeeded on both
sides, the two backends have the same size and the same snapshot, and the file keeps what the memory
stores. A load fails exactly if the file keeps no state, a flush exactly if the file cannot be
written, and no call that fails changes the backend. -/
theorem file_mirrors_memory (path : String) {S : State} {h : Host}
    {history : List (Timestamp × BackendCall)} (hkept : StateFile.kept? path h.files = some S)
    (hwritable : (∃ e ∈ history, e.2 = .flush) → StateFile.isWritable path h.files = true)
    (hclock : ∀ e ∈ history, e.1.IsInstant) (b : Backend) (flushes : Nat) :
    (∀ n,
      let file := onFile path (history.take n) ⟨b, h⟩
      let memory := inMemory (history.take n) ⟨b, ⟨S, flushes, none, none⟩⟩
      (∀ outcome ∈ file.1, outcome = .ok ()) ∧ (∀ outcome ∈ memory.1, outcome = .ok ()) ∧
      file.2.backend.size = memory.2.backend.size ∧
      file.2.backend.snapshot = memory.2.backend.snapshot ∧
      StateFile.kept? path file.2.world.files = some memory.2.world.stored) ∧
    ∀ st : Station Host,
      ((perform (StateFile.medium path) .load).on st).1.isOk =
        (StateFile.kept? path st.world.files).isSome ∧
      ((perform (StateFile.medium path) .flush).on st).1.isOk =
        StateFile.isWritable path st.world.files ∧
      ∀ call, ((perform (StateFile.medium path) call).on st).1.isOk = false →
        ((perform (StateFile.medium path) call).on st).2.backend = st.backend := by
  refine ⟨fun n => ?_, fun st => ⟨isOk_load_file, isOk_flush_file, fun call => backend_perform⟩⟩
  have hstart : Mirrors path (∃ e ∈ history, e.2 = .flush) ⟨b, h⟩ ⟨b, ⟨S, flushes, none, none⟩⟩ :=
    ⟨rfl, hkept, hwritable, rfl, rfl⟩
  have hpast : ∀ e ∈ history.take n, e ∈ history := fun e he => List.mem_of_mem_take he
  obtain ⟨hfile, hmemory, hend⟩ := hstart.performAll
    (fun e he hflush => ⟨e, hpast e he, hflush⟩) (fun e he => hclock e (hpast e he))
  refine ⟨hfile, hmemory, ?_, ?_, hend.kept⟩
  · rw [Backend.size, Backend.size, hend.staged]
  · rw [Backend.snapshot_eq, Backend.snapshot_eq, hend.staged]

end Station

/-! ## A history -/

namespace Visit

/-- A working directory without files. -/
def host : Host where
  files := .empty
  environment := ⟨[], none⟩
  searchPath := []
  tools := fun _ _ => .success
  servers := fun _ _ => .unreachable "no servers"
  clock := ⟨1767225600, 0⟩
  consent := none
  output := ""
  calls := []

/-- A topic and an account are stored, forgotten and loaded again. -/
def history : List (Timestamp × BackendCall) := [
  (⟨1767225600, 0⟩, .load),
  (⟨1767225600, 250000000⟩, .addTopics ["orders"]),
  (⟨1767225600, 500000000⟩, .addAccounts [⟨"User:app", some "billing"⟩]),
  (⟨1767225601, 0⟩, .flush),
  (⟨1767225601, 0⟩, .reset),
  (⟨1767225660, 0⟩, .load)]

/-- What the history leaves. -/
def state : State := .ofLists [] [⟨"User:app", some "billing"⟩] ["orders"] []

theorem isPlain : FileTree.isPlain "state.toml" = true := by decide

theorem kept?_host : StateFile.kept? "state.toml" host.files = some .empty := by
  rw [StateFile.kept?, FileTree.holds, FileTree.entry_plain _ isPlain]
  rfl

theorem isWritable_host : StateFile.isWritable "state.toml" host.files = true := by
  have hparent : Path.parent? "state.toml" = some "" := by decide +kernel
  have hmade : StateFile.parentMade "state.toml" host.files = (.ok (), .empty) := by
    rw [StateFile.parentMade, hparent]
    rfl
  refine StateFile.isWritable_iff.2 ⟨.empty, hmade, fun text => FileTree.isOk_writeText_iff.2 ?_⟩
  exact ⟨by decide +kernel, _, FileTree.locate_plain _ isPlain, by decide⟩

end Visit

/-- What was stored is on file and staged. -/
theorem Station.file_mirrors_memory_visit :
    StateFile.kept? "state.toml" Visit.host.files = some .empty ∧
      StateFile.isWritable "state.toml" Visit.host.files = true ∧
      (∀ e ∈ Visit.history, e.1.IsInstant) ∧
      (onFile "state.toml" Visit.history ⟨.fresh, Visit.host⟩).2.backend.snapshot = Visit.state ∧
      StateFile.kept? "state.toml"
        (onFile "state.toml" Visit.history ⟨.fresh, Visit.host⟩).2.world.files =
          some Visit.state := by
  have hclock : ∀ e ∈ Visit.history, e.1.IsInstant := by decide +kernel
  obtain ⟨-, -, -, hsnapshot, hkept⟩ := (file_mirrors_memory "state.toml" Visit.kept?_host
    (fun _ => Visit.isWritable_host) hclock .fresh 0).1 Visit.history.length
  rw [List.take_length] at hsnapshot hkept
  refine ⟨Visit.kept?_host, Visit.isWritable_host, hclock, hsnapshot.trans ?_, hkept.trans ?_⟩
  · decide +kernel
  · decide +kernel

end KafkaTopology
