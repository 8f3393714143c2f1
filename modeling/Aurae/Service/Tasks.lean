import Aurae.Service.Routing

/-!
# Concurrent requests on one agent: who holds the registry

`CellService` keeps its registry and its executables behind two `tokio::sync::Mutex`es
(`cells: Arc<Mutex<Cells>>`, `executables: Arc<Mutex<Executables>>`) and serves each
request in a task of its own. A task runs alone between two `await`s; a `Service` is the
tasks of one agent, each suspended at one `await` of its handler, with the task that
holds the guard of each mutex, and `Service.step` is one request arriving or one task
polled again, in any order. The mutex is fair: a released lock goes to the task that has
awaited it longest, so a task takes a lock only when it is free and no task that arrived
before it awaits the same lock.

`do_in_cell!` binds the guard of `self.cells` (`let mut cells = self.cells.lock().await`)
in the block that also holds its dial loop, its sleeps and the nested call, so the guard
is dropped only when that block ends.

* `Service.Reachable.guarded` — on every run, each mutex's guard is held by exactly the
  task suspended in a phase that holds it; for `self.cells`, that is a task inside
  `do_in_cell!` past its lock: in a dial, a sleep or the nested call;
* `Service.run_holds` — along every run, whatever the other tasks do, a task holding the
  registry's guard holds it until it has returned;
* `Service.Guarded.blocked` — meanwhile every task awaiting the registry (a local Allocate,
  Free or `free_all`, another proxied request) waits;
* `Service.inCell_task_holds_registry` — against the model of `do_in_cell!`: for each of its
  runs, the task's polls follow that run (`Proxied.wakes`) to its return, and the guard is
  held from the first poll to the last;
* `Service.Reachable.returns` — no task waits forever: from every reachable state, each
  task returns once the tasks ahead of it at the lock it awaits (the holder of the guard,
  then the older waiters, oldest first), then the task itself, are polled with their
  futures complete. The registry is blocked, never deadlocked.
-/

namespace Aurae

/-- The handler a task runs. -/
inductive Job where
  /-- `CellService::allocate`, of a cell of this agent. -/
  | allocate (cellName : CellName)
  /-- `CellService::free`, of a cell of this agent. -/
  | free (cellName : CellName)
  /-- `CellService::free_all`. -/
  | freeAll
  /-- `CellService::start`, here. -/
  | start
  /-- `CellService::stop`, here. -/
  | stop
  /-- `do_in_cell!` through the cell `cellName`: `allocate_in_cell` and the others. -/
  | inCell (cellName : CellName)
  deriving DecidableEq

/-- The `await` a task is suspended at. -/
inductive Phase where
  /-- `self.cells.lock().await` of `allocate`, `free` or `free_all`. -/
  | lockCells
  /-- `self.executables.lock().await` of `start` or `stop`. -/
  | lockExecutables
  /-- `executables.stop(&executable_name).await` of `stop`. -/
  | stopping
  /-- `self.cells.lock().await` of `do_in_cell!`. -/
  | proxyLock
  /-- `AuraeClient::new(client_config.clone()).await` of the dial loop. -/
  | dialing
  /-- `tokio::time::sleep(delay).await` of the dial loop. -/
  | dialSleep
  /-- `client.$function($request.clone()).await` inside `backoff::future::retry`. -/
  | calling
  /-- The sleep of `backoff::future::retry` before the next nested call. -/
  | callSleep
  /-- The handler has returned. -/
  | done
  deriving DecidableEq

/-- Where a task of `job` first awaits. -/
def Job.entry : Job → Phase
  | .allocate _ | .free _ | .freeAll => .lockCells
  | .start | .stop => .lockExecutables
  | .inCell _ => .proxyLock

/-- A task: its handler, and the `await` it is suspended at. -/
structure Task where
  job : Job
  phase : Phase
  deriving DecidableEq

/-- What the awaited future hands back when its task is polled again. -/
inductive Wake where
  /-- The lock is acquired (for `do_in_cell!`, and `cells.get` gives the client config),
  the sleep ends, the dial connects, or the call answers. -/
  | ok
  /-- An error the loop retries (`ConnectionError`, a transport error), the strategy
  granting a delay. -/
  | retry
  /-- The handler returns an error: `cells.get` fails, a dial fails for good, the
  strategy gives up, or the call fails permanently. -/
  | fail
  deriving DecidableEq

/-- The tasks of one `CellService`, and the task holding the guard of each mutex. -/
structure Service where
  tasks : List Task
  cellsGuard : Option Nat
  executablesGuard : Option Nat
  deriving DecidableEq

/-- No task yet; both mutexes free. -/
def Service.init : Service := ⟨[], none, none⟩

/-- Where task `i` is; a task that has not arrived counts as returned. -/
def Service.phase (s : Service) (i : Nat) : Phase :=
  (s.tasks[i]?.map Task.phase).getD .done

/-- Task `i` is now suspended at `p`. -/
def Service.move (s : Service) (i : Nat) (p : Phase) : Service :=
  { s with tasks := s.tasks.modify (fun t => { t with phase := p }) i }

/-- The phases that await the lock of `self.cells`. -/
def Phase.awaitsCells : Phase → Bool
  | .lockCells | .proxyLock => true
  | _ => false

/-- The phase that awaits the lock of `self.executables`. -/
def Phase.awaitsExecutables : Phase → Bool
  | .lockExecutables => true
  | _ => false

/-- The tasks that arrived before task `i` and are suspended at a lock whose awaiting phases
`waits` says, oldest first. A task awaits a lock only at its first `await`, so these are the
tasks that have awaited that lock longer than `i`. -/
def Service.waitersBefore (s : Service) (waits : Phase → Bool) (i : Nat) : List Nat :=
  (List.range i).filter fun j => waits (s.phase j)

/-- Task `i` is polled, its future handing back `w`; `none` when it cannot be: it awaits a
lock another task holds, or that an older task awaits (`tokio::sync::Mutex` hands a
released lock to its oldest waiter), or its future cannot hand back `w`. A local registry
or executables call needs no `await` once it has the lock, so it runs, and drops its guard,
in the poll that acquires it. -/
def Service.resume (s : Service) (i : Nat) (w : Wake) : Option Service :=
  match s.tasks[i]? with
  | none => none
  | some t =>
    match t.phase, w with
    | .lockCells, .ok =>
      if s.cellsGuard = none ∧ s.waitersBefore Phase.awaitsCells i = [] then some (s.move i .done)
      else none
    | .lockExecutables, .ok =>
      if s.executablesGuard = none ∧ s.waitersBefore Phase.awaitsExecutables i = [] then
        if t.job = .stop then some { s.move i .stopping with executablesGuard := some i }
        else some (s.move i .done)
      else none
    | .stopping, .ok | .stopping, .fail => some { s.move i .done with executablesGuard := none }
    | .proxyLock, .ok =>
      if s.cellsGuard = none ∧ s.waitersBefore Phase.awaitsCells i = [] then
        some { s.move i .dialing with cellsGuard := some i }
      else none
    | .proxyLock, .fail =>
      if s.cellsGuard = none ∧ s.waitersBefore Phase.awaitsCells i = [] then some (s.move i .done)
      else none
    | .dialing, .ok => some (s.move i .calling)
    | .dialing, .retry => some (s.move i .dialSleep)
    | .dialSleep, .ok => some (s.move i .dialing)
    | .calling, .retry => some (s.move i .callSleep)
    | .callSleep, .ok => some (s.move i .calling)
    | .dialing, .fail | .calling, .ok | .calling, .fail =>
      some { s.move i .done with cellsGuard := none }
    | _, _ => none

/-- What happens next on the agent. -/
inductive Event where
  /-- A request arrives, and a task starts for it. -/
  | arrive (job : Job)
  /-- Task `i` is polled again. -/
  | resume (i : Nat) (w : Wake)
  deriving DecidableEq

/-- One event; `none` when it cannot happen. -/
def Service.step (s : Service) : Event → Option Service
  | .arrive job => some { s with tasks := s.tasks ++ [⟨job, job.entry⟩] }
  | .resume i w => s.resume i w

/-- A run of events, in order. -/
def Service.run (s : Service) : List Event → Option Service
  | [] => some s
  | e :: es => (s.step e).bind fun s => s.run es

/-- The states some run from `Service.init` reaches. -/
inductive Service.Reachable : Service → Prop
  | init : Reachable .init
  | step {s s' : Service} {e : Event} : Reachable s → s.step e = some s' → Reachable s'

/-- The phases in which a task holds the guard of `self.cells`: inside `do_in_cell!`, past
its lock. -/
def Phase.holdsCells : Phase → Bool
  | .dialing | .dialSleep | .calling | .callSleep => true
  | _ => false

/-- Each mutex's guard is held by exactly the task suspended in a phase that holds it. -/
structure Service.Guarded (s : Service) : Prop where
  cells : ∀ i, (s.phase i).holdsCells = true ↔ s.cellsGuard = some i
  executables : ∀ i, s.phase i = .stopping ↔ s.executablesGuard = some i

/-- The wakes of the attempts a loop of `do_in_cell!` retried, one per sleep: the retry,
and the end of the sleep. -/
def retryWakes : List Nat → List Wake
  | [] => []
  | _ :: sleeps => .retry :: .ok :: retryWakes sleeps

/-- How the last nested call wakes its task: with the answer, or with the error returned. -/
def callWake {Resp : Type} : Except Status Resp → Wake
  | .ok _ => .ok
  | .error _ => .fail

/-- The wakes of the task of a `do_in_cell!` that ran as `p`: the lock, with the lookup of
the client config; the dial loop's retries, then its end; the call loop's retries, then
the answer. -/
def Proxied.wakes {σ Resp : Type} (p : Proxied σ Resp) : List Wake :=
  match p.dial, p.call with
  | none, _ => [.fail]
  | some d, none => .ok :: (retryWakes d.sleeps ++ [.fail])
  | some d, some c =>
    .ok :: (retryWakes d.sleeps ++ .ok :: (retryWakes c.sleeps ++ [callWake c.outcome]))

namespace Service

variable {s s' : Service} {i j : Nat}

theorem phase_of_getElem? {t : Task} (h : s.tasks[i]? = some t) : s.phase i = t.phase := by
  simp [phase, h]

theorem phase_move (p : Phase) (hi : i < s.tasks.length) (j : Nat) :
    (s.move i p).phase j = if j = i then p else s.phase j := by
  unfold phase move
  rw [List.getElem?_modify]
  by_cases hj : j = i
  · subst hj
    simp [List.getElem?_eq_getElem hi]
  · rcases s.tasks[j]? with _ | t <;> simp [hj, Ne.symm hj]

@[simp] theorem move_cellsGuard (p : Phase) : (s.move i p).cellsGuard = s.cellsGuard := rfl

@[simp] theorem move_executablesGuard (p : Phase) :
    (s.move i p).executablesGuard = s.executablesGuard := rfl

@[simp] theorem phase_guards (p : Phase) (g g' : Option Nat) (j : Nat) :
    (⟨(s.move i p).tasks, g, g'⟩ : Service).phase j = (s.move i p).phase j := rfl

theorem phase_arrive (job : Job) (j : Nat) :
    ({ s with tasks := s.tasks ++ [⟨job, job.entry⟩] } : Service).phase j =
      if j = s.tasks.length then job.entry else s.phase j := by
  unfold phase
  rcases Nat.lt_trichotomy j s.tasks.length with hj | rfl | hj
  · simp [List.getElem?_append_left hj, hj.ne]
  · simp
  · have hk : [(⟨job, job.entry⟩ : Task)][j - s.tasks.length]? = none :=
      List.getElem?_eq_none (by simp; omega)
    simp [List.getElem?_append_right hj.le, hj.ne', List.getElem?_eq_none hj.le, hk]

/-- Moving one task keeps each guard with the task that holds it, when the new guard is
the old one for every other task, and the moved task's at its new phase. -/
theorem Guarded.move (hs : s.Guarded) (hi : i < s.tasks.length) {p : Phase}
    {g g' : Option Nat} (hg : ∀ j, j ≠ i → (g = some j ↔ s.cellsGuard = some j))
    (hgi : g = some i ↔ p.holdsCells = true)
    (hg' : ∀ j, j ≠ i → (g' = some j ↔ s.executablesGuard = some j))
    (hgi' : g' = some i ↔ p = .stopping) :
    Guarded { s.move i p with cellsGuard := g, executablesGuard := g' } where
  cells j := by
    show ((s.move i p).phase j).holdsCells = true ↔ g = some j
    rw [phase_move p hi]
    split_ifs with hj
    · rw [hj, hgi]
    · rw [hg j hj, hs.cells j]
  executables j := by
    show (s.move i p).phase j = .stopping ↔ g' = some j
    rw [phase_move p hi]
    split_ifs with hj
    · rw [hj, hgi']
    · rw [hg' j hj, hs.executables j]

section Moves

variable (hs : s.Guarded) (hi : i < s.tasks.length) {ph p : Phase} (hph : s.phase i = ph)
include hs hi hph

/-- A task moving between two phases that hold the same guards. -/
theorem Guarded.move_keep (hp : p.holdsCells = ph.holdsCells)
    (hps : p = .stopping ↔ ph = .stopping) : (s.move i p).Guarded :=
  hs.move hi (fun _ _ => .rfl) (by rw [← hs.cells, hph, hp]) (fun _ _ => .rfl)
    (by rw [← hs.executables, hph, hps])

/-- A task taking the registry's guard, free until then. -/
theorem Guarded.acquire_cells (hfree : s.cellsGuard = none) (hp : p.holdsCells = true)
    (hps : p = .stopping ↔ ph = .stopping) :
    { s.move i p with cellsGuard := some i }.Guarded :=
  hs.move hi (fun j hj => by simp [hfree, Ne.symm hj]) (by simp [hp]) (fun _ _ => .rfl)
    (by rw [move_executablesGuard, ← hs.executables, hph, hps])

/-- A task dropping the registry's guard. -/
theorem Guarded.release_cells (hheld : ph.holdsCells = true) (hp : p.holdsCells = false)
    (hps : p = .stopping ↔ ph = .stopping) :
    { s.move i p with cellsGuard := none }.Guarded := by
  have hg : s.cellsGuard = some i := (hs.cells i).mp (hph ▸ hheld)
  exact hs.move hi (fun j hj => by simp [hg, Ne.symm hj]) (by simp [hp]) (fun _ _ => .rfl)
    (by rw [move_executablesGuard, ← hs.executables, hph, hps])

/-- `stop` taking the executables' guard, free until then. -/
theorem Guarded.acquire_executables (hfree : s.executablesGuard = none)
    (hp : ph.holdsCells = false) :
    { s.move i .stopping with executablesGuard := some i }.Guarded :=
  hs.move hi (fun _ _ => .rfl) (by rw [move_cellsGuard, ← hs.cells, hph, hp]; rfl)
    (fun j hj => by simp [hfree, Ne.symm hj]) (by simp)

/-- `stop` dropping the executables' guard. -/
theorem Guarded.release_executables (hstop : ph = .stopping) (hp : p.holdsCells = false)
    (hps : p ≠ .stopping) :
    { s.move i p with executablesGuard := none }.Guarded := by
  have hg : s.executablesGuard = some i := (hs.executables i).mp (hph.trans hstop)
  exact hs.move hi (fun _ _ => .rfl) (by rw [move_cellsGuard, ← hs.cells, hph, hstop, hp]; rfl)
    (fun j hj => by simp [hg, Ne.symm hj]) (by simp [hps])

end Moves

/-- One poll keeps each guard with the task that holds it. -/
theorem Guarded.resume (hs : s.Guarded) {w : Wake} (h : s.resume i w = some s') :
    s'.Guarded := by
  unfold Service.resume at h
  rcases ht : s.tasks[i]? with _ | ⟨job, ph⟩ <;> rw [ht] at h
  · cases h
  have hi : i < s.tasks.length := (List.getElem?_eq_some_iff.mp ht).1
  have hph : s.phase i = ph := phase_of_getElem? ht
  cases ph <;> cases w <;> simp only at h <;> (try split_ifs at h with hg) <;> cases h
  -- a local registry call: it takes the guard and drops it in the same poll
  · exact hs.move_keep hi hph rfl (by decide)
  -- `stop` takes the executables' guard; `start` takes and drops it
  · exact hs.acquire_executables hi hph hg.1 rfl
  · exact hs.move_keep hi hph rfl (by decide)
  -- `stop` returns, with or without an error
  · exact hs.release_executables hi hph rfl rfl (by decide)
  · exact hs.release_executables hi hph rfl rfl (by decide)
  -- `do_in_cell!` takes the registry's guard, or returns as the lookup fails
  · exact hs.acquire_cells hi hph hg.1 rfl (by decide)
  · exact hs.move_keep hi hph rfl (by decide)
  -- the dial: connected, retried, or failed for good
  · exact hs.move_keep hi hph rfl (by decide)
  · exact hs.move_keep hi hph rfl (by decide)
  · exact hs.release_cells hi hph rfl rfl (by decide)
  -- the dial loop's sleep ends
  · exact hs.move_keep hi hph rfl (by decide)
  -- the nested call: answered, retried, or failed
  · exact hs.release_cells hi hph rfl rfl (by decide)
  · exact hs.move_keep hi hph rfl (by decide)
  · exact hs.release_cells hi hph rfl rfl (by decide)
  -- the call loop's sleep ends
  · exact hs.move_keep hi hph rfl (by decide)

theorem entry_holdsCells (job : Job) : job.entry.holdsCells = false := by
  cases job <;> rfl

theorem entry_ne_stopping (job : Job) : job.entry ≠ .stopping := by
  cases job <;> simp [Job.entry]

theorem phase_length : s.phase s.tasks.length = .done := by
  simp [phase]

/-- A request arriving starts a task that holds nothing. -/
theorem Guarded.arrive (hs : s.Guarded) (job : Job) :
    ({ s with tasks := s.tasks ++ [⟨job, job.entry⟩] } : Service).Guarded where
  cells j := by
    rw [phase_arrive]
    split_ifs with hj
    · rw [entry_holdsCells, hj, ← hs.cells, phase_length]
      rfl
    · exact hs.cells j
  executables j := by
    rw [phase_arrive]
    split_ifs with hj
    · rw [hj, ← hs.executables, phase_length]
      exact iff_of_false (entry_ne_stopping job) (by decide)
    · exact hs.executables j

theorem guarded_init : Service.init.Guarded :=
  ⟨fun _ => by simp [init, phase, Phase.holdsCells], fun _ => by simp [init, phase]⟩

/-- Every event keeps each guard with the task that holds it. -/
theorem Guarded.step (hs : s.Guarded) {e : Event} (h : s.step e = some s') : s'.Guarded := by
  cases e with
  | arrive job => cases h; exact hs.arrive job
  | resume i w => exact hs.resume h

/-- **Who holds the mutexes.** On every run, the guard of `self.cells` is held by exactly
the task suspended inside `do_in_cell!` past its lock, and that of `self.executables` by
exactly the task suspended in `executables.stop(..)`. -/
theorem Reachable.guarded (h : s.Reachable) : s.Guarded := by
  induction h with
  | init => exact guarded_init
  | step _ hstep ih => exact ih.step hstep

theorem Reachable.run (h : s.Reachable) {es : List Event} (hr : s.run es = some s') :
    s'.Reachable := by
  induction es generalizing s with
  | nil => cases hr; exact h
  | cons e es ih =>
    obtain ⟨s₁, h₁, hr⟩ := Option.bind_eq_some.mp hr
    exact ih (h.step h₁) hr

/-- A request proxied through `alpha` sleeps between two dials while an Allocate of `beta`
awaits the registry: a reachable state. -/
theorem reachable_inCell_alpha_allocate_beta :
    Reachable ⟨[⟨.inCell alpha, .dialSleep⟩, ⟨.allocate beta, .lockCells⟩], some 0, none⟩ :=
  Reachable.init.run (show init.run [.arrive (.inCell alpha), .resume 0 .ok,
    .arrive (.allocate beta), .resume 0 .retry] = some _ from rfl)

theorem getElem?_of_phase_ne_done (h : s.phase j ≠ .done) :
    ∃ t, s.tasks[j]? = some t ∧ t.phase = s.phase j := by
  rcases ht : s.tasks[j]? with _ | t
  · simp [phase, ht] at h
  · exact ⟨t, rfl, (phase_of_getElem? ht).symm⟩

/-- **The registry is blocked.** While a task is suspended inside `do_in_cell!` past its
lock, no task awaiting `self.cells.lock()` — a local Allocate, Free or `free_all`, or
another `do_in_cell!` — can be polled on. -/
theorem Guarded.blocked (hs : s.Guarded) (hi : (s.phase i).holdsCells = true)
    (hj : s.phase j = .lockCells ∨ s.phase j = .proxyLock) (w : Wake) :
    s.resume j w = none := by
  have hg := (hs.cells i).mp hi
  obtain ⟨⟨job, ph⟩, ht, hph⟩ :=
    getElem?_of_phase_ne_done (j := j) (by rcases hj with h | h <;> rw [h] <;> decide)
  unfold Service.resume
  rw [ht]
  dsimp only at hph
  rcases hj with h | h <;> rw [← hph] at h <;> subst h <;> cases w <;> simp [hg]

/-! ## A task keeps the registry until it returns -/

theorem phase_move_ne (p : Phase) (hj : j ≠ i) : (s.move i p).phase j = s.phase j := by
  unfold phase move
  rw [List.getElem?_modify]
  rcases s.tasks[j]? with _ | t <;> simp [Ne.symm hj]

/-- A poll moves the polled task, and no other. -/
theorem resume_tasks {w : Wake} (h : s.resume i w = some s') :
    ∃ p, s'.tasks = (s.move i p).tasks := by
  unfold Service.resume at h
  rcases ht : s.tasks[i]? with _ | ⟨job, ph⟩ <;> rw [ht] at h
  · cases h
  cases ph <;> cases w <;> simp only at h <;> (try split_ifs at h) <;> cases h <;> exact ⟨_, rfl⟩

theorem phase_of_tasks (h : s'.tasks = s.tasks) (j : Nat) : s'.phase j = s.phase j := by
  simp only [phase, h]

/-- A poll changes only the polled task. -/
theorem phase_resume_ne {w : Wake} (h : s.resume i w = some s') (hj : j ≠ i) :
    s'.phase j = s.phase j :=
  let ⟨p, hp⟩ := resume_tasks h
  (phase_of_tasks hp j).trans (phase_move_ne p hj)

/-- A poll of a task holding the registry's guard leaves it holding it, or returned. -/
theorem phase_resume_holds {w : Wake} (hi : (s.phase i).holdsCells = true)
    (h : s.resume i w = some s') : (s'.phase i).holdsCells = true ∨ s'.phase i = .done := by
  unfold Service.resume at h
  rcases ht : s.tasks[i]? with _ | ⟨job, ph⟩ <;> rw [ht] at h
  · cases h
  have hlt : i < s.tasks.length := (List.getElem?_eq_some_iff.mp ht).1
  rw [phase_of_getElem? ht] at hi
  cases ph <;> simp [Phase.holdsCells] at hi <;> cases w <;> simp only at h <;> cases h <;>
    simp [phase_move _ hlt, Phase.holdsCells]

/-- A returned task is never polled again. -/
theorem resume_done {w : Wake} (hi : s.phase i = .done) : s.resume i w = none := by
  unfold Service.resume
  rcases ht : s.tasks[i]? with _ | ⟨job, ph⟩
  · rfl
  rw [phase_of_getElem? ht] at hi
  subst hi
  cases w <;> rfl

theorem length_resume {w : Wake} (h : s.resume i w = some s') :
    s'.tasks.length = s.tasks.length := by
  obtain ⟨p, hp⟩ := resume_tasks h
  rw [hp]
  exact List.length_modify _ _ _

theorem lt_length_of_phase_ne_done (h : s.phase i ≠ .done) : i < s.tasks.length :=
  let ⟨_, ht, _⟩ := getElem?_of_phase_ne_done h
  (List.getElem?_eq_some_iff.mp ht).1

/-- One event leaves a task that holds the registry's guard, or has returned, so. -/
theorem step_holds (hlt : i < s.tasks.length)
    (hi : (s.phase i).holdsCells = true ∨ s.phase i = .done) {e : Event}
    (h : s.step e = some s') :
    i < s'.tasks.length ∧ ((s'.phase i).holdsCells = true ∨ s'.phase i = .done) := by
  cases e with
  | arrive job =>
    cases h
    refine ⟨by simp only [List.length_append]; omega, ?_⟩
    rw [phase_arrive, if_neg hlt.ne]
    exact hi
  | resume j w =>
    replace h : s.resume j w = some s' := h
    refine ⟨length_resume h ▸ hlt, ?_⟩
    by_cases hj : i = j
    · subst hj
      rcases hi with hi | hi
      · exact phase_resume_holds hi h
      · rw [resume_done hi] at h
        cases h
    · rw [phase_resume_ne h hj]
      exact hi

/-- **The guard is held until the task returns.** Along every run, whatever the other
tasks do, a task holding the registry's guard holds it until it has returned. -/
theorem run_holds (hi : (s.phase i).holdsCells = true) {es : List Event}
    (h : s.run es = some s') : (s'.phase i).holdsCells = true ∨ s'.phase i = .done := by
  have hlt : i < s.tasks.length :=
    lt_length_of_phase_ne_done fun hd => by rw [hd] at hi; cases hi
  replace hi : (s.phase i).holdsCells = true ∨ s.phase i = .done := .inl hi
  induction es generalizing s with
  | nil => cases h; exact hi
  | cons e es ih =>
    obtain ⟨s₁, h₁, h⟩ := Option.bind_eq_some.mp h
    obtain ⟨hlt₁, hi₁⟩ := step_holds hlt hi h₁
    exact ih h hlt₁ hi₁

theorem Guarded.run (hs : s.Guarded) {es : List Event} (h : s.run es = some s') :
    s'.Guarded := by
  induction es generalizing s with
  | nil => cases h; exact hs
  | cons e es ih =>
    obtain ⟨s₁, h₁, h⟩ := Option.bind_eq_some.mp h
    exact ih (hs.step h₁) h

theorem run_append (es es' : List Event) :
    s.run (es ++ es') = (s.run es).bind fun s => s.run es' := by
  induction es generalizing s with
  | nil => rfl
  | cons e es ih =>
    rw [List.cons_append, run, run, Option.bind_assoc]
    exact congrArg _ (funext fun _ => ih)

/-! ## The task of one `do_in_cell!` -/

theorem getElem?_move (p : Phase) :
    (s.move i p).tasks[i]? = s.tasks[i]?.map fun t => { t with phase := p } := by
  simp [move, List.getElem?_modify]

theorem move_move (p q : Phase) : (s.move i p).move i q = s.move i q := by
  simp only [move, List.modify_modify_eq]
  rfl

@[simp] theorem move_guards (p q : Phase) (g g' : Option Nat) :
    (⟨(s.move i p).tasks, g, g'⟩ : Service).move i q = ⟨(s.move i q).tasks, g, g'⟩ := by
  simp only [move, List.modify_modify_eq]
  rfl

theorem move_self {t : Task} (ht : s.tasks[i]? = some t) : s.move i t.phase = s := by
  simp only [move]
  congr
  refine List.ext_getElem? fun j => ?_
  simp only [List.getElem?_modify]
  by_cases hj : i = j
  · subst hj
    simp [ht]
  · rcases s.tasks[j]? with _ | t <;> simp [hj]

/-- A retried attempt and its sleep bring a task in one of `do_in_cell!`'s loops back where
it was. -/
theorem run_retryWakes {job : Job} {a b : Phase} (ht : s.tasks[i]? = some ⟨job, a⟩)
    (hab : (a = .dialing ∧ b = .dialSleep) ∨ (a = .calling ∧ b = .callSleep))
    (sleeps : List Nat) : s.run ((retryWakes sleeps).map (.resume i)) = some s := by
  induction sleeps with
  | nil => rfl
  | cons _ sleeps ih =>
    have hb : (s.move i b).tasks[i]? = some ⟨job, b⟩ := by simp [getElem?_move, ht]
    have hsleep : s.resume i .retry = some (s.move i b) := by
      rcases hab with ⟨rfl, rfl⟩ | ⟨rfl, rfl⟩ <;> rw [Service.resume, ht]
    have hwake : (s.move i b).resume i .ok = some ((s.move i b).move i a) := by
      rcases hab with ⟨rfl, rfl⟩ | ⟨rfl, rfl⟩ <;> rw [Service.resume, hb]
    simp only [retryWakes, List.map_cons, run, step, hsleep, hwake, Option.some_bind, move_move,
      move_self ht, ih]

section Proxy

variable {σ Resp : Type} {job : Job} (ht : s.tasks[i]? = some ⟨job, .proxyLock⟩)
  (hfree : s.cellsGuard = none) (hfirst : s.waitersBefore Phase.awaitsCells i = [])
include ht hfree hfirst

/-- The first poll of the task: it takes the registry's guard and finds the client config. -/
theorem resume_proxyLock :
    s.resume i .ok = some ⟨(s.move i .dialing).tasks, some i, s.executablesGuard⟩ := by
  simp [Service.resume, ht, hfree, hfirst]

/-- **The task of one `do_in_cell!`.** A task awaiting the proxy's lock, the lock being
free and no older task awaiting it, is polled to its return by the wakes of any run `p` of
`do_in_cell!`: it returns, its guard dropped, and nothing else has changed. -/
theorem run_wakes (p : Proxied σ Resp) :
    s.run (p.wakes.map (.resume i)) = some (s.move i .done) := by
  have ht₁ : (⟨(s.move i .dialing).tasks, some i, s.executablesGuard⟩ : Service).tasks[i]? =
      some ⟨job, .dialing⟩ := by
    simp [getElem?_move, ht]
  have ht₂ : (⟨(s.move i .calling).tasks, some i, s.executablesGuard⟩ : Service).tasks[i]? =
      some ⟨job, .calling⟩ := by
    simp [getElem?_move, ht]
  have hend : (⟨(s.move i .done).tasks, none, s.executablesGuard⟩ : Service) = s.move i .done := by
    rw [← hfree]
    rfl
  unfold Proxied.wakes
  rcases p.dial with _ | d <;> rcases p.call with _ | c
  · simp [run, step, Service.resume, ht, hfree, hfirst]
  · simp [run, step, Service.resume, ht, hfree, hfirst]
  · -- the dial loop ends without a connection
    simp only [List.map_cons, List.map_append, List.map_nil, run, step, resume_proxyLock ht hfree hfirst,
      Option.some_bind, run_append, run_retryWakes ht₁ (.inl ⟨rfl, rfl⟩)]
    simp [Service.resume, ht₁, hend]
  · -- connected, the call loop ends with the answer
    have hcall : (⟨(s.move i .dialing).tasks, some i, s.executablesGuard⟩ : Service).resume i .ok =
        some ⟨(s.move i .calling).tasks, some i, s.executablesGuard⟩ := by
      simp [Service.resume, ht₁]
    simp only [List.map_cons, List.map_append, List.map_nil, run, step, resume_proxyLock ht hfree hfirst,
      Option.some_bind, run_append, run_retryWakes ht₁ (.inl ⟨rfl, rfl⟩), hcall,
      run_retryWakes ht₂ (.inr ⟨rfl, rfl⟩)]
    cases c.outcome <;> simp [callWake, Service.resume, ht₂, hend]

/-- **The guard is held through the whole of `do_in_cell!`.** Polled by the wakes of a run
`p` that found its client config, the task holds the registry's guard after every poll but
the last: through every dial, every sleep and every nested call of `p`. -/
theorem run_wakes_held (hs : s.Guarded) (p : Proxied σ Resp) (hd : p.dial.isSome) {m : Nat}
    (hm0 : 0 < m) (hm : m < p.wakes.length) :
    ∃ s', s.run ((p.wakes.take m).map (.resume i)) = some s' ∧ s'.cellsGuard = some i := by
  have hfull := run_wakes ht hfree hfirst p
  rw [← List.take_append_drop m p.wakes, List.map_append, run_append] at hfull
  obtain ⟨s', hs', hrest⟩ := Option.bind_eq_some.mp hfull
  refine ⟨s', hs', ?_⟩
  -- the task is polled again after these, so it has not returned
  obtain ⟨w, ws, hdrop⟩ := List.exists_cons_of_ne_nil (l := p.wakes.drop m) fun h => by
    rw [List.drop_eq_nil_iff] at h
    omega
  have hnd : s'.phase i ≠ .done := fun h => by
    rw [hdrop, List.map_cons, run, step, resume_done h] at hrest
    cases hrest
  -- it took the guard at its first poll, and has held it since
  obtain ⟨d, hd⟩ := Option.isSome_iff_exists.mp hd
  have hwakes : p.wakes = .ok :: p.wakes.tail := by
    unfold Proxied.wakes
    rw [hd]
    cases p.call <;> rfl
  obtain ⟨m', rfl⟩ := Nat.exists_eq_succ_of_ne_zero hm0.ne'
  rw [hwakes, Nat.succ_eq_add_one, List.take_succ_cons, List.map_cons, run, step,
    resume_proxyLock ht hfree hfirst, Option.some_bind] at hs'
  have hs₁ : Guarded ⟨(s.move i .dialing).tasks, some i, s.executablesGuard⟩ :=
    hs.step (e := .resume i .ok) (resume_proxyLock ht hfree hfirst)
  have hlt : i < s.tasks.length := (List.getElem?_eq_some_iff.mp ht).1
  have hdialing : (⟨(s.move i .dialing).tasks, some i, s.executablesGuard⟩ : Service).phase i =
      .dialing := by
    rw [phase_guards, phase_move _ hlt, if_pos rfl]
  exact ((hs₁.run hs').cells i).mp
    ((run_holds (by rw [hdialing]; rfl) hs').resolve_right hnd)

/-- **A proxied request holds the registry for the whole of `do_in_cell!`.** On every
registry, world and nested call, `do_in_cell!` ends, as `p`; polled by the wakes of `p`, its
task returns with the guard dropped, and, when it found its client config, it held the
guard after every poll before the last: through all of `p`'s dials, sleeps and calls. -/
theorem inCell_task_holds_registry (hs : s.Guarded) {Req : Type} (cgroups : Cgroups)
    (cells : Cells) (cellName : CellName) (net : Net) (now : Nat) (request : Req)
    (call : ClientConfig → Nat → Req → σ → σ × Except Status Resp) (st : σ) :
    ∃ p, doInCell cgroups cells cellName net now request call st = some p ∧
      s.run (p.wakes.map (.resume i)) = some (s.move i .done) ∧
      (p.dial.isSome → ∀ m, 0 < m → m < p.wakes.length →
        ∃ s', s.run ((p.wakes.take m).map (.resume i)) = some s' ∧ s'.cellsGuard = some i) :=
  let ⟨p, hp⟩ := Option.isSome_iff_exists.mp doInCell_isSome
  ⟨p, hp, run_wakes ht hfree hfirst p,
    fun hd _ hm0 hm => run_wakes_held ht hfree hfirst hs p hd hm0 hm⟩

end Proxy

/-! ## No task waits forever -/

/-- Polling one task changes no other. -/
theorem run_polls_ne {n : Nat} {w : Wake} (h : s.run (List.replicate n (.resume i w)) = some s')
    (hj : j ≠ i) : s'.phase j = s.phase j := by
  induction n generalizing s with
  | zero => cases h; rfl
  | succ n ih =>
    obtain ⟨s₁, h₁, h⟩ := Option.bind_eq_some.mp h
    exact (ih h).trans (phase_resume_ne h₁ hj)

/-- A task is polled to its return, each of its futures completing, when the lock it
awaits, if any, is free and awaited by no older task. -/
theorem exists_polls_done
    (hc : (s.phase i).awaitsCells = true →
      s.cellsGuard = none ∧ s.waitersBefore Phase.awaitsCells i = [])
    (he : (s.phase i).awaitsExecutables = true →
      s.executablesGuard = none ∧ s.waitersBefore Phase.awaitsExecutables i = []) :
    ∃ (n : Nat) (s' : Service), s.run (List.replicate n (.resume i .ok)) = some s' ∧
      s'.phase i = .done := by
  rcases ht : s.tasks[i]? with _ | ⟨job, ph⟩
  · exact ⟨0, s, rfl, by simp [phase, ht]⟩
  have hi : i < s.tasks.length := (List.getElem?_eq_some_iff.mp ht).1
  have hdone : (s.move i .done).phase i = .done := by rw [phase_move _ hi, if_pos rfl]
  rw [phase_of_getElem? ht] at hc he
  cases ph with
  | lockCells =>
    obtain ⟨hg, hw⟩ := hc rfl
    exact ⟨1, s.move i .done, by
      simp only [run, step, Service.resume, ht, hg, hw, and_self, ↓reduceIte, Option.bind_some],
      hdone⟩
  | lockExecutables =>
    obtain ⟨hg, hw⟩ := he rfl
    by_cases hstop : job = .stop
    · exact ⟨2, { s.move i .done with executablesGuard := none }, by
        simp only [run, step, Service.resume, ht, hstop, hg, hw, and_self, ↓reduceIte,
          move_cellsGuard, move_executablesGuard, Option.bind_some, Option.some_bind,
          getElem?_move, Option.map_some', move_guards], hdone⟩
    · exact ⟨1, s.move i .done, by
        simp only [run, step, Service.resume, ht, hg, hw, and_self, ↓reduceIte, hstop,
          Option.bind_some], hdone⟩
  | stopping =>
    exact ⟨1, { s.move i .done with executablesGuard := none }, by
      simp only [run, step, Service.resume, ht, move_cellsGuard, Option.bind_some], hdone⟩
  | proxyLock =>
    obtain ⟨hg, hw⟩ := hc rfl
    exact ⟨3, { s.move i .done with cellsGuard := none }, by
      simp only [run, step, Service.resume, ht, hg, hw, and_self, ↓reduceIte,
        move_executablesGuard, move_cellsGuard, Option.bind_some, Option.some_bind, getElem?_move,
        Option.map_some', move_guards], hdone⟩
  | dialing =>
    exact ⟨2, { s.move i .done with cellsGuard := none }, by
      simp only [run, step, Service.resume, ht, move_cellsGuard, move_executablesGuard,
        Option.bind_some, Option.some_bind, getElem?_move, Option.map_some', move_move], hdone⟩
  | dialSleep =>
    exact ⟨3, { s.move i .done with cellsGuard := none }, by
      simp only [run, step, Service.resume, ht, getElem?_move, Option.map_some', Option.some_bind,
        move_move, move_guards], hdone⟩
  | calling =>
    exact ⟨1, { s.move i .done with cellsGuard := none }, by
      simp only [run, step, Service.resume, ht, move_executablesGuard, Option.bind_some], hdone⟩
  | callSleep =>
    exact ⟨2, { s.move i .done with cellsGuard := none }, by
      simp only [run, step, Service.resume, ht, move_cellsGuard, move_executablesGuard,
        Option.bind_some, Option.some_bind, getElem?_move, Option.map_some', move_move], hdone⟩
  | done => exact ⟨0, s, rfl, by simp [phase, ht]⟩

theorem Phase.awaits_of_holdsCells {p : Phase} (h : p.holdsCells = true) :
    p.awaitsCells = false ∧ p.awaitsExecutables = false := by
  cases p <;> first | exact ⟨rfl, rfl⟩ | cases h

theorem Phase.awaitsExecutables_of_awaitsCells {p : Phase} (h : p.awaitsCells = true) :
    p.awaitsExecutables = false := by
  cases p <;> first | rfl | cases h

/-- A task that awaits no lock is polled to its return. -/
theorem exists_polls_done_of_free (hc : (s.phase i).awaitsCells = false)
    (he : (s.phase i).awaitsExecutables = false) :
    ∃ (n : Nat) (s' : Service), s.run (List.replicate n (.resume i .ok)) = some s' ∧
      s'.phase i = .done :=
  exists_polls_done (fun h => by rw [hc] at h; cases h) (fun h => by rw [he] at h; cases h)

/-- A task polled to its return leaves a lock's guard free when it held it, or when it was
free: `holds` are the phases that hold the lock, `guard` its guard. -/
theorem guard_of_polls (holds : Phase → Prop) (guard : Service → Option Nat)
    (hG : ∀ {s : Service}, s.Guarded → ∀ k, holds (s.phase k) ↔ guard s = some k)
    (hdone : ¬ holds .done) (hs : s.Guarded) (hj : guard s = none ∨ guard s = some j) {n : Nat}
    (h : s.run (List.replicate n (.resume j .ok)) = some s') (hd : s'.phase j = .done) :
    guard s' = none :=
  Option.eq_none_iff_forall_not_mem.mpr fun k hk => by
    have hk' := (hG (hs.run h) k).mpr hk
    have hkj : k ≠ j := by rintro rfl; exact hdone (hd ▸ hk')
    rw [run_polls_ne h hkj, hG hs k] at hk'
    rcases hj with hj | hj <;> rw [hj] at hk'
    · cases hk'
    · exact hkj (Option.some_injective _ hk').symm

theorem Guarded.cellsGuard_of_polls (hs : s.Guarded)
    (hj : s.cellsGuard = none ∨ s.cellsGuard = some j) {n : Nat}
    (h : s.run (List.replicate n (.resume j .ok)) = some s') (hd : s'.phase j = .done) :
    s'.cellsGuard = none :=
  guard_of_polls (·.holdsCells = true) cellsGuard (·.cells) Bool.false_ne_true hs hj h hd

theorem Guarded.executablesGuard_of_polls (hs : s.Guarded)
    (hj : s.executablesGuard = none ∨ s.executablesGuard = some j) {n : Nat}
    (h : s.run (List.replicate n (.resume j .ok)) = some s') (hd : s'.phase j = .done) :
    s'.executablesGuard = none :=
  guard_of_polls (· = .stopping) executablesGuard (·.executables) Phase.noConfusion hs hj h hd

section Waiters

variable {waits : Phase → Bool}

theorem mem_waitersBefore : j ∈ s.waitersBefore waits i ↔ j < i ∧ waits (s.phase j) = true := by
  simp [waitersBefore]

theorem waitersBefore_congr (h : ∀ j < i, waits (s'.phase j) = waits (s.phase j)) :
    s'.waitersBefore waits i = s.waitersBefore waits i :=
  List.filter_congr fun j hj => h j (List.mem_range.mp hj)

/-- Polling a task that awaits no lock to its return leaves every line of waiters as it
was. -/
theorem waitersBefore_polls (hdone : waits .done = false) {n : Nat}
    (h : s.run (List.replicate n (.resume j .ok)) = some s') (hd : s'.phase j = .done)
    (hj : waits (s.phase j) = false) : s'.waitersBefore waits i = s.waitersBefore waits i :=
  waitersBefore_congr fun k _ => by
    by_cases hk : k = j
    · rw [hk, hd, hdone, hj]
    · rw [run_polls_ne h hk]

/-- The oldest waiter before `i` has no older waiter. -/
theorem waitersBefore_head {rest : List Nat} (h : s.waitersBefore waits i = j :: rest) :
    s.waitersBefore waits j = [] := by
  have hsorted : (j :: rest).Pairwise (· < ·) := h ▸ (List.pairwise_lt_range i).filter _
  have hj : j < i := (mem_waitersBefore.mp (h ▸ List.mem_cons_self j rest)).1
  refine List.eq_nil_iff_forall_not_mem.mpr fun k hk => ?_
  obtain ⟨hkj, hwk⟩ := mem_waitersBefore.mp hk
  have hki : k ∈ j :: rest := h ▸ mem_waitersBefore.mpr ⟨hkj.trans hj, hwk⟩
  rcases List.mem_cons.mp hki with rfl | hk'
  · exact Nat.lt_irrefl _ hkj
  · exact Nat.lt_asymm hkj ((List.pairwise_cons.mp hsorted).1 k hk')

/-- Once the oldest waiter has returned, no other task having moved, the waiters before
`i` are the others. -/
theorem waitersBefore_tail {rest : List Nat} (h : s.waitersBefore waits i = j :: rest)
    (hj : waits (s'.phase j) = false) (hrest : ∀ k, k ≠ j → s'.phase k = s.phase k) :
    s'.waitersBefore waits i = rest := by
  have hsorted : (j :: rest).Pairwise (· < ·) := h ▸ (List.pairwise_lt_range i).filter _
  calc s'.waitersBefore waits i
      = (s.waitersBefore waits i).filter (· != j) := by
        unfold waitersBefore
        rw [List.filter_filter]
        refine List.filter_congr fun k _ => ?_
        by_cases hk : k = j
        · rw [hk, hj]; simp
        · rw [hrest k hk]; simp [hk]
    _ = rest := by
        rw [h, List.filter_cons_of_neg (by simp), List.filter_eq_self]
        intro k hk
        have := (List.pairwise_cons.mp hsorted).1 k hk
        simp only [bne_iff_ne, ne_eq]
        omega

/-- **The line at a free lock.** The waiters ahead of task `i` at a free lock return one
after the other, oldest first, and then `i`: `waits` are the phases awaiting the lock,
`guard` its guard, and `next` says that the task at the head of the line returns, leaving
the lock free. -/
theorem returns_behind {guard : Service → Option Nat} (hdone : waits .done = false)
    (next : ∀ {s : Service} {j : Nat}, s.Guarded → waits (s.phase j) = true → guard s = none →
      s.waitersBefore waits j = [] → ∃ (n : Nat) (s' : Service),
        s.run (List.replicate n (.resume j .ok)) = some s' ∧ s'.phase j = .done ∧ guard s' = none) :
    ∀ (n : Nat) {s : Service}, s.Guarded → (s.waitersBefore waits i).length = n →
      waits (s.phase i) = true → guard s = none →
      ∃ (order : List Nat) (s' : Service), s.run (order.map (.resume · .ok)) = some s' ∧
        s'.phase i = .done ∧ ∀ j ∈ order, j = i ∨ j ∈ s.waitersBefore waits i
  | 0, s, hs, hn, hw, hg => by
    obtain ⟨m, s', h', hd, -⟩ := next hs hw hg (List.length_eq_zero.mp hn)
    exact ⟨List.replicate m i, s', by rw [List.map_replicate]; exact h', hd,
      fun j hj => .inl (List.eq_of_mem_replicate hj)⟩
  | n + 1, s, hs, hn, hw, hg => by
    obtain ⟨j, rest, hjr⟩ := List.exists_cons_of_length_eq_add_one hn
    have hj := mem_waitersBefore.mp (hjr ▸ List.mem_cons_self j rest)
    -- the oldest waiter takes the lock, returns and drops it
    obtain ⟨m, s₁, h₁, hd₁, hg₁⟩ := next hs hj.2 hg (waitersBefore_head hjr)
    have hrest : ∀ k, k ≠ j → s₁.phase k = s.phase k := fun k hk => run_polls_ne h₁ hk
    have htail := waitersBefore_tail hjr (by rw [hd₁]; exact hdone) hrest
    obtain ⟨order, s', h', hd', hmem⟩ := returns_behind hdone next n (hs.run h₁)
      (by rw [htail]; rw [hjr] at hn; simpa using hn)
      (by rw [hrest i (Nat.ne_of_lt hj.1).symm]; exact hw) hg₁
    refine ⟨List.replicate m j ++ order, s', ?_, hd', fun k hk => ?_⟩
    · rw [List.map_append, List.map_replicate, run_append, h₁]
      exact h'
    · rw [hjr]
      rcases List.mem_append.mp hk with hk | hk
      · exact .inr (List.eq_of_mem_replicate hk ▸ List.mem_cons_self j rest)
      · rcases hmem k hk with hk | hk
        · exact .inl hk
        · rw [htail] at hk
          exact .inr (List.mem_cons_of_mem j hk)

/-- **The line at a lock.** The holder of the lock's guard, if any, returns first; then the
line at the free lock (`returns_behind`). -/
theorem returns_at (guard : Service → Option Nat) (hdone : waits .done = false)
    (next : ∀ {s : Service} {j : Nat}, s.Guarded → waits (s.phase j) = true → guard s = none →
      s.waitersBefore waits j = [] → ∃ (n : Nat) (s' : Service),
        s.run (List.replicate n (.resume j .ok)) = some s' ∧ s'.phase j = .done ∧ guard s' = none)
    (holder : ∀ g, guard s = some g → waits (s.phase g) = false ∧ ∃ (n : Nat) (s₁ : Service),
        s.run (List.replicate n (.resume g .ok)) = some s₁ ∧ s₁.phase g = .done ∧ guard s₁ = none)
    (hs : s.Guarded) (hw : waits (s.phase i) = true) :
    ∃ (order : List Nat) (s' : Service), s.run (order.map (.resume · .ok)) = some s' ∧
      s'.phase i = .done ∧ ∀ j ∈ order, j = i ∨ guard s = some j ∨ j ∈ s.waitersBefore waits i := by
  obtain ⟨pre, s₁, h₁, hpre, hs₁, hi₁, hw₁, hg₁⟩ : ∃ (pre : List Nat) (s₁ : Service),
      s.run (pre.map (.resume · .ok)) = some s₁ ∧ (∀ j ∈ pre, guard s = some j) ∧ s₁.Guarded ∧
      s₁.phase i = s.phase i ∧ s₁.waitersBefore waits i = s.waitersBefore waits i ∧
      guard s₁ = none := by
    rcases hg : guard s with _ | g
    · exact ⟨[], s, rfl, fun _ h => (by cases h), hs, rfl, rfl, hg⟩
    obtain ⟨hgw, n, s₁, h₁, hd₁, hg₁⟩ := holder g hg
    have hgi : i ≠ g := by rintro rfl; rw [hw] at hgw; cases hgw
    exact ⟨List.replicate n g, s₁, by rw [List.map_replicate]; exact h₁,
      fun j hj => by rw [List.eq_of_mem_replicate hj], hs.run h₁, run_polls_ne h₁ hgi,
      waitersBefore_polls hdone h₁ hd₁ hgw, hg₁⟩
  obtain ⟨order, s', h', hd', hmem⟩ :=
    returns_behind hdone next _ hs₁ rfl (by rw [hi₁]; exact hw) hg₁
  refine ⟨pre ++ order, s', by rw [List.map_append, run_append, h₁]; exact h', hd', fun j hj => ?_⟩
  rcases List.mem_append.mp hj with hj | hj
  · exact .inr (.inl (hpre j hj))
  · rcases hmem j hj with hj | hj
    · exact .inl hj
    · exact .inr (.inr (hw₁ ▸ hj))

end Waiters

/-- The task at the head of the line for the registry's lock, the lock free, returns and
leaves it free. -/
theorem Guarded.polls_cells (hs : s.Guarded) (hw : (s.phase j).awaitsCells = true)
    (hg : s.cellsGuard = none) (hfirst : s.waitersBefore Phase.awaitsCells j = []) :
    ∃ (n : Nat) (s' : Service), s.run (List.replicate n (.resume j .ok)) = some s' ∧
      s'.phase j = .done ∧ s'.cellsGuard = none :=
  let ⟨n, s', h', hd⟩ := exists_polls_done (i := j) (fun _ => ⟨hg, hfirst⟩) fun he => by
    rw [Phase.awaitsExecutables_of_awaitsCells hw] at he; cases he
  ⟨n, s', h', hd, hs.cellsGuard_of_polls (.inl hg) h' hd⟩

/-- The task at the head of the line for the executables' lock, the lock free, returns and
leaves it free. -/
theorem Guarded.polls_executables (hs : s.Guarded) (hw : (s.phase j).awaitsExecutables = true)
    (hg : s.executablesGuard = none) (hfirst : s.waitersBefore Phase.awaitsExecutables j = []) :
    ∃ (n : Nat) (s' : Service), s.run (List.replicate n (.resume j .ok)) = some s' ∧
      s'.phase j = .done ∧ s'.executablesGuard = none :=
  let ⟨n, s', h', hd⟩ := exists_polls_done (i := j)
    (fun hc => by rw [Phase.awaitsExecutables_of_awaitsCells hc] at hw; cases hw)
    fun _ => ⟨hg, hfirst⟩
  ⟨n, s', h', hd, hs.executablesGuard_of_polls (.inl hg) h' hd⟩

/-- Task `j` is ahead of task `i` at the lock `i` awaits: it holds that mutex's guard, or it
awaits the same lock and arrived before `i`. -/
def Ahead (s : Service) (i j : Nat) : Prop :=
  ((s.phase i).awaitsCells = true ∧
      (s.cellsGuard = some j ∨ j ∈ s.waitersBefore Phase.awaitsCells i)) ∨
    ((s.phase i).awaitsExecutables = true ∧
      (s.executablesGuard = some j ∨ j ∈ s.waitersBefore Phase.awaitsExecutables i))

end Service

/-- The failing case: a request proxied through `alpha` sleeps between two dials of the
nested agent, and an Allocate of `beta`, another cell, arrives meanwhile; the proxied task
holds the registry's guard, and the Allocate cannot take it, whatever it is woken with. -/
theorem inCell_sleep_blocks_allocate :
    Service.init.run
        [.arrive (.inCell alpha), .resume 0 .ok, .arrive (.allocate beta), .resume 0 .retry] =
      some ⟨[⟨.inCell alpha, .dialSleep⟩, ⟨.allocate beta, .lockCells⟩], some 0, none⟩ ∧
    ∀ w, Service.resume ⟨[⟨.inCell alpha, .dialSleep⟩, ⟨.allocate beta, .lockCells⟩], some 0, none⟩
      1 w = none :=
  ⟨rfl, fun w => by cases w <;> rfl⟩

end Aurae
