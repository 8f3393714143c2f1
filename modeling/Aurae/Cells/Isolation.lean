import Aurae.Cells.Cell

/-!
# Isolating a nested agent

`executables/auraed/isolation_controls.rs`: inside a freshly cloned nested agent,
`Isolation` remounts the mount tree private and recursive (`setup`), mounts a fresh `proc`
and names the host and the domain after the cell (`isolate_process`), and does nothing more
for the network (`isolate_network`: the namespace itself comes from the clone flags). Each
system call is the kernel's to grant: the model takes its answers (`Syscalls`) and keeps
what the calls change of the agent's view of the kernel (`View`).

What the steps are for is a list of calls, each with its effect, made in order until the
first the kernel refuses (`runCalls`).

* `Isolation.isolate_eq_runCalls` — the code's three steps are that list: the four calls
  when `isolate_process` is set, none otherwise;
* `Isolation.isolate_of_not_isolateProcess` — so every step is a no-op that succeeds when
  the flag is off;
* `Isolation.isolate_ok` — with the flag set and every call granted, `/` is private and
  recursive, a fresh `proc` is mounted, and the host name and the domain name are the cell's;
* `Isolation.isolate_error` — a refused call ends the sequence with its errno, after the
  effects of the calls before it and none after.
-/

namespace Aurae

/-- What the isolation calls change of the nested agent's view of the kernel. -/
structure View where
  /-- `/` is remounted `MS_PRIVATE | MS_REC`. -/
  rootPrivate : Bool
  /-- A fresh `proc` is mounted at `/proc`. -/
  procMounted : Bool
  hostname : Option String
  domainname : Option String
  deriving DecidableEq

/-- The kernel's answer to each call of the isolation: success, or an errno. -/
structure Syscalls where
  /-- `nix::mount::mount(Some("/"), "/", None, MS_PRIVATE | MS_REC, None)`. -/
  mountRoot : Except Nat Unit
  /-- `nix::mount::mount(Some("/proc"), "/proc", Some("proc"), MsFlags::empty(), None)`. -/
  mountProc : Except Nat Unit
  /-- `libc::sethostname(name, len)`. -/
  sethostname : Except Nat Unit
  /-- `libc::setdomainname(name, len)`. -/
  setdomainname : Except Nat Unit

/-- `Isolation { name }`, made with the cell's name. -/
structure Isolation where
  name : String

namespace Isolation

/-- `Isolation::setup`: with `isolate_process`, remount `/` private and recursive. -/
def setup (k : Syscalls) (isoCtl : IsolationControls) (v : View) : View × Except Nat Unit :=
  if !isoCtl.isolateProcess then (v, .ok ())
  else
    match k.mountRoot with
    | .error e => (v, .error e)
    | .ok () => ({ v with rootPrivate := true }, .ok ())

/-- `Isolation::isolate_process`: mount `proc` at `/proc`, then set the host name, then the
domain name, to the isolation's name; the first refusal is returned. -/
def isolateProcess (self : Isolation) (k : Syscalls) (isoCtl : IsolationControls) (v : View) :
    View × Except Nat Unit :=
  if !isoCtl.isolateProcess then (v, .ok ())
  else
    match k.mountProc with
    | .error e => (v, .error e)
    | .ok () =>
      let v := { v with procMounted := true }
      match k.sethostname with
      | .error e => (v, .error e)
      | .ok () =>
        let v := { v with hostname := some self.name }
        match k.setdomainname with
        | .error e => (v, .error e)
        | .ok () => ({ v with domainname := some self.name }, .ok ())

/-- `Isolation::isolate_network`: either way, only a log line. -/
def isolateNetwork (isoCtl : IsolationControls) (v : View) : View × Except Nat Unit :=
  if !isoCtl.isolateNetwork then (v, .ok ()) else (v, .ok ())

/-- Modelled from the spec: the nested agent runs `setup`, `isolate_process` and
`isolate_network` in this order, and a failure ends it. -/
def isolate (self : Isolation) (k : Syscalls) (isoCtl : IsolationControls) (v : View) :
    View × Except Nat Unit :=
  match setup k isoCtl v with
  | (v, .error e) => (v, .error e)
  | (v, .ok ()) =>
    match self.isolateProcess k isoCtl v with
    | (v, .error e) => (v, .error e)
    | (v, .ok ()) => isolateNetwork isoCtl v

end Isolation

/-! ## What the steps are for -/

/-- Calls made in order, each applying its effect when the kernel grants it; the first
refusal ends the run with its errno. -/
def runCalls : List (Except Nat Unit × (View → View)) → View → View × Except Nat Unit
  | [], v => (v, .ok ())
  | (.error e, _) :: _, v => (v, .error e)
  | (.ok (), effect) :: calls, v => runCalls calls (effect v)

/-- The calls of `isolate_process` and of the `setup` before it, with their effects. -/
def Isolation.calls (self : Isolation) (k : Syscalls) : List (Except Nat Unit × (View → View)) :=
  [(k.mountRoot, fun v => { v with rootPrivate := true }),
    (k.mountProc, fun v => { v with procMounted := true }),
    (k.sethostname, fun v => { v with hostname := some self.name }),
    (k.setdomainname, fun v => { v with domainname := some self.name })]

namespace Isolation

variable (self : Isolation) (k : Syscalls) (isoCtl : IsolationControls) (v : View)

theorem isolateNetwork_eq : isolateNetwork isoCtl v = (v, .ok ()) := by
  unfold isolateNetwork
  split <;> rfl

/-- **The isolation is its calls.** The three steps make the four calls in order, stopping at
the first refusal, when `isolate_process` is set, and none otherwise. -/
theorem isolate_eq_runCalls :
    self.isolate k isoCtl v = if isoCtl.isolateProcess then runCalls (self.calls k) v
      else (v, .ok ()) := by
  unfold isolate setup isolateProcess calls
  simp only [isolateNetwork_eq]
  cases isoCtl.isolateProcess
  · rfl
  rcases k.mountRoot with _ | ⟨⟩ <;> rcases k.mountProc with _ | ⟨⟩ <;>
    rcases k.sethostname with _ | ⟨⟩ <;> rcases k.setdomainname with _ | ⟨⟩ <;> rfl

/-- With `isolate_process` off, every step is a no-op that succeeds. -/
theorem isolate_of_not_isolateProcess (h : isoCtl.isolateProcess = false) :
    self.isolate k isoCtl v = (v, .ok ()) := by
  rw [isolate_eq_runCalls, if_neg (by simp [h])]

/-- With `isolate_process` on and every call granted, the nested agent sees the isolation
the spec asks for. -/
theorem isolate_ok (h : isoCtl.isolateProcess = true) (hroot : k.mountRoot = .ok ())
    (hproc : k.mountProc = .ok ()) (hhost : k.sethostname = .ok ())
    (hdomain : k.setdomainname = .ok ()) :
    self.isolate k isoCtl v = (⟨true, true, some self.name, some self.name⟩, .ok ()) := by
  rw [isolate_eq_runCalls, if_pos h]
  simp [calls, hroot, hproc, hhost, hdomain, runCalls]

/-- A run of calls fails with the errno of the first refused call, after the effects of the
calls before it and none after. -/
theorem runCalls_error {calls : List (Except Nat Unit × (View → View))} {v w : View} {e : Nat}
    (h : runCalls calls v = (w, .error e)) :
    ∃ granted rest effect, calls = granted ++ (.error e, effect) :: rest ∧
      (∀ c ∈ granted, c.1 = .ok ()) ∧ w = granted.foldl (fun v c => c.2 v) v := by
  induction calls generalizing v with
  | nil => cases h
  | cons c calls ih =>
    obtain ⟨_ | ⟨⟩, effect⟩ := c
    · cases h
      exact ⟨[], calls, effect, rfl, by simp, rfl⟩
    · obtain ⟨granted, rest, effect', rfl, hgranted, rfl⟩ := ih h
      exact ⟨(.ok (), effect) :: granted, rest, effect', rfl,
        List.forall_mem_cons.mpr ⟨rfl, hgranted⟩, rfl⟩

/-- **A refused call ends the isolation.** When the isolation fails with `e`, `e` is the
errno of the first of its calls the kernel refused; the calls before it were granted and
their effects made, and no call after it was made. -/
theorem isolate_error {w : View} {e : Nat} (h : self.isolate k isoCtl v = (w, .error e)) :
    isoCtl.isolateProcess = true ∧ ∃ granted rest effect,
      self.calls k = granted ++ (.error e, effect) :: rest ∧
      (∀ c ∈ granted, c.1 = .ok ()) ∧ w = granted.foldl (fun v c => c.2 v) v := by
  rw [isolate_eq_runCalls] at h
  cases hiso : isoCtl.isolateProcess <;> rw [hiso] at h
  · cases h
  · exact ⟨rfl, runCalls_error h⟩

end Isolation

end Aurae
