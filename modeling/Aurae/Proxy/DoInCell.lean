import Aurae.Cells.Registry
import Aurae.Service.Errors
import Aurae.Proxy.Backoff

/-!
# `do_in_cell!`: the proxy to a nested agent

A request addressed below one of this agent's cells is carried by `do_in_cell!`
(`cell_service.rs`): read the cell's client config from the registry, dial the nested
agent until it connects, then make the nested call until it answers with something other
than a transport error. Both loops run on one strategy; `backoff::future::retry` resets
it first (the crate's documented contract).

The world answers every dial (`Net.dial`), says how long each attempt takes and draws the
randomized delays; the nested call is an argument (`call`), run on the nested world `σ`,
so that the same macro serves the routing proofs (where the nested agent is this very
service) and the fault proofs.

* `doInCell_runs` — the control flow on every sequence of outcomes (`ProxyRun`): nothing
  is dialled without a client config, the call is made only once connected, only a
  `ConnectionError` is re-dialled and only a transport error re-sent (always the same
  request), and the answer returned is the last one;
* `doInCell_bounded` — the macro ends on every world after at most `loopFuel` attempts
  per loop; each loop sleeps at most `maxElapsedTime`, the two together twice that;
* `doInCell_sleeps_past_budget` — and twice is reached: `retry` starts the strategy's clock
  again, so a call whose dial loop ran near its budget sleeps as long again in its calls.
-/

namespace Aurae

/-- The world's answers to one `do_in_cell!`: the outcome of each dial, how long each
attempt of either loop takes, and each loop's random draws. -/
structure Net where
  dial : Nat → Except AuraeClientError Unit
  dialTook : Nat → Nat
  dialDraw : Nat → Nat
  callTook : Nat → Nat
  callDraw : Nat → Nat

/-- `e @ Err(AuraeClientError::ConnectionError(_))`: the one dial error retried. -/
def isConnectionError : Except AuraeClientError Unit → Bool
  | .error (.connectionError _) => true
  | _ => false

/-- The retry closure's triage: a transport error is transient (`Err(e)?`), every other
status permanent (`backoff::Error::Permanent`). -/
def isTransient {Resp : Type} : Except Status Resp → Bool
  | .error e => e.isTransportError
  | .ok _ => false

/-- The dial loop of `do_in_cell!`: `AuraeClient::new(client_config)` until it connects,
fails with another error, or the strategy gives up. -/
def dialLoop (net : Net) (now : Nat) (b : ExponentialBackoff) :
    Option (LoopEnd Unit (Except AuraeClientError Unit)) :=
  retryLoop (fun k _ => ((), net.dial k)) isConnectionError net.dialTook net.dialDraw
    loopFuel 0 now b ()

/-- `backoff::future::retry(retry_strategy, op)`: the strategy is reset, then the nested
call runs until it answers, fails permanently, or the strategy gives up. -/
def retry {σ Resp : Type} (net : Net) (call : Nat → σ → σ × Except Status Resp) (now : Nat)
    (b : ExponentialBackoff) (s : σ) : Option (LoopEnd σ (Except Status Resp)) :=
  retryLoop call isTransient net.callTook net.callDraw loopFuel 0 now (b.reset now) s

/-- One `do_in_cell!` as it ran: the registry after the lookup of the client config, the
dial loop and the nested-call loop when they ran, and the answer. -/
structure Proxied (σ Resp : Type) where
  cells : Cells
  dial : Option (LoopEnd Unit (Except AuraeClientError Unit))
  call : Option (LoopEnd σ (Except Status Resp))
  result : Except Status Resp

/-- `do_in_cell!($self, $cell_name, $function, $request)`, from time `now` on the nested
world `s`; `call cfg k request` is the `k`-th sending of `request` to the agent behind
`cfg`. -/
def doInCell {σ Req Resp : Type} (cgroups : Cgroups) (cells : Cells) (cellName : CellName)
    (net : Net) (now : Nat) (request : Req)
    (call : ClientConfig → Nat → Req → σ → σ × Except Status Resp) (s : σ) :
    Option (Proxied σ Resp) :=
  match cells.get cgroups cellName Cell.clientConfig with
  | (cells, .error e) => some ⟨cells, none, none, .error (CellsServiceError.cellsError e).toStatus⟩
  | (cells, .ok clientConfig) =>
    (dialLoop net now (.build now)).bind fun d =>
      match d.outcome with
      | .error e =>
        some ⟨cells, some d, none, .error (CellsServiceError.auraeClientError e).toStatus⟩
      | .ok () =>
        (retry net (fun k => call clientConfig k request) d.now d.backoff s).map fun c =>
          ⟨cells, some d, some c, c.outcome⟩

/-- The nested world after the call: what the last attempt left, or as it was. -/
def Proxied.state {σ Resp : Type} (p : Proxied σ Resp) (s : σ) : σ :=
  match p.call with
  | some c => c.state
  | none => s

/-! ## Control flow -/

section Spec

variable {σ Req Resp : Type} {cgroups : Cgroups} {cells : Cells} {cellName : CellName}
  {net : Net} {now : Nat} {request : Req}
  {call : ClientConfig → Nat → Req → σ → σ × Except Status Resp} {s : σ}

/-- What one `do_in_cell!` did, on the registry `cells` with the nested call `call`: its
lookup of the client config; without one, no dial and no call; with one, a dial loop that
re-dials only after a `ConnectionError` the strategy gave a delay for, a dial error that
ends the call converted through `CellsServiceError`, and, only once connected, a nested
call re-sent with the same request only after a transport error the strategy gave a delay
for, whose last answer is returned unchanged. -/
structure ProxyRun (cgroups : Cgroups) (cells : Cells) (cellName : CellName) (net : Net)
    (request : Req) (call : ClientConfig → Nat → Req → σ → σ × Except Status Resp) (s : σ)
    (p : Proxied σ Resp) : Prop where
  lookup : p.cells = (cells.get cgroups cellName Cell.clientConfig).1
  no_config : ∀ e, (cells.get cgroups cellName Cell.clientConfig).2 = .error e →
    p.dial = none ∧ p.call = none ∧ p.result = .error (CellsServiceError.cellsError e).toStatus
  dialled : ∀ cfg, (cells.get cgroups cellName Cell.clientConfig).2 = .ok cfg →
    ∃ d, p.dial = some d ∧ RetryRun (fun k _ => ((), net.dial k)) isConnectionError 0 () d ∧
      (∀ e, d.outcome = .error e →
        p.call = none ∧ p.result = .error (CellsServiceError.auraeClientError e).toStatus) ∧
      (d.outcome = .ok () → ∃ c, p.call = some c ∧
        RetryRun (fun k => call cfg k request) isTransient 0 s c ∧ p.result = c.outcome)

theorem doInCell_spec {p : Proxied σ Resp}
    (h : doInCell cgroups cells cellName net now request call s = some p) :
    ProxyRun cgroups cells cellName net request call s p := by
  unfold doInCell at h
  rcases hget : cells.get cgroups cellName Cell.clientConfig with ⟨cells', e | cfg⟩ <;>
    rw [hget] at h
  · cases h
    refine ⟨by rw [hget], fun e' he => ?_, fun _ hc => ?_⟩ <;> rw [hget] at *
    · cases he; exact ⟨rfl, rfl, rfl⟩
    · cases hc
  · obtain ⟨d, hd, h⟩ := Option.bind_eq_some.mp h
    refine ⟨?_, fun _ he => (by rw [hget] at he; cases he), fun cfg' hcfg => ?_⟩
    all_goals rcases hout : d.outcome with e | ⟨⟩ <;> rw [hout] at h
    · cases h; rw [hget]
    · obtain ⟨c, -, rfl⟩ := Option.map_eq_some'.mp h; rw [hget]
    · rw [hget] at hcfg; cases hcfg; cases h
      refine ⟨d, rfl, retryLoop_spec hd, fun e' he => ?_, fun hok => ?_⟩ <;> rw [hout] at *
      · cases he; exact ⟨rfl, rfl⟩
      · cases hok
    · rw [hget] at hcfg; cases hcfg
      obtain ⟨c, hc, rfl⟩ := Option.map_eq_some'.mp h
      exact ⟨d, rfl, retryLoop_spec hd, fun _ he => (by rw [hout] at he; cases he),
        fun _ => ⟨c, rfl, retryLoop_spec hc, rfl⟩⟩

/-- `do_in_cell!` returns on every world: each of its loops ends within `loopFuel`. -/
theorem doInCell_isSome : (doInCell cgroups cells cellName net now request call s).isSome := by
  unfold doInCell
  rcases cells.get cgroups cellName Cell.clientConfig with ⟨cells', e | cfg⟩ <;> dsimp only
  · rfl
  obtain ⟨d, hd⟩ : ∃ d, dialLoop net now (.build now) = some d :=
    Option.isSome_iff_exists.mp retryLoop_loopFuel_isSome
  rw [hd, Option.some_bind]
  rcases d.outcome with e | ⟨⟩ <;> dsimp only
  · rfl
  rw [Option.isSome_map']
  exact retryLoop_loopFuel_isSome

/-- The nested world after `do_in_cell!` keeps every property each nested attempt keeps. -/
theorem doInCell_state {P : σ → Prop} (hP : ∀ cfg k s, P s → P (call cfg k request s).1)
    {p : Proxied σ Resp} (h : doInCell cgroups cells cellName net now request call s = some p)
    (hs : P s) : P (p.state s) := by
  have hr := doInCell_spec h
  unfold Proxied.state
  rcases hc : p.call with _ | c
  · exact hs
  · rcases hg : (cells.get cgroups cellName Cell.clientConfig).2 with e | cfg
    · rw [(hr.no_config e hg).2.1] at hc; cases hc
    · obtain ⟨d, -, -, herr, hok⟩ := hr.dialled cfg hg
      rcases hd : d.outcome with e | ⟨⟩
      · rw [(herr e hd).1] at hc; cases hc
      · obtain ⟨c', hc', hrun, -⟩ := hok hd
        rw [hc'] at hc
        cases hc
        exact hrun.state (hP cfg) hs

end Spec

/-! ## Termination and the sleep budget -/

/-- All that one `do_in_cell!` slept, in both loops. -/
def Proxied.slept {σ Resp : Type} (p : Proxied σ Resp) : Nat :=
  (p.dial.map fun d => d.sleeps.sum).getD 0 + (p.call.map fun c => c.sleeps.sum).getD 0

/-- **The proxy ends, within two budgets.** On every world `do_in_cell!` returns, after at
most `loopFuel` dial attempts and `loopFuel` nested calls; each of its loops sleeps at
most `maxElapsedTime`, and the two together at most twice that. -/
theorem doInCell_bounded {σ Req Resp : Type} (cgroups : Cgroups) (cells : Cells)
    (cellName : CellName) (net : Net) (now : Nat) (request : Req)
    (call : ClientConfig → Nat → Req → σ → σ × Except Status Resp) (s : σ) :
    ∃ p, doInCell cgroups cells cellName net now request call s = some p ∧
      (∀ d, p.dial = some d → d.outcomes.length ≤ loopFuel ∧ d.sleeps.sum ≤ maxElapsedTime) ∧
      (∀ c, p.call = some c → c.outcomes.length ≤ loopFuel ∧ c.sleeps.sum ≤ maxElapsedTime) ∧
      p.slept ≤ 2 * maxElapsedTime := by
  unfold doInCell
  rcases cells.get cgroups cellName Cell.clientConfig with ⟨cells', e | cfg⟩ <;> dsimp only
  · exact ⟨_, rfl, fun _ h => (by cases h), fun _ h => (by cases h), by simp [Proxied.slept]⟩
  · obtain ⟨d, hd⟩ : ∃ d, dialLoop net now (.build now) = some d :=
      Option.isSome_iff_exists.mp retryLoop_loopFuel_isSome
    have hdb : d.outcomes.length ≤ loopFuel ∧ d.sleeps.sum ≤ maxElapsedTime :=
      ⟨retryLoop_length_le hd, retryLoop_sleeps_le hd⟩
    rw [hd, Option.some_bind]
    rcases d.outcome with e | ⟨⟩ <;> dsimp only
    · exact ⟨_, rfl, fun _ h => (by cases h; exact hdb), fun _ h => (by cases h),
        by simp [Proxied.slept]; omega⟩
    · obtain ⟨c, hc⟩ : ∃ c, retry net (fun k => call cfg k request) d.now d.backoff s = some c :=
        Option.isSome_iff_exists.mp retryLoop_loopFuel_isSome
      have hcb : c.outcomes.length ≤ loopFuel ∧ c.sleeps.sum ≤ maxElapsedTime :=
        ⟨retryLoop_length_le hc, retryLoop_sleeps_le hc⟩
      rw [hc]
      exact ⟨_, rfl, fun _ h => (by cases h; exact hdb), fun _ h => (by cases h; exact hcb),
        by simp [Proxied.slept]; omega⟩

/-- A world whose nested agent refuses its first six dials and then accepts, whose nested
calls all end in a transport error, each attempt at once, the draws always the largest. -/
def lateNet : Net :=
  ⟨fun k => if k < 6 then .error (.connectionError "refused") else .ok (), fun _ => 0,
    fun _ => maxInterval, fun _ => 0, fun _ => maxInterval⟩

/-- A registry with `alpha` allocated. -/
def alphaCells : Cells := ⟨(∅ : Cache).insert alpha ⟨alpha, .newForTests, .allocated⟩⟩

/-- The failing case: against `lateNet` the dial loop sleeps 75 + 750 + 4 × 4500 ms and
connects at 18.825 s, within its budget; `retry` then starts the strategy's clock again, and
the call loop sleeps the same 18.825 s before the strategy refuses. One `do_in_cell!` sleeps
37.65 s, past the 20 s the strategy is built with. -/
theorem doInCell_sleeps_past_budget :
    (doInCell (fun _ => true) alphaCells alpha lateNet 0 ()
        (fun _ _ _ (s : Unit) => (s, (.error Status.transportError : Except Status Unit))) ()).map
      (fun p => (p.dial.map fun d => d.sleeps.sum, p.call.map fun c => c.sleeps.sum, p.slept)) =
      some (some 18825, some 18825, 37650) ∧ maxElapsedTime < 37650 := by
  constructor <;> decide

end Aurae
