import Aurae.Service.Routing

/-!
# A lost response: the request is sent again

`do_in_cell!` sends `request.clone()` again after every transport error, and a transport
error is also what the proxy sees when the nested agent served the request but its answer
was lost on the way back. The nested agent then serves the same request a second time, on
the state the first left, and the caller receives the answer to that duplicate. A request
lost on the way there is, by contrast, served once.

* `inCell_resent` — through a hop whose first response is lost, the proxied call is the
  nested agent's answer to the second sending;
* `Method.Sound.resends` — for any method: the leaf's handler runs twice, the second time on
  the state the first left, the leaf receives the request twice, and the caller receives
  the second answer;
* `Method.Sound.answersDuplicate` — when the first run succeeded, that answer is the
  failure the handler gives a duplicate (`CellExists`, `CellNotFound`, `ExecutableExists`,
  `ExecutableNotFound`), while the leaf keeps what the first run did;
* `Method.Sound.serve_dropped` — when it is the request that is lost, the retry is
  harmless: the request is routed as through a ready hop, served once.

Each needs the second sending to be made: the strategy, started again by `retry`, grants the
first retry its delay only when that delay ends within the budget (`HopLosesFirst.took`).
-/

namespace Aurae

/-- A hop that opens at once and loses the response to its first call: the first call and the
delay drawn after it end within the budget, so the second call is sent, and it is
delivered. -/
structure HopLosesFirst (env : Env) (agents : Addr → Agent) (a : Addr) (n : CellName) extends
    HopOpen env agents a n : Prop where
  lost : (env.kernel a).fate 0 = .responseLost
  resent : (env.kernel a).fate 1 = .delivered
  took : (env.kernel a).net.callTook 0 +
    ExponentialBackoff.randomize initialInterval ((env.kernel a).net.callDraw 0) ≤ maxElapsedTime

/-- A hop that opens at once and loses its first request on the way, before the nested agent
sees it: the first call and the delay drawn after it end within the budget, so the second
call is sent, and it is delivered. -/
structure HopDropsFirst (env : Env) (agents : Addr → Agent) (a : Addr) (n : CellName) extends
    HopOpen env agents a n : Prop where
  dropped : (env.kernel a).fate 0 = .requestLost
  resent : (env.kernel a).fate 1 = .delivered
  took : (env.kernel a).net.callTook 0 +
    ExponentialBackoff.randomize initialInterval ((env.kernel a).net.callDraw 0) ≤ maxElapsedTime

section InCell

variable {env : Env} {nested : World → Addr → Request → Option (World × Handled Response)}

/-- Through a hop that opens at once, a first call that ends in a transport error, on the
world `w₁`, is followed by a second; when that one answers `x`, the proxied call answers
`x`. -/
theorem inCell_second {w w₁ w₂ : World} {a : Addr} {n : CellName} {request : Request}
    (hopen : HopOpen env w.agents a n) (htook : (env.kernel a).net.callTook 0 +
      ExponentialBackoff.randomize initialInterval ((env.kernel a).net.callDraw 0) ≤ maxElapsedTime)
    (hcall₀ : nestedCall env nested a ⟨n⟩ 0 request (some w) =
      (some w₁, .error Status.transportError))
    {x : Except Status Response} (hcall₁ : nestedCall env nested a ⟨n⟩ 1 request (some w₁) =
      (some w₂, x)) (hx : isTransient x = false) (hw₂ : w₂.agents a = w.agents a) :
    inCell env nested w a n request = some (w₂, .ok x) := by
  rw [inCell_of_open hopen, show loopFuel = 801 + 1 from rfl,
    retryLoop_of_retry (by rw [hcall₀]; exact Status.isTransportError_transportError)
      (ExponentialBackoff.nextBackoff_build _ htook), hcall₀,
    retryLoop_of_final (by rw [hcall₁]; exact hx)]
  simp only [hcall₁, Option.map_some']
  exact inCell_end rfl hw₂

/-- Through a hop whose first response is lost, the proxied call is the nested agent's
answer to the second sending, served on the world the first left. -/
theorem inCell_resent {w w₁ w₂ : World} {a : Addr} {n : CellName} {request : Request}
    (hop : HopLosesFirst env w.agents a n) {h₁ : Handled Response}
    (hn₁ : nested w (a ++ [n]) request = some (w₁, h₁)) {x : Except Status Response}
    (hn₂ : nested w₁ (a ++ [n]) request = some (w₂, .ok x)) (hx : isTransient x = false)
    (hw₂ : w₂.agents a = w.agents a) :
    inCell env nested w a n request = some (w₂, .ok x) :=
  inCell_second hop.toHopOpen hop.took
    (show nestedCall env nested a ⟨n⟩ 0 request (some w) = (some w₁, _) by
      simp [nestedCall, hop.lost, hn₁])
    (by simp [nestedCall, hop.resent, hn₂, Handled.toReply]) hx hw₂

/-- Through a hop whose first request is lost, the proxied call is the nested agent's answer
to the one sending that reached it. -/
theorem inCell_dropped {w w' : World} {a : Addr} {n : CellName} {request : Request}
    (hop : HopDropsFirst env w.agents a n) {x : Except Status Response}
    (hn : nested w (a ++ [n]) request = some (w', .ok x)) (hx : isTransient x = false)
    (hw' : w'.agents a = w.agents a) :
    inCell env nested w a n request = some (w', .ok x) :=
  inCell_second hop.toHopOpen hop.took
    (show nestedCall env nested a ⟨n⟩ 0 request (some w) = (some w, _) by
      simp [nestedCall, hop.dropped])
    (by simp [nestedCall, hop.resent, hn, Handled.toReply]) hx hw'

end InCell

section Resend

variable {Req V : Type} {M : Method Req V} {d : Nat} {env : Env}

/-- What a request for a leaf one hop down from `a` leaves when the first response is lost:
the leaf's handler has run on the forwarded request twice, the second time on the state
the first left; the caller is given the second answer; the leaf's deliveries are recorded
twice. -/
def Method.resent (M : Method Req V) (env : Env) (w : World) (a : Addr) (r : Req) (v : V)
    (n : CellName) (rest : CellNamePath) : World × Handled Response :=
  let leaf := a ++ [n]
  let forwarded := M.wrap (M.setPath r (CellNamePath.intoString rest))
  let first := M.localCall (env.kernel leaf) (w.agents leaf) (M.withPath v rest)
  let second := M.localCall (env.kernel leaf) first.1 (M.withPath v rest)
  (⟨Function.update w.agents leaf second.1,
    w.received ++ [(a, M.wrap r), (leaf, forwarded), (leaf, forwarded)]⟩, second.2)

/-- **A lost response is sent again**, for one method: with enough fuel, a request for a
leaf one hop down through a hop that loses its first response, whose second sending the
leaf answers, is `Method.resent`. -/
def Method.Resends (M : Method Req V) (d : Nat) : Prop :=
  ∀ (env : Env) (w : World) (a : Addr) (r : Req) (v : V) (n : CellName) (rest : CellNamePath)
    (f : Nat), M.validate env.mask r = .ok v → M.path v = n :: rest → rest.length = d →
    HopLosesFirst env w.agents a n → (∃ x, (M.resent env w a r v n rest).2 = .ok x) →
    serve env (f + 2) w a (M.wrap r) = some (M.resent env w a r v n rest)

/-- What the local handler of `M` does with a duplicate of a request it served: it leaves
the state the first left, and fails with an error `dup` allows. -/
def Method.RefusesAgain (M : Method Req V) (d : Nat) (dup : V → CellsServiceError → Prop) :
    Prop :=
  ∀ k ag v, (M.path v).length = d → (∃ x, (M.localCall k ag v).2 = .ok (.ok x)) →
    ∃ e, dup v e ∧
      M.localCall k (M.localCall k ag v).1 v = ((M.localCall k ag v).1, .ok (.error e.toStatus))

/-- **A lost response is answered by the duplicate**, for one method: when the leaf
served the first sending successfully but its response was lost, the caller is given the
failure the duplicate provokes, an error `dup` allows, while the leaf keeps what the first
sending did. -/
def Method.AnswersDuplicate (M : Method Req V) (d : Nat) (dup : V → CellsServiceError → Prop) :
    Prop :=
  ∀ (env : Env) (w : World) (a : Addr) (r : Req) (v : V) (n : CellName) (rest : CellNamePath)
    (f : Nat), M.validate env.mask r = .ok v → M.path v = n :: rest → rest.length = d →
    HopLosesFirst env w.agents a n →
    (∃ x, (M.localCall (env.kernel (a ++ [n])) (w.agents (a ++ [n])) (M.withPath v rest)).2 =
      .ok (.ok x)) →
    ∃ e, dup (M.withPath v rest) e ∧
      serve env (f + 2) w a (M.wrap r) =
        some ((M.resent env w a r v n rest).1, .ok (.error e.toStatus)) ∧
      (M.resent env w a r v n rest).1.agents (a ++ [n]) =
        (M.localCall (env.kernel (a ++ [n])) (w.agents (a ++ [n])) (M.withPath v rest)).1

theorem Method.Sound.resends (hS : M.Sound d) : M.Resends d := by
  intro env w a r v n rest f hv hp hl hop ⟨x, hx⟩
  have hfwd := hS.forward _ _ _ rest hv hl.ge
  have hlocal : (M.path (M.withPath v rest)).length = d := by rw [hS.path_withPath, hl]
  have hne : a ≠ a ++ [n] := fun h => by simpa using congrArg List.length h
  have hx' : (M.localCall (env.kernel (a ++ [n]))
      (M.localCall (env.kernel (a ++ [n])) (w.agents (a ++ [n])) (M.withPath v rest)).1
      (M.withPath v rest)).2 = .ok x := hx
  have htr := hS.isTransient_localCall hlocal hx'
  rw [hS.serve_hop hv hp hl.ge (f + 1),
    show M.resent env w a r v n rest = ((M.resent env w a r v n rest).1, .ok x) from Prod.ext rfl hx]
  refine inCell_resent (w := w.receive a (M.wrap r)) hop (hS.serve_local hfwd hlocal f) ?_ htr
    (by simp [Method.resent, Function.update_noteq hne])
  rw [hS.serve_local hfwd hlocal f]
  simp only [World.receive_agents, World.setAgent_agents, Function.update_same, hx']
  simp [Method.resent, World.setAgent, World.receive, Function.update_idem]

/-- **A lost request is sent again, and served once** (the spec's transient transport
error): a request for a leaf one hop down, through a hop that loses its first request, is
routed as through a ready hop — one delivery to the leaf, and the leaf's answer — when the
leaf answers. -/
theorem Method.Sound.serve_dropped (hS : M.Sound d) {w : World} {a : Addr} {r : Req} {v : V}
    (hv : M.validate env.mask r = .ok v) {n : CellName} {rest : CellNamePath}
    (hp : M.path v = n :: rest) (hl : rest.length = d) (hop : HopDropsFirst env w.agents a n)
    (hans : ∃ x, (M.routed env w d a r v (n :: rest)).2 = .ok x) (f : Nat) :
    serve env (f + 2) w a (M.wrap r) = some (M.routed env w d a r v (n :: rest)) := by
  have hleaf := hS.serve_routed_local (w := w.receive a (M.wrap r)) (a := a ++ [n]) (f := f)
    (hS.forward _ _ _ rest hv hl.ge) (by rw [hS.path_withPath, hl])
  rw [hS.path_withPath] at hleaf
  exact hS.serve_hop_routed hv hp hl.ge hleaf (hS.routed_cons hv hp hl.ge ▸ hans)
    fun hn htr hself => inCell_dropped (w := w.receive a (M.wrap r)) hop hn htr hself

/-- `readyEnv`, except that every agent's first nested request is lost on the way. -/
def droppingEnv : Env :=
  { readyEnv with
    kernel := fun a => { readyEnv.kernel a with
      fate := fun k => if k = 0 then .requestLost else .delivered } }

/-- An Allocate of `alpha/beta` whose first request to `alpha`'s nested agent is lost, and
which that agent answers, is routed as through a ready hop. -/
theorem serve_allocate_alpha_beta_dropped :
    (∃ x, (allocateRpc.routed droppingEnv alphaWorld 1 [] ⟨some ⟨"alpha/beta", none, none, false, false⟩⟩
        ⟨⟨[alpha, beta], none, none, false, false⟩⟩ [alpha, beta]).2 = .ok x) ∧
      serve droppingEnv 3 alphaWorld [] (.allocate ⟨some ⟨"alpha/beta", none, none, false, false⟩⟩) =
        some (allocateRpc.routed droppingEnv alphaWorld 1 []
          ⟨some ⟨"alpha/beta", none, none, false, false⟩⟩
          ⟨⟨[alpha, beta], none, none, false, false⟩⟩ [alpha, beta]) :=
  have hv : allocateRpc.validate droppingEnv.mask ⟨some ⟨"alpha/beta", none, none, false, false⟩⟩ =
      .ok ⟨⟨[alpha, beta], none, none, false, false⟩⟩ := rfl
  have hop : HopDropsFirst droppingEnv alphaWorld.agents [] alpha :=
    ⟨⟨⟨⟨alpha, .newForTests, .allocated⟩, rfl, rfl, rfl⟩, rfl, rfl⟩, rfl, rfl, by decide⟩
  have hans : ∃ x, (allocateRpc.routed droppingEnv alphaWorld 1 []
      ⟨some ⟨"alpha/beta", none, none, false, false⟩⟩ ⟨⟨[alpha, beta], none, none, false, false⟩⟩
      [alpha, beta]).2 = .ok x := ⟨_, rfl⟩
  ⟨hans, allocateRpc_sound.serve_dropped hv rfl rfl hop hans 1⟩

theorem Method.Sound.answersDuplicate {dup : V → CellsServiceError → Prop} (hS : M.Sound d)
    (hA : M.RefusesAgain d dup) : M.AnswersDuplicate d dup := by
  intro env w a r v n rest f hv hp hl hop hfirst
  have hlocal : (M.path (M.withPath v rest)).length = d := by rw [hS.path_withPath, hl]
  obtain ⟨e, he, hagain⟩ :=
    hA (env.kernel (a ++ [n])) (w.agents (a ++ [n])) (M.withPath v rest) hlocal hfirst
  refine ⟨e, he, ?_⟩
  rw [hS.resends env w a r v n rest f hv hp hl hop
    ⟨.error e.toStatus, by simp only [Method.resent, hagain]⟩]
  simp only [Method.resent, hagain, Function.update_same, and_true]

end Resend

/-! ## What each handler does with a duplicate -/

/-- A mapped answer is a success only where the answer was. -/
theorem Handled.ok_of_map {α β : Type} {g : α → β} {h : Handled α} {y : β}
    (hy : h.map (Except.map g) = .ok (.ok y)) : ∃ x, h = .ok (.ok x) := by
  rcases h with _ | _ | x
  · cases hy
  · cases hy
  · exact ⟨x, rfl⟩

theorem allocateRpc_refusesAgain : allocateRpc.RefusesAgain 1
    fun v e => e ∈ v.cell.name.map fun m => .cellsError (.cellExists m) := by
  rintro k ag v hl ⟨y, hy⟩
  obtain ⟨m, hm⟩ := List.length_eq_one.mp hl
  obtain ⟨resp, hresp⟩ := Handled.ok_of_map hy
  have hm : v.cell.name = [m] := hm
  refine ⟨.cellsError (.cellExists m),
    show _ ∈ List.map _ v.cell.name by rw [hm]; exact List.mem_singleton_self _, ?_⟩
  simp only [allocateRpc, CellService.allocate_again hm hresp]
  rfl

theorem freeRpc_refusesAgain : freeRpc.RefusesAgain 1
    fun v e => e ∈ v.cellName.map fun m => .cellsError (.cellNotFound m) := by
  rintro k ag v hl ⟨y, hy⟩
  obtain ⟨m, hm⟩ := List.length_eq_one.mp hl
  obtain ⟨⟨⟩, hfree⟩ := Handled.ok_of_map hy
  have hm : v.cellName = [m] := hm
  refine ⟨.cellsError (.cellNotFound m),
    show _ ∈ List.map _ v.cellName by rw [hm]; exact List.mem_singleton_self _, ?_⟩
  simp only [freeRpc, CellService.free_again hm hfree]
  rfl

theorem startRpc_refusesAgain : startRpc.RefusesAgain 0
    fun v e => e = .executablesError (.executableExists v.executable.name.name) := by
  rintro k ag v hl ⟨y, hy⟩
  obtain ⟨pid, hstart⟩ := Handled.ok_of_map hy
  refine ⟨_, rfl, ?_⟩
  simp only [startRpc, CellService.start_again (List.length_eq_zero.mp hl) hstart]
  rfl

theorem stopRpc_refusesAgain : stopRpc.RefusesAgain 0
    fun v e => e = .executablesError (.executableNotFound v.executableName.name) := by
  rintro k ag v hl ⟨y, hy⟩
  obtain ⟨⟨⟩, hstop⟩ := Handled.ok_of_map hy
  refine ⟨_, rfl, ?_⟩
  simp only [stopRpc, CellService.stop_again (List.length_eq_zero.mp hl) hstop]
  rfl

/-! ## The service's contract -/

/-- **A lost response is answered by the duplicate.** For a request whose leaf is one hop
down, through a hop whose first dial connects and whose first response is lost, whose second
call is delivered with the first call and the delay drawn after it ending within the budget:
when the nested agent served the first sending, the proxy sends the request again and the
caller is given the duplicate's failure — `CellExists` (`AlreadyExists`) of the cell for
Allocate, `CellNotFound` (`NotFound`) for Free, `ExecutableExists` (`AlreadyExists`) of the
executable for Start, `ExecutableNotFound` (`NotFound`) for Stop — while the nested agent
keeps what the first sending did. -/
theorem lost_response_answered_by_duplicate :
    allocateRpc.AnswersDuplicate 1
        (fun v e => e ∈ v.cell.name.map fun m => .cellsError (.cellExists m)) ∧
      freeRpc.AnswersDuplicate 1
        (fun v e => e ∈ v.cellName.map fun m => .cellsError (.cellNotFound m)) ∧
      startRpc.AnswersDuplicate 0
        (fun v e => e = .executablesError (.executableExists v.executable.name.name)) ∧
      stopRpc.AnswersDuplicate 0
        (fun v e => e = .executablesError (.executableNotFound v.executableName.name)) :=
  ⟨allocateRpc_sound.answersDuplicate allocateRpc_refusesAgain,
    freeRpc_sound.answersDuplicate freeRpc_refusesAgain,
    startRpc_sound.answersDuplicate startRpc_refusesAgain,
    stopRpc_sound.answersDuplicate stopRpc_refusesAgain⟩

/-- `readyEnv`, except that every agent's first nested call loses its response. -/
def lossyEnv : Env :=
  { readyEnv with
    kernel := fun a => { readyEnv.kernel a with
      fate := fun k => if k = 0 then .responseLost else .delivered } }

/-- An Allocate of `alpha/beta` whose first response is lost: `alpha`'s nested agent has
allocated `beta`, and the caller is told `CellExists` of `beta` (`AlreadyExists`). -/
theorem serve_allocate_alpha_beta_lost_response :
    ∃ w', serve lossyEnv 3 alphaWorld [] (.allocate ⟨some ⟨"alpha/beta", none, none, false, false⟩⟩) =
        some (w', .ok (.error (CellsServiceError.cellsError (.cellExists beta)).toStatus)) ∧
      ((w'.agents [alpha]).cells.cache.lookup beta).map Cell.state = some .allocated :=
  have hop : HopLosesFirst lossyEnv alphaWorld.agents [] alpha :=
    ⟨⟨⟨⟨alpha, .newForTests, .allocated⟩, rfl, rfl, rfl⟩, rfl, rfl⟩, rfl, rfl, by decide⟩
  have ⟨e, he, h⟩ := allocateRpc_sound.answersDuplicate allocateRpc_refusesAgain lossyEnv
    alphaWorld [] ⟨some ⟨"alpha/beta", none, none, false, false⟩⟩
    ⟨⟨[alpha, beta], none, none, false, false⟩⟩ alpha [beta] 1 rfl rfl rfl hop ⟨_, rfl⟩
  have he : e = .cellsError (.cellExists beta) := List.mem_singleton.mp he
  ⟨_, he ▸ h.1,
    (congrArg (fun ag : Agent => (ag.cells.cache.lookup beta).map Cell.state) h.2).trans rfl⟩

end Aurae
