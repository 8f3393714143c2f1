import Aurae.Service.CellService

/-!
# Routing down the tree of agents

What `serve` does with a request, from what each method's handler relies on
(`Method.Sound`), in three steps: a request that fails validation is refused at once
(`Method.Sound.serve_of_validate_error`); a path of the method's local length is served by
the local handler (`Method.Sound.serve_local`); a longer path is a hop, proxied to the head's
nested agent with the tail (`Method.Sound.serve_hop`).

* `serve_answers` — with a fuel above the length of its cell path, every request is
  answered, and no panic is reached but `start`'s `expect("pid")`;
* `Method.Sound.routes` — **routing** (spec P4): when every hop goes through at its first
  attempt and the leaf answers, a request for `s₁/…/sₖ` is delivered once to each agent
  down the path, each time with its path replaced by what is left of it and nothing else
  changed, the last of them serves it locally, and its answer is what the first returns.
-/

namespace Aurae

/-! ## One proxied call -/

section InCell

variable {env : Env} {nested : World → Addr → Request → Option (World × Handled Response)}

theorem nestedCall_isSome {a : Addr} {cfg : ClientConfig} {k : Nat} {request : Request}
    (hn : ∀ w a', (nested w a' request).isSome) {ow : Option World} (h : ow.isSome) :
    (nestedCall env nested a cfg k request ow).1.isSome := by
  obtain ⟨w, rfl⟩ := Option.isSome_iff_exists.mp h
  obtain ⟨⟨w', hw'⟩, hnw⟩ := Option.isSome_iff_exists.mp (hn w (a ++ [cfg.cell]))
  unfold nestedCall
  cases (env.kernel a).fate k <;> simp [hnw]

/-- A proxied call is answered whenever the nested agent always answers the request. -/
theorem inCell_answers {request : Request} (hn : ∀ w a', (nested w a' request).isSome)
    (w : World) (a : Addr) (cellName : CellName) :
    ∃ w' x, inCell env nested w a cellName request = some (w', .ok x) := by
  obtain ⟨p, hp⟩ : ∃ p, doInCell (w.agents a).cgroups (w.agents a).cells cellName
      (env.kernel a).net env.now request (nestedCall env nested a) (some w) = some p :=
    Option.isSome_iff_exists.mp doInCell_isSome
  obtain ⟨w', hw'⟩ := Option.isSome_iff_exists.mp
    (doInCell_state (P := fun s : Option World => s.isSome = true)
      (fun _ _ _ hs => nestedCall_isSome hn hs) hp (rfl : (some w).isSome = true))
  exact ⟨_, _, by rw [inCell, hp, Option.some_bind, hw', Option.map_some']⟩

/-- A hop that opens at once: the agent at `a` has the cell `n` cached, allocated and named
so, with its cgroup in place, and its first dial connects. -/
structure HopOpen (env : Env) (agents : Addr → Agent) (a : Addr) (n : CellName) : Prop where
  cached : ∃ c, (agents a).cells.cache.lookup n = some c ∧ c.cellName = n ∧ c.state = .allocated
  cgroup : (agents a).cgroups n = true
  dial : (env.kernel a).net.dial 0 = .ok ()

/-- A hop that goes through at its first attempt: it opens at once and its first nested call
is delivered. -/
structure HopReady (env : Env) (agents : Addr → Agent) (a : Addr) (n : CellName) extends
    HopOpen env agents a n : Prop where
  fate : (env.kernel a).fate 0 = .delivered

theorem retryLoop_loopFuel {σ α : Type} {attempt : Nat → σ → σ × α} {retryable : α → Bool}
    {took draw : Nat → Nat} {k now : Nat} {b : ExponentialBackoff} {s : σ}
    (h : retryable (attempt k s).2 = false) :
    retryLoop attempt retryable took draw loopFuel k now b s =
      some ⟨(attempt k s).1, (attempt k s).2, [(attempt k s).2], [], now + took k, b⟩ :=
  retryLoop_of_final h

/-- Through a hop that opens at once, the proxied call is the loop of nested calls, and this
agent's registry is as it was. -/
theorem inCell_of_open {w : World} {a : Addr} {n : CellName} (hopen : HopOpen env w.agents a n)
    (request : Request) :
    inCell env nested w a n request =
      (retryLoop (fun k => nestedCall env nested a ⟨n⟩ k request) isTransient
          (env.kernel a).net.callTook (env.kernel a).net.callDraw loopFuel 0
          (env.now + (env.kernel a).net.dialTook 0)
          (.build (env.now + (env.kernel a).net.dialTook 0)) (some w)).bind fun c =>
        c.state.map fun w' =>
          (w'.setAgent a { w'.agents a with cells := (w.agents a).cells }, .ok c.outcome) := by
  obtain ⟨c, hc, hname, hstate⟩ := hopen.cached
  have hget : (w.agents a).cells.get (w.agents a).cgroups n Cell.clientConfig =
      ((w.agents a).cells, .ok ⟨n⟩) := by
    rw [Cells.get_of_cached hopen.cgroup hc]
    simp [Cell.clientConfig, hstate, hname, isCellNotAllocated]
  have hdial : dialLoop (env.kernel a).net env.now (.build env.now) =
      some ⟨(), .ok (), [.ok ()], [], env.now + (env.kernel a).net.dialTook 0, .build env.now⟩ := by
    unfold dialLoop
    rw [retryLoop_loopFuel] <;> simp [hopen.dial, isConnectionError]
  unfold inCell doInCell
  rw [hget]
  simp only [hdial, Option.some_bind, retry, ExponentialBackoff.reset]
  rcases retryLoop (fun k => nestedCall env nested a ⟨n⟩ k request) isTransient
    (env.kernel a).net.callTook (env.kernel a).net.callDraw loopFuel 0
    (env.now + (env.kernel a).net.dialTook 0) (.build (env.now + (env.kernel a).net.dialTook 0))
    (some w) with _ | c
  · rfl
  · rfl

/-- A loop whose run ends with the nested world `some w'` and the outcome `x`, on an agent
whose state `w'` kept, leaves `w'` and answers `x`. -/
theorem inCell_end {w w' : World} {a : Addr} {c : LoopEnd (Option World) (Except Status Response)}
    (hs : c.state = some w') (hw' : w'.agents a = w.agents a) :
    (some c).bind (fun c => c.state.map fun w' =>
        (w'.setAgent a { w'.agents a with cells := (w.agents a).cells },
          (.ok c.outcome : Handled Response))) =
      some (w', .ok c.outcome) := by
  simp only [Option.some_bind, hs, Option.map_some', World.setAgent, hw']
  show some ((⟨Function.update w'.agents a (w.agents a), w'.received⟩ : World), _) = _
  rw [← hw', Function.update_eq_self]

/-- Through a ready hop, the proxied call is the nested agent's answer, and this agent's
registry is as it was. -/
theorem inCell_ready {w : World} {a : Addr} {n : CellName} (hready : HopReady env w.agents a n)
    {request : Request} {w' : World} {x : Except Status Response}
    (hn : nested w (a ++ [n]) request = some (w', .ok x)) (hx : isTransient x = false)
    (hw' : w'.agents a = w.agents a) :
    inCell env nested w a n request = some (w', .ok x) := by
  have hcall : nestedCall env nested a ⟨n⟩ 0 request (some w) = (some w', x) := by
    simp [nestedCall, hready.fate, hn, Handled.toReply]
  rw [inCell_of_open hready.toHopOpen, retryLoop_loopFuel (by rw [hcall]; exact hx)]
  simp only [hcall]
  exact inCell_end rfl hw'

end InCell

/-! ## What `serve` does with one request -/

section Serve

variable {Req V : Type} {M : Method Req V} {d : Nat} {env : Env}
  {nested : World → Addr → Request → Option (World × Handled Response)}
  {w : World} {a : Addr} {r : Req} {v : V}

/-- A local answer is never the transient transport error. -/
theorem Method.Sound.isTransient_localCall (hS : M.Sound d) {k : Kernel} {ag : Agent} {v : V}
    (hl : (M.path v).length = d) {x : Except Status Response} (hx : (M.localCall k ag v).2 = .ok x) :
    isTransient x = false := by
  rcases hS.localCall k ag v hl with ⟨y, hy, htr⟩ | hpid
  · rw [hx] at hy
    cases hy
    exact htr
  · rw [hx] at hpid
    cases hpid

theorem Method.rpc_of_validate_error {e : ValidationError} (h : M.validate env.mask r = .error e) :
    M.rpc env nested w a r = some (w, .ok (.error e.toStatus)) := by
  simp [Method.rpc, h]

theorem Method.Sound.rpc_of_local (hS : M.Sound d) (h : M.validate env.mask r = .ok v)
    (hl : (M.path v).length = d) :
    M.rpc env nested w a r =
      some (w.setAgent a (M.localCall (env.kernel a) (w.agents a) v).1,
        (M.localCall (env.kernel a) (w.agents a) v).2) := by
  simp [Method.rpc, h, (hS.isLocal_iff _ _ _ h).mpr hl.le]

theorem Method.Sound.rpc_of_hop (hS : M.Sound d) (h : M.validate env.mask r = .ok v)
    {n : CellName} {rest : CellNamePath} (hp : M.path v = n :: rest) (hd : d ≤ rest.length) :
    M.rpc env nested w a r = inCell env nested w a n (M.wrap (M.setPath r rest.intoString)) := by
  have hl : M.isLocal r = false := by
    rw [Bool.eq_false_iff, Ne, hS.isLocal_iff _ _ _ h, hp, List.length_cons]
    omega
  simp [Method.rpc, h, hl, hp, hS.rewritable _ _ _ h]

/-- **Refused before anything is touched.** A request that fails validation is answered
with `InvalidArgument` naming the field; no agent's state changes, only the request's
delivery is recorded. -/
theorem Method.Sound.serve_of_validate_error (hS : M.Sound d) {e : ValidationError}
    (h : M.validate env.mask r = .error e) (f : Nat) :
    serve env (f + 1) w a (M.wrap r) = some (w.receive a (M.wrap r), .ok (.error e.toStatus)) := by
  rw [hS.served, Method.rpc_of_validate_error h]

theorem Method.Sound.serve_local (hS : M.Sound d) (h : M.validate env.mask r = .ok v)
    (hl : (M.path v).length = d) (f : Nat) :
    serve env (f + 1) w a (M.wrap r) =
      some ((w.receive a (M.wrap r)).setAgent a (M.localCall (env.kernel a) (w.agents a) v).1,
        (M.localCall (env.kernel a) (w.agents a) v).2) := by
  rw [hS.served, hS.rpc_of_local h hl]
  rfl

theorem Method.Sound.serve_hop (hS : M.Sound d) (h : M.validate env.mask r = .ok v)
    {n : CellName} {rest : CellNamePath} (hp : M.path v = n :: rest) (hd : d ≤ rest.length)
    (f : Nat) :
    serve env (f + 1) w a (M.wrap r) =
      inCell env (serve env f) (w.receive a (M.wrap r)) a n (M.wrap (M.setPath r rest.intoString)) := by
  rw [hS.served, hS.rpc_of_hop h hp hd]

/-- A request whose path is longer than this agent serves is a hop; the forwarded request
is served whenever every shorter request is, and the hop answers whatever it is served
with. -/
theorem Method.Sound.answers (hS : M.Sound d) {f : Nat}
    (ih : ∀ w a request, request.cellPath.length < f →
      ∃ w' h, serve env f w a request = some (w', h) ∧ h.AnswersOrPid)
    (h : (M.wrap r).cellPath.length < f + 1) (w : World) (a : Addr) :
    ∃ w' h, serve env (f + 1) w a (M.wrap r) = some (w', h) ∧ h.AnswersOrPid := by
  rcases hv : M.validate env.mask r with e | v
  · exact ⟨_, _, hS.serve_of_validate_error hv f, .inl ⟨_, rfl⟩⟩
  rcases Nat.lt_or_ge d (M.path v).length with hlt | hle
  · -- a hop: the tail is answered, for it is shorter
    obtain ⟨n, rest, hp⟩ := List.exists_cons_of_length_pos (Nat.zero_lt_of_lt hlt)
    have hd : d ≤ rest.length := by rw [hp, List.length_cons] at hlt; omega
    rw [hS.serve_hop hv hp hd]
    have hlen : (M.wrap (M.setPath r (CellNamePath.intoString rest))).cellPath.length < f := by
      rw [hS.cellPath _ _ _ (hS.forward _ _ _ rest hv hd), hS.path_withPath]
      rw [hS.cellPath _ _ _ hv, hp] at h
      have := CellNamePath.length_intoString_lt n rest
      omega
    have hn : ∀ w' a',
        (serve env f w' a' (M.wrap (M.setPath r (CellNamePath.intoString rest)))).isSome :=
      fun w' a' => let ⟨_, _, hx, _⟩ := ih w' a' _ hlen; by rw [hx]; rfl
    obtain ⟨w', x, hx⟩ := @inCell_answers env _ _ hn (w.receive a (M.wrap r)) a n
    exact ⟨w', _, hx, .inl ⟨x, rfl⟩⟩
  · -- served here
    have hl : (M.path v).length = d := le_antisymm hle (hS.le_length _ _ _ hv)
    refine ⟨_, _, hS.serve_local hv hl f, ?_⟩
    rcases hS.localCall (env.kernel a) (w.agents a) v hl with ⟨x, hx, -⟩ | hpid
    · exact .inl ⟨x, hx⟩
    · exact .inr hpid

end Serve

/-- **Every request is answered; the one panic left is `start`'s.** With a fuel above the
length of its cell path (each hop strips a segment), `serve` answers every request at every
agent; no `expect`, `assert!` or `unreachable!` of a handler is reached but `start`'s
`expect("pid")` on this agent, and a panic below is a dropped connection to the hop above. -/
theorem serve_answers (env : Env) : ∀ (f : Nat) (w : World) (a : Addr) (request : Request),
    request.cellPath.length < f → ∃ w' h, serve env f w a request = some (w', h) ∧ h.AnswersOrPid
  | 0, _, _, _, h => absurd h (Nat.not_lt_zero _)
  | f + 1, w, a, request, h => by
    have ih := serve_answers env f
    cases request with
    | allocate r => exact allocateRpc_sound.answers ih h w a
    | free r => exact freeRpc_sound.answers ih h w a
    | start r => exact startRpc_sound.answers ih h w a
    | stop r => exact stopRpc_sound.answers ih h w a

/-! ## Routing down a path -/

/-- Every hop of a route down `p` from `a` goes through at its first attempt, for a method
that serves `d` segments locally: each segment but the last `d` is a ready hop. -/
def RouteReady (env : Env) (agents : Addr → Agent) (d : Nat) : Addr → CellNamePath → Prop
  | _, [] => True
  | a, n :: rest => d ≤ rest.length → HopReady env agents a n ∧ RouteReady env agents d (a ++ [n]) rest

/-- Where a request for `p` from `a` is served: below its `p.length - d` hops. -/
def leafOf (d : Nat) (a : Addr) (p : CellNamePath) : Addr := a ++ p.take (p.length - d)

section Route

variable {Req V : Type} {M : Method Req V} {d : Nat} {env : Env}

/-- The deliveries of a route, one to each agent from `a` down to the leaf: the original
request, its path replaced by what is left of `p` there, nothing else changed. -/
def Method.route (M : Method Req V) (d : Nat) (a : Addr) (r : Req) (p : CellNamePath) :
    List (Addr × Request) :=
  (List.range (p.length - d + 1)).map fun i =>
    (a ++ p.take i, M.wrap (M.setPath r (CellNamePath.intoString (p.drop i))))

/-- What routing the request `r`, validated to `v`, down `p` from `a` leaves: the leaf's
local handler has run on the request with the leaf's share of the path, and every delivery
of the route is recorded. -/
def Method.routed (M : Method Req V) (env : Env) (w : World) (d : Nat) (a : Addr) (r : Req)
    (v : V) (p : CellNamePath) : World × Handled Response :=
  let leaf := leafOf d a p
  let served := M.localCall (env.kernel leaf) (w.agents leaf) (M.withPath v (p.drop (p.length - d)))
  (⟨Function.update w.agents leaf served.1, w.received ++ M.route d a r p⟩, served.2)

/-- **Routing**, for one method: a request validated to a path whose hops are all ready, and
whose leaf answers when it is not this agent (its handler's task does not panic, which would
drop the last hop's call), is, with enough fuel, routed — `Method.routed`. -/
def Method.Routes (M : Method Req V) (d : Nat) : Prop :=
  ∀ (env : Env) (w : World) (a : Addr) (r : Req) (v : V) (f : Nat),
    M.validate env.mask r = .ok v → RouteReady env w.agents d a (M.path v) →
      (M.path v).length - d < f →
      (d < (M.path v).length → ∃ x, (M.routed env w d a r v (M.path v)).2 = .ok x) →
      serve env f w a (M.wrap r) = some (M.routed env w d a r v (M.path v))

variable {w : World} {a : Addr} {r : Req} {v : V}

/-- Served here, the route is the one delivery. -/
theorem Method.Sound.routed_local (hS : M.Sound d) (hv : M.validate env.mask r = .ok v)
    (hl : (M.path v).length = d) :
    M.routed env w d a r v (M.path v) =
      ((w.receive a (M.wrap r)).setAgent a (M.localCall (env.kernel a) (w.agents a) v).1,
        (M.localCall (env.kernel a) (w.agents a) v).2) := by
  simp only [Method.routed, leafOf, Method.route, hl, Nat.sub_self, Nat.zero_add,
    show List.range 1 = [0] from rfl,
    List.map_cons, List.map_nil, List.take_zero, List.drop_zero, List.append_nil,
    hS.withPath_self, hS.setPath_self _ _ _ hv]
  rfl

theorem Method.Sound.serve_routed_local (hS : M.Sound d) (hv : M.validate env.mask r = .ok v)
    (hl : (M.path v).length = d) (f : Nat) :
    serve env (f + 1) w a (M.wrap r) = some (M.routed env w d a r v (M.path v)) := by
  rw [hS.serve_local hv hl, hS.routed_local hv hl]

/-- Through a hop, the route goes on from the nested agent with the tail. -/
theorem Method.Sound.routed_cons (hS : M.Sound d) (hv : M.validate env.mask r = .ok v)
    {n : CellName} {rest : CellNamePath} (hp : M.path v = n :: rest) (hd : d ≤ rest.length) :
    M.routed env w d a r v (n :: rest) =
      M.routed env (w.receive a (M.wrap r)) d (a ++ [n]) (M.setPath r (CellNamePath.intoString rest))
        (M.withPath v rest) rest := by
  have hk : (n :: rest).length - d = rest.length - d + 1 := by rw [List.length_cons]; omega
  have hleaf : leafOf d a (n :: rest) = leafOf d (a ++ [n]) rest := by
    rw [leafOf, leafOf, hk, List.take_succ_cons, List.append_assoc, List.singleton_append]
  have hroute : M.route d a r (n :: rest) =
      (a, M.wrap r) :: M.route d (a ++ [n]) (M.setPath r (CellNamePath.intoString rest)) rest := by
    unfold Method.route
    rw [hk, List.range_succ_eq_map, List.map_cons, List.map_map]
    congr 1
    · simp [← hp, hS.setPath_self _ _ _ hv]
    · refine List.map_congr_left fun i _ => ?_
      simp [hS.setPath_setPath]
  simp only [Method.routed, hleaf, hroute, hk, List.drop_succ_cons, hS.withPath_withPath,
    World.receive_agents, World.receive_received, List.append_assoc, List.singleton_append]

/-- The answer at the end of a route, when the leaf does not panic, is not a transport
error. -/
theorem Method.Sound.routed_answer (hS : M.Sound d) {p : CellNamePath} (hp : d ≤ p.length)
    {x : Except Status Response} (hx : (M.routed env w d a r v p).2 = .ok x) :
    isTransient x = false :=
  hS.isTransient_localCall (by rw [hS.path_withPath, List.length_drop]; omega) hx

/-- A route through a hop changes nothing at the hop's own agent. -/
theorem Method.routed_agents_self {n : CellName} {rest : CellNamePath} :
    (M.routed env w d (a ++ [n]) r v rest).1.agents a = w.agents a := by
  refine Function.update_noteq (fun h => ?_) _ _
  have := congrArg List.length h
  simp [leafOf] at this

/-- Through a hop whose proxied call answers as the nested agent does, a request the
nested agent routes is routed from here. -/
theorem Method.Sound.serve_hop_routed (hS : M.Sound d) (hv : M.validate env.mask r = .ok v)
    {n : CellName} {rest : CellNamePath} (hp : M.path v = n :: rest) (hd : d ≤ rest.length)
    {f : Nat}
    (hnested : serve env f (w.receive a (M.wrap r)) (a ++ [n])
        (M.wrap (M.setPath r (CellNamePath.intoString rest))) =
      some (M.routed env (w.receive a (M.wrap r)) d (a ++ [n])
        (M.setPath r (CellNamePath.intoString rest)) (M.withPath v rest) rest))
    (hans : ∃ x, (M.routed env (w.receive a (M.wrap r)) d (a ++ [n])
        (M.setPath r (CellNamePath.intoString rest)) (M.withPath v rest) rest).2 = .ok x)
    (hop : ∀ {w' : World} {x : Except Status Response},
      serve env f (w.receive a (M.wrap r)) (a ++ [n])
          (M.wrap (M.setPath r (CellNamePath.intoString rest))) = some (w', .ok x) →
        isTransient x = false → w'.agents a = w.agents a →
        inCell env (serve env f) (w.receive a (M.wrap r)) a n
          (M.wrap (M.setPath r (CellNamePath.intoString rest))) = some (w', .ok x)) :
    serve env (f + 1) w a (M.wrap r) = some (M.routed env w d a r v (n :: rest)) := by
  rw [hS.serve_hop hv hp hd f, hS.routed_cons hv hp hd]
  have hself : (M.routed env (w.receive a (M.wrap r)) d (a ++ [n])
      (M.setPath r (CellNamePath.intoString rest)) (M.withPath v rest) rest).1.agents a =
      w.agents a := Method.routed_agents_self
  obtain ⟨x, hx⟩ := hans
  have htr := hS.routed_answer hd hx
  generalize M.routed env (w.receive a (M.wrap r)) d (a ++ [n])
    (M.setPath r (CellNamePath.intoString rest)) (M.withPath v rest) rest = R at hnested hx hself ⊢
  obtain ⟨w', h⟩ := R
  subst hx
  exact hop hnested htr hself

theorem Method.Sound.routes_path (hS : M.Sound d) :
    ∀ (p : CellNamePath) {w : World} {a : Addr} {r : Req} {v : V} {f : Nat},
      M.validate env.mask r = .ok v → M.path v = p → RouteReady env w.agents d a p →
      p.length - d < f → (d < p.length → ∃ x, (M.routed env w d a r v p).2 = .ok x) →
      serve env f w a (M.wrap r) = some (M.routed env w d a r v p)
  | p, w, a, r, v, 0, _, _, _, hf, _ => absurd hf (Nat.not_lt_zero _)
  | [], w, a, r, v, f + 1, hv, hp, _, _, _ => by
    have hl : (M.path v).length = d := by
      have := hS.le_length _ _ _ hv
      rw [hp, List.length_nil] at this ⊢
      omega
    rw [← hp]
    exact hS.serve_routed_local hv hl f
  | n :: rest, w, a, r, v, f + 1, hv, hp, hready, hf, hans => by
    by_cases hd : d ≤ rest.length
    · -- a hop to the nested agent of `n`, which routes the tail
      have hfwd := hS.forward _ _ _ rest hv hd
      have hans' := hS.routed_cons (w := w) (a := a) hv hp hd ▸
        hans (by simp only [List.length_cons]; omega)
      have hnested := hS.routes_path rest (w := w.receive a (M.wrap r)) (f := f) hfwd
        (hS.path_withPath _ _) (hready hd).2 (by rw [List.length_cons] at hf; omega) fun _ => hans'
      exact hS.serve_hop_routed hv hp hd hnested hans' fun hn htr hself =>
        inCell_ready (w := w.receive a (M.wrap r)) (hready hd).1 hn htr hself
    · -- served here
      have hl : (M.path v).length = d := by
        have := hS.le_length _ _ _ hv
        rw [hp, List.length_cons] at this ⊢
        omega
      rw [← hp]
      exact hS.serve_routed_local hv hl f

theorem Method.Sound.routes (hS : M.Sound d) : M.Routes d :=
  fun _ _ _ _ _ _ hv hready hf hans => hS.routes_path _ hv rfl hready hf hans

/-- The handler's test on the raw request says "local" exactly when the validated path has
`d` segments, and a validated path never has fewer. -/
def Method.LocalExactly (M : Method Req V) (d : Nat) : Prop :=
  ∀ mask r v, M.validate mask r = .ok v →
    (M.isLocal r = true ↔ (M.path v).length = d) ∧ d ≤ (M.path v).length

/-- A request that fails validation is answered with the validation's status, and nothing
but its delivery is recorded: no agent's registry, cgroups or executables change and no
nested agent is called. -/
def Method.RefusesInvalid (M : Method Req V) : Prop :=
  ∀ env f w a r e, M.validate env.mask r = .error e →
    serve env (f + 1) w a (M.wrap r) = some (w.receive a (M.wrap r), .ok (.error e.toStatus))

theorem Method.Sound.localExactly (hS : M.Sound d) : M.LocalExactly d := fun mask r v h =>
  ⟨(hS.isLocal_iff mask r v h).trans ⟨fun hl => le_antisymm hl (hS.le_length mask r v h), le_of_eq⟩,
    hS.le_length mask r v h⟩

theorem Method.Sound.refusesInvalid (hS : M.Sound d) : M.RefusesInvalid :=
  fun _ f _ _ _ _ h => hS.serve_of_validate_error h f

end Route

/-! ## The service's contract -/

/-- **Routing** (spec P4). When every hop goes through at its first attempt and the leaf
answers, an Allocate or Free for `s₁/…/sₖ` is delivered to the `k` agents down the path and
served by the last, which allocates or frees `sₖ`; a Start or Stop is delivered to `k + 1`
agents and served by the last with the empty path. Each delivery is the original request with its path replaced
by what is left of it; the answer is the leaf's, and only the leaf's state changes. -/
theorem serve_routes :
    allocateRpc.Routes 1 ∧ freeRpc.Routes 1 ∧ startRpc.Routes 0 ∧ stopRpc.Routes 0 :=
  ⟨allocateRpc_sound.routes, freeRpc_sound.routes, startRpc_sound.routes, stopRpc_sound.routes⟩

/-- **No handler panics on a path.** On a validated request the handlers' raw tests
(`contains('/')` for Allocate and Free, `is_empty()` for Start and Stop) agree with the
validated path, so every request is answered without reaching an `expect`, `assert!` or
`unreachable!` but `start`'s `expect("pid")` (line 216, which no path reaches); and a
request that fails validation is refused before any registry, executables table or nested
agent is touched. -/
theorem handlers_never_panic :
    allocateRpc.LocalExactly 1 ∧ freeRpc.LocalExactly 1 ∧ startRpc.LocalExactly 0 ∧
      stopRpc.LocalExactly 0 ∧
      (∀ env f w a (request : Request), request.cellPath.length < f →
        ∃ w' h, serve env f w a request = some (w', h) ∧ h.AnswersOrPid) ∧
      allocateRpc.RefusesInvalid ∧ freeRpc.RefusesInvalid ∧ startRpc.RefusesInvalid ∧
      stopRpc.RefusesInvalid :=
  ⟨allocateRpc_sound.localExactly, freeRpc_sound.localExactly, startRpc_sound.localExactly,
    stopRpc_sound.localExactly, serve_answers, allocateRpc_sound.refusesInvalid,
    freeRpc_sound.refusesInvalid, startRpc_sound.refusesInvalid, stopRpc_sound.refusesInvalid⟩

/-- A world in which every dial connects and every call is delivered at once. -/
def readyEnv : Env :=
  ⟨fun _ => ⟨.ok (), .ok (), .ok (), .ok (some 7), ⟨fun _ => .ok (), fun _ => 0, fun _ => 0, fun _ => 0,
    fun _ => 0⟩, fun _ => .delivered⟩, fun _ => true, 0⟩

/-- A root agent with `alpha` allocated, and empty agents below it. -/
def alphaWorld : World :=
  ⟨fun a => if a = [] then ⟨alphaCells, fun n => n == alpha, ∅⟩ else ⟨.empty, fun _ => false, ∅⟩, []⟩

/-- `beta`, a second cell name. -/
def beta : CellName := ⟨"beta", by decide⟩

/-- An Allocate of `alpha/beta` validates, its one hop is ready, `alpha`'s nested agent
answers it, and it is routed there. -/
theorem serve_routes_alpha_beta :
    let request : Proto.CellServiceAllocateRequest := ⟨some ⟨"alpha/beta", none, none, false, false⟩⟩
    let v : ValidatedCellServiceAllocateRequest := ⟨⟨[alpha, beta], none, none, false, false⟩⟩
    allocateRpc.validate readyEnv.mask request = .ok v ∧
      RouteReady readyEnv alphaWorld.agents 1 [] [alpha, beta] ∧
      (∃ x, (allocateRpc.routed readyEnv alphaWorld 1 [] request v [alpha, beta]).2 = .ok x) ∧
      serve readyEnv 2 alphaWorld [] (.allocate request) =
        some (allocateRpc.routed readyEnv alphaWorld 1 [] request v [alpha, beta]) :=
  have hv : allocateRpc.validate readyEnv.mask ⟨some ⟨"alpha/beta", none, none, false, false⟩⟩ =
      .ok ⟨⟨[alpha, beta], none, none, false, false⟩⟩ := rfl
  have hready : RouteReady readyEnv alphaWorld.agents 1 [] [alpha, beta] :=
    fun _ => ⟨⟨⟨⟨⟨alpha, .newForTests, .allocated⟩, rfl, rfl, rfl⟩, rfl, rfl⟩, rfl⟩,
      fun h => absurd h (by decide)⟩
  have hans : ∃ x, (allocateRpc.routed readyEnv alphaWorld 1 []
      ⟨some ⟨"alpha/beta", none, none, false, false⟩⟩ ⟨⟨[alpha, beta], none, none, false, false⟩⟩
      [alpha, beta]).2 = .ok x := ⟨_, rfl⟩
  ⟨hv, hready, hans, serve_routes.1 _ _ _ _ _ _ hv hready (by decide) fun _ => hans⟩

end Aurae
