import Aurae.Service.Routing
import Aurae.Cells.Runs

/-!
# Runs of the tree of agents

The registry laws of `Aurae.Cells.Runs` are about runs of registry calls. Here they are
lifted to the service: a local handler makes at most one registry call (`allocate` or
`free`, with its agent's kernel's answer), and `do_in_cell!` makes one lookup on the
proxying agent's registry and leaves the others to the nested agents it calls. So a law of
registries that every such call keeps holds of every agent, in every world that serving
requests, nested calls, retries and lost messages included, and operators' changes to the
cgroups reach from fresh agents (`World.Reachable.registries`). Each request is served in an
environment of its own (the kernels' answers, the network's fates, the clock), any that a
predicate `E` allows. The induction on serving is made once, for every relation between
worlds closed under serving's steps (`ServeClosed.of_serve`), and the results below are
drawn from such relations.

* `registries_keysNamed` — every agent's registry caches each cell under its own name;
* `registries_onlyAllocated` — spec I1 on every agent when `Cell::allocate` never fails (a
  failing one leaves its fresh cell cached, `Aurae.Cells.Runs`);
* `registries_provenance` — every cell an agent caches was named by an Allocate delivered to
  that agent, whose cell path is the cell's name;
* `executables_started` — every executable an agent runs is what a Start delivered to that
  agent asked for.
-/

namespace Aurae

/-- `CellService::new` on a host whose cgroups are `cgroups`: an empty registry and no
executables. -/
def CellService.new (cgroups : Cgroups) : Agent := ⟨.empty, cgroups, ∅⟩

/-- The registry calls an agent whose kernel answers `k` makes: `Cell::allocate` and
`Cell::free` answer as `k` says, a lookup applies any closure. -/
def Op.Made (k : Kernel) : Op → Prop
  | .allocate _ _ _ o => o = k.allocate
  | .free _ _ o => o = k.free
  | .get _ _ _ => True
  | _ => False

theorem isCellNotAllocated_map {α β : Type} (x : Except CellsError α) (g : α → β) :
    isCellNotAllocated (x.map g) = isCellNotAllocated x := by
  rcases x with e | a
  · cases e <;> rfl
  · rfl

/-- A lookup changes the registry as the lookup whose closure keeps only whether it failed. -/
theorem Cells.get_eq_step {R : Type} (cgroups : Cgroups) (cells : Cells) (n : CellName)
    (f : Cell → Except CellsError R) :
    (cells.get cgroups n f).1 = cells.step (.get cgroups n fun c => (f c).map fun _ => ()) := by
  simp only [Cells.step, Cells.get, isCellNotAllocated_map]
  split
  · rfl
  · split
    · rfl
    · split <;> rfl

section Handlers

variable {Req V : Type}

/-- What a local handler does to the registry: nothing, or one call with the agent's
kernel's answers. -/
def Method.CallsRegistry (M : Method Req V) : Prop :=
  ∀ k ag v, (M.localCall k ag v).1.cells = ag.cells ∨
    ∃ op, op.Made k ∧ (M.localCall k ag v).1.cells = ag.cells.step op

/-- What `allocate` leaves of the registry: the registry as it was, or what `Cells::allocate`
of the path's one segment leaves. -/
theorem allocateRpc_cells (k : Kernel) (ag : Agent) (v : ValidatedCellServiceAllocateRequest) :
    (allocateRpc.localCall k ag v).1.cells = ag.cells ∨ ∃ n, v.cell.name = [n] ∧
      (allocateRpc.localCall k ag v).1.cells =
        (ag.cells.allocate ag.cgroups n v.cell.toCellSpec k.allocate).1 := by
  simp only [allocateRpc, CellService.allocate]
  rcases v.cell.name with _ | ⟨n, _ | _⟩
  · exact .inl rfl
  · refine .inr ⟨n, rfl, ?_⟩
    simp only [CellNamePath.intoChild_cons]
    rcases ag.cells.allocate ag.cgroups n v.cell.toCellSpec k.allocate with ⟨cells, e | c⟩
    · rfl
    · dsimp only
      split <;> rfl
  · exact .inl rfl

/-- What `free` leaves of the registry: the registry as it was, or what `Cells::free` of the
path's one segment leaves. -/
theorem freeRpc_cells (k : Kernel) (ag : Agent) (v : ValidatedCellServiceFreeRequest) :
    (freeRpc.localCall k ag v).1.cells = ag.cells ∨ ∃ n, v.cellName = [n] ∧
      (freeRpc.localCall k ag v).1.cells = (ag.cells.free ag.cgroups n k.free).1 := by
  simp only [freeRpc, CellService.free]
  rcases v.cellName with _ | ⟨n, _ | _⟩
  · exact .inl rfl
  · refine .inr ⟨n, rfl, ?_⟩
    simp only [CellNamePath.intoChild_cons]
    rcases ag.cells.free ag.cgroups n k.free with ⟨cells, e | ⟨⟩⟩ <;> rfl
  · exact .inl rfl

theorem startRpc_cells (k : Kernel) (ag : Agent) (v : ValidatedCellServiceStartRequest) :
    (startRpc.localCall k ag v).1.cells = ag.cells := by
  simp only [startRpc, CellService.start]
  repeat' split
  all_goals rfl

theorem stopRpc_cells (k : Kernel) (ag : Agent) (v : ValidatedCellServiceStopRequest) :
    (stopRpc.localCall k ag v).1.cells = ag.cells := by
  simp only [stopRpc, CellService.stop]
  split
  · rfl
  · split <;> rfl

theorem allocateRpc_callsRegistry : allocateRpc.CallsRegistry := fun k ag v =>
  (allocateRpc_cells k ag v).imp_right fun ⟨n, _, hc⟩ =>
    ⟨.allocate ag.cgroups n v.cell.toCellSpec k.allocate, rfl, hc⟩

theorem freeRpc_callsRegistry : freeRpc.CallsRegistry := fun k ag v =>
  (freeRpc_cells k ag v).imp_right fun ⟨n, _, hc⟩ => ⟨.free ag.cgroups n k.free, rfl, hc⟩

theorem startRpc_callsRegistry : startRpc.CallsRegistry := fun k ag v => .inl (startRpc_cells k ag v)

theorem stopRpc_callsRegistry : stopRpc.CallsRegistry := fun k ag v => .inl (stopRpc_cells k ag v)

/-- `R` relates the world before a request of `M` arrives at `a` to the world after the
local handler has served it there. -/
def Method.ServedBy (M : Method Req V) (env : Env) (R : Addr → World → World → Prop) : Prop :=
  ∀ a w r v, M.validate env.mask r = .ok v →
    R a w ((w.receive a (M.wrap r)).setAgent a (M.localCall (env.kernel a) (w.agents a) v).1)

end Handlers

/-! ## What serving does, once -/

/-- A nested call leaves the world it was given, or gives the world that the nested agent
behind `cfg` left, serving the request from it. -/
theorem nestedCall_world {env : Env}
    {nested : World → Addr → Request → Option (World × Handled Response)} {a : Addr}
    {cfg : ClientConfig} {k : Nat} {request : Request} {ow : Option World} {w₁ : World}
    (h : w₁ ∈ (nestedCall env nested a cfg k request ow).1) :
    w₁ ∈ ow ∨ ∃ w₀ ∈ ow, ∃ r, nested w₀ (a ++ [cfg.cell]) request = some (w₁, r) := by
  rcases ow with _ | w₀
  · cases h
  simp only [nestedCall] at h
  split at h
  · exact .inl h
  all_goals
    rcases hn : nested w₀ (a ++ [cfg.cell]) request with _ | ⟨w₂, r⟩ <;> rw [hn] at h <;>
      cases h
    exact .inr ⟨w₀, rfl, r, hn⟩


/-- A relation `R a w w'` between the world before and the world after serving at `a`, closed
under the steps serving is made of: the delivery recorded, each local handler's service,
what a nested call does below a child, and the lookup `do_in_cell!` makes on the proxying
agent's registry. Every `R` so closed relates the worlds around every `serve`
(`ServeClosed.of_serve`). -/
structure ServeClosed (env : Env) (R : Addr → World → World → Prop) : Prop where
  refl : ∀ a w, R a w w
  trans : ∀ {a w₁ w₂ w₃}, R a w₁ w₂ → R a w₂ w₃ → R a w₁ w₃
  parent : ∀ {a c w w'}, R (a ++ [c]) w w' → R a w w'
  receive : ∀ a w request, R a w (w.receive a request)
  allocate : allocateRpc.ServedBy env R
  free : freeRpc.ServedBy env R
  start : startRpc.ServedBy env R
  stop : stopRpc.ServedBy env R
  lookup : ∀ {a w w'} (n : CellName), R a w w' →
    R a w (w'.setAgent a { w'.agents a with
      cells := ((w.agents a).cells.get (w.agents a).cgroups n Cell.clientConfig).1 })

namespace ServeClosed

variable {env : Env} {R : Addr → World → World → Prop} (hR : ServeClosed env R)
  {nested : World → Addr → Request → Option (World × Handled Response)} {w w' : World}
  {a : Addr}
include hR

/-- A nested call from `a` is related to the world before the proxy when the nested service
relates the worlds around each request it serves. -/
theorem of_nestedCall (hnested : ∀ w b r w' h, nested w b r = some (w', h) → R b w w')
    (cfg : ClientConfig) (k : Nat) (request : Request) {ow : Option World}
    (how : ∀ w₀ ∈ ow, R a w w₀) :
    ∀ w₁ ∈ (nestedCall env nested a cfg k request ow).1, R a w w₁ := fun _ h₁ =>
  match nestedCall_world h₁ with
  | .inl h => how _ h
  | .inr ⟨w₀, h₀, _, hn⟩ => hR.trans (how w₀ h₀) (hR.parent (hnested _ _ _ _ _ hn))

/-- `do_in_cell!`: its retries are the nested calls', and then one lookup on the proxying
agent's registry. -/
theorem of_inCell (hnested : ∀ w b r w' h, nested w b r = some (w', h) → R b w w')
    {n : CellName} {request : Request} {h : Handled Response}
    (hin : inCell env nested w a n request = some (w', h)) : R a w w' := by
  unfold inCell at hin
  obtain ⟨p, hp, hin⟩ := Option.bind_eq_some.mp hin
  obtain ⟨w'', hw'', hin⟩ := Option.map_eq_some'.mp hin
  cases hin
  rw [(doInCell_spec hp).lookup]
  exact hR.lookup n (doInCell_state (P := fun ow => ∀ w₀ ∈ ow, R a w w₀)
    (fun cfg k _ how => hR.of_nestedCall hnested cfg k request how) hp
    (fun _ h => by cases h; exact hR.refl a w) w'' hw'')

theorem of_rpc {Req V : Type} {M : Method Req V} (hM : M.ServedBy env R)
    (hnested : ∀ w b r w' h, nested w b r = some (w', h) → R b w w')
    {r : Req} {h : Handled Response}
    (hrpc : M.rpc env nested (w.receive a (M.wrap r)) a r = some (w', h)) : R a w w' := by
  unfold Method.rpc at hrpc
  split at hrpc
  · cases hrpc
    exact hR.receive a w _
  rename_i v hv
  split at hrpc
  · -- served here
    cases hrpc
    exact hM a w r v hv
  split at hrpc
  · cases hrpc
    exact hR.receive a w _
  split at hrpc
  · exact hR.trans (hR.receive a w _) (hR.of_inCell hnested hrpc)
  · cases hrpc
    exact hR.receive a w _

/-- Serving a request at `a`, nested calls included, relates the worlds around it. -/
theorem of_serve :
    ∀ {fuel : Nat} {w w' : World} {a : Addr} {request : Request} {h : Handled Response},
      serve env fuel w a request = some (w', h) → R a w w'
  | 0, _, _, _, _, _, hs => by cases hs
  | fuel + 1, w, _, a, request, _, hs => by
    have hnested : ∀ w b r w' h, serve env fuel w b r = some (w', h) → R b w w' :=
      fun _ _ _ _ _ hs => of_serve hs
    cases request with
    | allocate r => exact hR.of_rpc hR.allocate hnested hs
    | free r => exact hR.of_rpc hR.free hnested hs
    | start r => exact hR.of_rpc hR.start hnested hs
    | stop r => exact hR.of_rpc hR.stop hnested hs

end ServeClosed

/-! ## Every registry, along every run -/

/-- `I` holds of every agent's registry. -/
def World.Registries (I : Cells → Prop) (w : World) : Prop := ∀ a, I (w.agents a).cells

/-- `I` is kept by every registry call an agent of `env` makes. -/
def KeptBy (env : Env) (I : Cells → Prop) : Prop :=
  ∀ a cells op, Op.Made (env.kernel a) op → I cells → I (cells.step op)

theorem World.Registries.setAgent {I : Cells → Prop} {w : World} {a : Addr}
    (hw : w.Registries I) {ag : Agent} (hag : I ag.cells) : (w.setAgent a ag).Registries I := by
  intro b
  by_cases hb : b = a
  · subst hb
    simpa using hag
  · simpa [Function.update_noteq hb] using hw b

/-- A local handler that makes at most one registry call keeps `I` of every registry. -/
theorem Method.CallsRegistry.servedBy_registries {Req V : Type} {M : Method Req V}
    (hM : M.CallsRegistry) {env : Env} {I : Cells → Prop} (hI : KeptBy env I) :
    M.ServedBy env fun _ w w' => w.Registries I → w'.Registries I := fun a w _ v _ hw =>
  World.Registries.setAgent (a := a) (w := w.receive a _) hw (by
    rcases hM (env.kernel a) (w.agents a) v with hc | ⟨op, hop, hc⟩ <;> rw [hc]
    · exact hw a
    · exact hI a _ _ hop (hw a))

/-- Serving keeps `I` of every registry when every registry call of the agents keeps it. -/
theorem ServeClosed.registries {env : Env} {I : Cells → Prop} (hI : KeptBy env I) :
    ServeClosed env fun _ w w' => w.Registries I → w'.Registries I where
  refl _ _ := id
  trans h₁ h₂ := h₂ ∘ h₁
  parent := id
  receive _ _ _ := id
  allocate := allocateRpc_callsRegistry.servedBy_registries hI
  free := freeRpc_callsRegistry.servedBy_registries hI
  start := startRpc_callsRegistry.servedBy_registries hI
  stop := stopRpc_callsRegistry.servedBy_registries hI
  lookup := @fun a _ _ _ h hw => (h hw).setAgent (by
    rw [Cells.get_eq_step]
    exact hI a _ (.get _ _ _) trivial (hw a))

/-- The worlds reached from `w₀` by serving requests at any agent, each in an environment of
its own that `E` allows, with any fuel, while operators create and remove cgroups on any
host. -/
inductive World.Reachable (E : Env → Prop) (w₀ : World) : World → Prop
  | init : Reachable E w₀ w₀
  | served {env : Env} {w w' : World} {fuel : Nat} {a : Addr} {request : Request}
      {h : Handled Response} :
      E env → Reachable E w₀ w → serve env fuel w a request = some (w', h) → Reachable E w₀ w'
  | cgroups {w : World} (a : Addr) (cgroups : Cgroups) :
      Reachable E w₀ w → Reachable E w₀ (w.setAgent a { w.agents a with cgroups })

/-- A tree of fresh agents (`CellService::new`) on hosts whose cgroups are `cgroups`. -/
def World.new (cgroups : Addr → Cgroups) : World := ⟨fun a => CellService.new (cgroups a), []⟩

/-- A law of registries kept by every call the agents make, in every environment of the run,
holds of every agent along every run from a world where it holds. -/
theorem World.Reachable.registries {E : Env → Prop} {I : Cells → Prop} {w₀ w : World}
    (hI : ∀ env, E env → KeptBy env I) (h₀ : w₀.Registries I) (hr : World.Reachable E w₀ w) :
    w.Registries I := by
  induction hr with
  | init => exact h₀
  | served henv _ hs ih => exact (ServeClosed.registries (hI _ henv)).of_serve hs ih
  | cgroups a _ _ ih => exact ih.setAgent (ih a)

/-! ## The registry laws on every agent -/

theorem Cells.keysNamed_empty : Cells.empty.KeysNamed := fun _ _ h => by
  simp [Cells.empty] at h

theorem Cells.onlyAllocated_empty : Cells.empty.OnlyAllocated := fun _ _ h => by
  simp [Cells.empty] at h

/-- A call an agent makes sees no `Cell::allocate` fail when its kernel grants them. -/
theorem Op.allocates_of_made {k : Kernel} (hk : k.allocate = .ok ()) :
    ∀ {op : Op}, op.Made k → op.Allocates
  | .allocate _ _ _ _, hop => fun _ => hop.trans hk
  | .free _ _ _, _ | .get _ _ _, _ => trivial

/-- **Every agent keeps its cells under their names.** In every world reached from fresh
agents, whatever the kernels and the network do at each request, every agent's registry
caches each cell under its own name. -/
theorem registries_keysNamed {E : Env → Prop} {cgroups : Addr → Cgroups} {w : World}
    (hr : World.Reachable E (.new cgroups) w) (a : Addr) : (w.agents a).cells.KeysNamed :=
  hr.registries (fun _ _ _ _ op _ h => h.step op) (fun _ => Cells.keysNamed_empty) a

/-- A root agent that has allocated `alpha`. -/
theorem registries_keysNamed_alpha :
    ∃ w h, serve readyEnv 1 (.new fun _ _ => false) []
        (.allocate ⟨some ⟨"alpha", none, none, false, false⟩⟩) = some (w, h) ∧
      ∀ a, (w.agents a).cells.KeysNamed :=
  have hs := allocateRpc_sound.serve_local (w := .new fun _ _ => false) (a := [])
    (show allocateRpc.validate readyEnv.mask ⟨some ⟨"alpha", none, none, false, false⟩⟩ =
      .ok ⟨⟨[alpha], none, none, false, false⟩⟩ from rfl) rfl 0
  ⟨_, _, hs, registries_keysNamed (E := fun env => env = readyEnv) (.served rfl .init hs)⟩

/-- **Spec I1 on every agent**, when `Cell::allocate` never fails: in every world reached
from fresh agents, each request served in an environment whose kernels grant every
`Cell::allocate`, every cell an agent's registry caches has been allocated. -/
theorem registries_onlyAllocated {E : Env → Prop} {cgroups : Addr → Cgroups} {w : World}
    (hk : ∀ env, E env → ∀ a, (env.kernel a).allocate = .ok ())
    (hr : World.Reachable E (.new cgroups) w) (a : Addr) : (w.agents a).cells.OnlyAllocated :=
  hr.registries (fun _ henv b _ _ hop h => h.step (Op.allocates_of_made (hk _ henv b) hop))
    (fun _ => Cells.onlyAllocated_empty) a

theorem registries_onlyAllocated_alpha :
    (∀ env, env = readyEnv → ∀ a, (env.kernel a).allocate = .ok ()) ∧
      ∃ w h, serve readyEnv 1 (.new fun _ _ => false) []
          (.allocate ⟨some ⟨"alpha", none, none, false, false⟩⟩) = some (w, h) ∧
        ∀ a, (w.agents a).cells.OnlyAllocated :=
  have hk : ∀ env, env = readyEnv → ∀ a, (env.kernel a).allocate = .ok () :=
    fun _ h _ => by rw [h]; rfl
  have hs := allocateRpc_sound.serve_local (w := .new fun _ _ => false) (a := [])
    (show allocateRpc.validate readyEnv.mask ⟨some ⟨"alpha", none, none, false, false⟩⟩ =
      .ok ⟨⟨[alpha], none, none, false, false⟩⟩ from rfl) rfl 0
  ⟨hk, _, _, hs, registries_onlyAllocated hk (.served rfl .init hs)⟩

/-! ## What every agent holds was asked of it -/

/-- Everything an agent holds, as `owns` says, was asked of that agent: a request delivered to
it accounts for it, as `accounts` says. -/
def World.Accounted {α : Type} (owns : Agent → α → Prop) (accounts : α → Request → Prop)
    (w : World) : Prop :=
  ∀ b x, owns (w.agents b) x → ∃ q, (b, q) ∈ w.received ∧ accounts x q

/-- The local handler of `M` leaves its agent holding only what it held, or what the request
it serves accounts for. -/
def Method.Accounts {Req V : Type} (M : Method Req V) (mask : String → Bool) {α : Type}
    (owns : Agent → α → Prop) (accounts : α → Request → Prop) : Prop :=
  ∀ k ag r v x, M.validate mask r = .ok v → owns (M.localCall k ag v).1 x →
    owns ag x ∨ accounts x (M.wrap r)

namespace World.Accounted

variable {α : Type} {owns : Agent → α → Prop} {accounts : α → Request → Prop} {w w₀ : World}

theorem mono {w' : World} (hw : w.Accounted owns accounts) (hag : w'.agents = w.agents)
    (hrec : w.received ⊆ w'.received) : w'.Accounted owns accounts := fun b x hx =>
  let ⟨q, hq, hx⟩ := hw b x (hag ▸ hx)
  ⟨q, hrec hq, hx⟩

/-- The agent at `a` changes to `ag`, all of whose holdings `a` held in `w₀`, or a request
delivered to `a` accounts for. -/
theorem setAgent (h₀ : w₀.Accounted owns accounts) (hw : w.Accounted owns accounts)
    (hrec : w₀.received ⊆ w.received) {a : Addr} {ag : Agent}
    (hag : ∀ x, owns ag x → owns (w₀.agents a) x ∨ ∃ q, (a, q) ∈ w.received ∧ accounts x q) :
    (w.setAgent a ag).Accounted owns accounts := by
  intro b x hx
  by_cases hb : b = a
  · subst hb
    rw [World.setAgent_agents, Function.update_same] at hx
    rcases hag x hx with h | h
    · obtain ⟨q, hq, hx⟩ := h₀ b x h
      exact ⟨q, hrec hq, hx⟩
    · exact h
  · rw [World.setAgent_agents, Function.update_noteq hb] at hx
    exact hw b x hx

theorem servedBy {Req V : Type} {M : Method Req V} {env : Env}
    (hM : M.Accounts env.mask owns accounts) (hw : w.Accounted owns accounts) {a : Addr} {r : Req}
    {v : V} (hv : M.validate env.mask r = .ok v) :
    ((w.receive a (M.wrap r)).setAgent a
      (M.localCall (env.kernel a) (w.agents a) v).1).Accounted owns accounts :=
  setAgent (w := w.receive a (M.wrap r)) hw (hw.mono rfl (List.subset_append_left _ _))
    (List.subset_append_left _ _)
    fun x hx => (hM _ _ r v x hv hx).imp_right fun h => ⟨M.wrap r, by simp, h⟩

end World.Accounted

/-- Serving keeps accounted for what every agent holds when each local handler does, and the
lookup of `do_in_cell!` gives the proxying agent nothing its registry did not hold. -/
theorem ServeClosed.accounted (env : Env) {α : Type} {owns : Agent → α → Prop}
    {accounts : α → Request → Prop} (hA : allocateRpc.Accounts env.mask owns accounts)
    (hF : freeRpc.Accounts env.mask owns accounts) (hS : startRpc.Accounts env.mask owns accounts)
    (hT : stopRpc.Accounts env.mask owns accounts)
    (hlookup : ∀ (ag ag' : Agent) n x,
      owns { ag' with cells := (ag.cells.get ag.cgroups n Cell.clientConfig).1 } x →
        owns ag x ∨ owns ag' x) :
    ServeClosed env fun _ w w' =>
      w.received ⊆ w'.received ∧ (w.Accounted owns accounts → w'.Accounted owns accounts) where
  refl _ _ := ⟨List.Subset.refl _, id⟩
  trans h₁ h₂ := ⟨h₁.1.trans h₂.1, h₂.2 ∘ h₁.2⟩
  parent := id
  receive _ _ _ := ⟨List.subset_append_left _ _, fun hw => hw.mono rfl (List.subset_append_left _ _)⟩
  allocate _ _ _ _ hv := ⟨List.subset_append_left _ _, fun hw => hw.servedBy hA hv⟩
  free _ _ _ _ hv := ⟨List.subset_append_left _ _, fun hw => hw.servedBy hF hv⟩
  start _ _ _ _ hv := ⟨List.subset_append_left _ _, fun hw => hw.servedBy hS hv⟩
  stop _ _ _ _ hv := ⟨List.subset_append_left _ _, fun hw => hw.servedBy hT hv⟩
  lookup := @fun a _ _ _ h => ⟨h.1, fun hw => hw.setAgent (h.2 hw) h.1 fun x hx =>
    (hlookup _ _ _ x hx).imp_right fun hx' => h.2 hw a x hx'⟩

/-- What every agent holds stays accounted for along every run from a world where it is,
operators' changes to the cgroups included. -/
theorem World.Reachable.accounted {E : Env → Prop} {w₀ w : World} (hr : World.Reachable E w₀ w)
    {α : Type} {owns : Agent → α → Prop} {accounts : α → Request → Prop}
    (hR : ∀ env, E env → ServeClosed env fun _ w w' =>
      w.received ⊆ w'.received ∧ (w.Accounted owns accounts → w'.Accounted owns accounts))
    (hcgroups : ∀ (ag : Agent) cgroups x, owns { ag with cgroups } x → owns ag x)
    (h₀ : w₀.Accounted owns accounts) : w.Accounted owns accounts := by
  induction hr with
  | init => exact h₀
  | served henv _ hs ih => exact ((hR _ henv).of_serve hs).2 ih
  | cgroups a _ _ ih => exact ih.setAgent ih (List.Subset.refl _) fun x hx => .inl (hcgroups _ _ x hx)

/-! ### Cells -/

/-- An Allocate whose cell path is the name of the cell `n`. -/
def Request.AllocatesCell (n : CellName) (q : Request) : Prop :=
  ∃ r, q = .allocate r ∧ q.cellPath = n.name

theorem Cells.Retires.mem {a b : Cells} (h : a.Retires b) {n : CellName} (hn : n ∈ b.cache) :
    n ∈ a.cache := by
  obtain ⟨c', hc'⟩ := Option.isSome_iff_exists.mp (AList.lookup_isSome.mpr hn)
  obtain ⟨c, hc, -⟩ := h n c' hc'
  exact AList.lookup_isSome.mp (by rw [hc]; rfl)

theorem Cells.SameExcept.mem {m : CellName} {a b : Cells} (h : SameExcept m a b) {n : CellName}
    (hn : n ∈ b.cache) : n ∈ a.cache ∨ n = m := by
  by_cases hnm : n = m
  · exact .inr hnm
  · exact .inl (AList.lookup_isSome.mp (by rw [← h n hnm]; exact AList.lookup_isSome.mpr hn))

/-- `allocate` caches no cell but the one its path names. -/
theorem allocateRpc_accountsCells (mask : String → Bool) :
    allocateRpc.Accounts mask (fun ag n => n ∈ ag.cells.cache) Request.AllocatesCell :=
  fun k ag r v n hv hn => by
  dsimp only at hn ⊢
  rcases allocateRpc_cells k ag v with hc | ⟨m, hm, hc⟩ <;> rw [hc] at hn
  · exact .inl hn
  refine (Cells.sameExcept_allocate.mem hn).imp_right fun (h : n = m) => ⟨r, rfl, ?_⟩
  rw [allocateRpc_sound.cellPath _ _ _ hv, show allocateRpc.path _ = _ from hm, h]
  exact CellNamePath.intoString_singleton m

/-- `free` caches no new cell. -/
theorem freeRpc_accountsCells (mask : String → Bool) :
    freeRpc.Accounts mask (fun ag n => n ∈ ag.cells.cache) Request.AllocatesCell :=
  fun k ag _ v _ _ hn => by
  dsimp only at hn ⊢
  rcases freeRpc_cells k ag v with hc | ⟨m, -, hc⟩ <;> rw [hc] at hn
  · exact .inl hn
  · exact .inl (Cells.free_retires.mem hn)

theorem startRpc_accountsCells (mask : String → Bool) :
    startRpc.Accounts mask (fun ag n => n ∈ ag.cells.cache) Request.AllocatesCell :=
  fun k ag _ v _ _ hn => .inl (by dsimp only at hn ⊢; rwa [startRpc_cells] at hn)

theorem stopRpc_accountsCells (mask : String → Bool) :
    stopRpc.Accounts mask (fun ag n => n ∈ ag.cells.cache) Request.AllocatesCell :=
  fun k ag _ v _ _ hn => .inl (by dsimp only at hn ⊢; rwa [stopRpc_cells] at hn)

/-- **No cell without its Allocate.** In every world reached from fresh agents, whatever the
kernels, the network and the operators do, every cell an agent caches was named by an
Allocate delivered to that agent, whose cell path is exactly the cell's name: a proxied
Allocate counts at the agent it was forwarded to, with the path it was forwarded with. -/
theorem registries_provenance {E : Env → Prop} {cgroups : Addr → Cgroups} {w : World}
    (hr : World.Reachable E (.new cgroups) w) (b : Addr) (n : CellName)
    (hn : n ∈ (w.agents b).cells.cache) :
    ∃ r, (b, Request.allocate r) ∈ w.received ∧ (Request.allocate r).cellPath = n.name :=
  have hacc := hr.accounted (fun env _ => ServeClosed.accounted env (allocateRpc_accountsCells _)
    (freeRpc_accountsCells _) (startRpc_accountsCells _) (stopRpc_accountsCells _)
    fun _ _ _ _ hn => .inl (by rw [Cells.get_eq_step] at hn; exact Cells.get_retires.mem hn))
    (fun _ _ _ => id) (fun _ _ h => by simp [World.new, CellService.new, Cells.empty] at h)
  let ⟨_, hq, r, hr, hp⟩ := hacc b n hn
  ⟨r, hr ▸ hq, hr ▸ hp⟩

theorem registries_provenance_alpha :
    ∃ w h, serve readyEnv 1 (.new fun _ _ => false) []
        (.allocate ⟨some ⟨"alpha", none, none, false, false⟩⟩) = some (w, h) ∧
      ∃ r, ([], Request.allocate r) ∈ w.received ∧ (Request.allocate r).cellPath = alpha.name :=
  have hs := allocateRpc_sound.serve_local (w := .new fun _ _ => false) (a := [])
    (show allocateRpc.validate readyEnv.mask ⟨some ⟨"alpha", none, none, false, false⟩⟩ =
      .ok ⟨⟨[alpha], none, none, false, false⟩⟩ from rfl) rfl 0
  ⟨_, _, hs, registries_provenance (E := fun env => env = readyEnv) (.served rfl .init hs) []
    alpha (by decide)⟩

/-! ### Executables -/

/-- A Start whose request validates to the spec of the executable `x`. -/
def Request.StartsExecutable (x : Executable) (q : Request) : Prop :=
  ∃ r v, q = .start r ∧ ValidatedCellServiceStartRequest.validate r = .ok v ∧
    v.executable.toExecutableSpec = x.spec

theorem Executables.lookup_start {executables : Executables} {spec : ExecutableSpec}
    {spawn : Except ExecutablesError Unit} {name : ExecutableName} {x : Executable}
    (h : (executables.start spec spawn).1.lookup name = some x) :
    executables.lookup name = some x ∨ x.spec = spec := by
  unfold Executables.start at h
  split_ifs at h
  · exact .inl h
  rcases spawn with e | ⟨⟩
  · exact .inl h
  by_cases hn : name = spec.name
  · subst hn
    rw [AList.lookup_insert] at h
    cases h
    exact .inr rfl
  · rw [AList.lookup_insert_ne hn] at h
    exact .inl h

theorem Executables.lookup_stop {executables : Executables} {name m : ExecutableName}
    {x : Executable} (h : (executables.stop name).1.lookup m = some x) :
    executables.lookup m = some x := by
  unfold Executables.stop at h
  split_ifs at h
  · by_cases hm : m = name
    · subst hm
      simp at h
    · rwa [AList.lookup_erase_ne hm] at h
  · exact h

theorem allocateRpc_executables (k : Kernel) (ag : Agent) (v : ValidatedCellServiceAllocateRequest) :
    (allocateRpc.localCall k ag v).1.executables = ag.executables := by
  simp only [allocateRpc, CellService.allocate]
  repeat' split
  all_goals rfl

theorem freeRpc_executables (k : Kernel) (ag : Agent) (v : ValidatedCellServiceFreeRequest) :
    (freeRpc.localCall k ag v).1.executables = ag.executables := by
  simp only [freeRpc, CellService.free]
  repeat' split
  all_goals rfl

theorem allocateRpc_accountsExecutables (mask : String → Bool) :
    allocateRpc.Accounts mask (fun ag x => ∃ name, ag.executables.lookup name = some x)
      Request.StartsExecutable :=
  fun k ag _ v _ _ hx => .inl (by dsimp only at hx ⊢; rwa [allocateRpc_executables] at hx)

theorem freeRpc_accountsExecutables (mask : String → Bool) :
    freeRpc.Accounts mask (fun ag x => ∃ name, ag.executables.lookup name = some x)
      Request.StartsExecutable :=
  fun k ag _ v _ _ hx => .inl (by dsimp only at hx ⊢; rwa [freeRpc_executables] at hx)

theorem startRpc_executables (k : Kernel) (ag : Agent) (v : ValidatedCellServiceStartRequest) :
    (startRpc.localCall k ag v).1.executables = ag.executables ∨
      (startRpc.localCall k ag v).1.executables =
        (ag.executables.start v.executable.toExecutableSpec k.spawn).1 := by
  simp only [startRpc, CellService.start]
  split
  · exact .inl rfl
  · rcases ag.executables.start v.executable.toExecutableSpec k.spawn with ⟨_, _ | _⟩
    · exact .inr rfl
    · rcases k.pid with _ | _ | _ <;> exact .inr rfl

theorem stopRpc_executables (k : Kernel) (ag : Agent) (v : ValidatedCellServiceStopRequest) :
    (stopRpc.localCall k ag v).1.executables = ag.executables ∨
      (stopRpc.localCall k ag v).1.executables = (ag.executables.stop v.executableName).1 := by
  simp only [stopRpc, CellService.stop]
  split
  · exact .inl rfl
  · rcases ag.executables.stop v.executableName with ⟨_, _ | _⟩ <;> exact .inr rfl

/-- `start` runs no executable but the one its request asks for. -/
theorem startRpc_accountsExecutables (mask : String → Bool) :
    startRpc.Accounts mask (fun ag x => ∃ name, ag.executables.lookup name = some x)
      Request.StartsExecutable := fun k ag r v x hv ⟨name, hx⟩ => by
  rcases startRpc_executables k ag v with he | he <;> rw [he] at hx
  · exact .inl ⟨name, hx⟩
  · exact (Executables.lookup_start hx).imp (⟨name, ·⟩) fun hs => ⟨r, v, rfl, hv, hs.symm⟩

/-- `stop` runs no new executable. -/
theorem stopRpc_accountsExecutables (mask : String → Bool) :
    stopRpc.Accounts mask (fun ag x => ∃ name, ag.executables.lookup name = some x)
      Request.StartsExecutable := fun k ag _ v _ _ ⟨name, hx⟩ => by
  rcases stopRpc_executables k ag v with he | he <;> rw [he] at hx
  · exact .inl ⟨name, hx⟩
  · exact .inl ⟨name, Executables.lookup_stop hx⟩

/-- **No executable without its Start.** In every world reached from fresh agents, whatever
the kernels, the network and the operators do, every executable an agent runs is one a Start
delivered to that agent asked for: that request validates to the executable's spec, `sh -c`
with the request's command under the request's name. -/
theorem executables_started {E : Env → Prop} {cgroups : Addr → Cgroups} {w : World}
    (hr : World.Reachable E (.new cgroups) w) (b : Addr) (name : ExecutableName) (x : Executable)
    (hx : (w.agents b).executables.lookup name = some x) :
    ∃ r v, (b, Request.start r) ∈ w.received ∧
      ValidatedCellServiceStartRequest.validate r = .ok v ∧ v.executable.toExecutableSpec = x.spec :=
  have hacc := hr.accounted (fun env _ => ServeClosed.accounted env (allocateRpc_accountsExecutables _)
    (freeRpc_accountsExecutables _) (startRpc_accountsExecutables _) (stopRpc_accountsExecutables _)
    fun _ _ _ _ hx => .inr hx)
    (fun _ _ _ => id) (fun _ _ ⟨_, h⟩ => by simp [World.new, CellService.new] at h)
  let ⟨_, hq, r, v, hr, hv, hs⟩ := hacc b x ⟨name, hx⟩
  ⟨r, v, hr ▸ hq, hv, hs⟩

/-- An executable `sleeper` started at the root agent. -/
theorem executables_started_sleeper :
    ∃ w h, serve readyEnv 1 (.new fun _ _ => false) []
        (.start ⟨"", some ⟨"sleeper", "sleep 1", ""⟩⟩) = some (w, h) ∧
      ∃ r v, ([], Request.start r) ∈ w.received ∧
        ValidatedCellServiceStartRequest.validate r = .ok v ∧
        v.executable.toExecutableSpec = ⟨⟨"sleeper", by decide⟩, "sh", ["-c", "sleep 1"], ""⟩ :=
  have hs := startRpc_sound.serve_local (w := .new fun _ _ => false) (a := [])
    (show startRpc.validate readyEnv.mask ⟨"", some ⟨"sleeper", "sleep 1", ""⟩⟩ =
      .ok ⟨[], ⟨⟨"sleeper", by decide⟩, "sleep 1", ""⟩⟩ from rfl) rfl 0
  ⟨_, _, hs, executables_started (E := fun env => env = readyEnv) (.served rfl .init hs) []
    ⟨"sleeper", by decide⟩ ⟨⟨⟨"sleeper", by decide⟩, "sh", ["-c", "sleep 1"], ""⟩⟩ (by rfl)⟩

end Aurae
