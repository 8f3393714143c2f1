import Aurae.Cells.Registry

/-!
# Runs of the registry

A run is any sequence of calls into `Cells` from the empty registry. Each call carries
the world's answers at that moment: which cgroups exist (operators and other code create
and remove cgroups between calls) and what the kernel answers to every `Cell` method the
call runs. `ReachableBy P` collects the registries reached by runs whose calls satisfy
`P`; `Reachable` allows every call.

* **key/name agreement** — every reachable registry caches each cell under its own name
  (`keysNamed_of_reachable`), which the broadcasts' removals by `cell.name()` rely on;
* **shutdown** — `freeAll` (`CellService::free_all`) leaves exactly the cells whose free
  and kill both failed (`freeAll_leaves_failures`, spec P6);
* **spec I1** — "a cached cell was allocated" is kept by every call except an
  `allocate` whose `Cell::allocate` fails (`OnlyAllocated.step`), so it holds along runs
  without such a failure (`onlyAllocated_of_reachableBy`); the failing call caches the
  fresh cell before `cell.allocate()?` returns and never removes it
  (`allocate_failure_caches_cell`).
-/

namespace Aurae

/-- One call into the registry, with the world's answers. `getMut` runs the only closure
the code hands it, `Cell::free`. -/
inductive Op where
  | allocate (cgroups : Cgroups) (cellName : CellName) (cellSpec : CellSpec)
      (o : Except CellsError Unit)
  | free (cgroups : Cgroups) (cellName : CellName) (o : Except CellsError Unit)
  | get (cgroups : Cgroups) (cellName : CellName) (f : Cell → Except CellsError Unit)
  | getMut (cgroups : Cgroups) (cellName : CellName) (o : Except CellsError Unit)
  | broadcastFree (o : Cell → Except CellsError Unit)
  | broadcastKill (o : Cell → Except CellsError Unit)

/-- The call does not see `Cell::allocate` fail. -/
def Op.Allocates : Op → Prop
  | .allocate cgroups n _ o => cgroups n = false → o = .ok ()
  | _ => True

namespace Cells

/-- The registry after one call. -/
def step (cells : Cells) : Op → Cells
  | .allocate cgroups n s o => (cells.allocate cgroups n s o).1
  | .free cgroups n o => (cells.free cgroups n o).1
  | .get cgroups n f => (cells.get cgroups n f).1
  | .getMut cgroups n o => (cells.getMut cgroups n fun c => c.free o).1
  | .broadcastFree o => cells.broadcastFree o
  | .broadcastKill o => cells.broadcastKill o

/-- The registries reached from the empty one by runs whose calls all satisfy `P`. -/
inductive ReachableBy (P : Op → Prop) : Cells → Prop
  | empty : ReachableBy P empty
  | step {cells : Cells} (op : Op) : P op → ReachableBy P cells → ReachableBy P (cells.step op)

/-- The registries reached by any run. -/
abbrev Reachable : Cells → Prop := ReachableBy fun _ => True

/-- `CellService::free_all` on the registry: `broadcast_free`, then `broadcast_kill`. -/
def freeAll (free kill : Cell → Except CellsError Unit) (cells : Cells) : Cells :=
  (cells.broadcastFree free).broadcastKill kill

/-! ## Cells leave, or are freed -/

/-- Every cell of `b` is the cell `a` caches under the same key, as it was or freed: all
that `get`, `get_mut`, `free` and the broadcasts can do to a cell. -/
def Retires (a b : Cells) : Prop :=
  ∀ n c', b.cache.lookup n = some c' → ∃ c, a.cache.lookup n = some c ∧
    (c' = c ∨ c' = { c with state := .freed })

namespace Retires

theorem refl (a : Cells) : Retires a a := fun _ c h => ⟨c, h, .inl rfl⟩

theorem erase (a : Cells) (n : CellName) : Retires a ⟨a.cache.erase n⟩ := by
  intro m c' h
  by_cases hm : m = n
  · subst hm; simp [AList.lookup_erase] at h
  · exact ⟨c', by rwa [AList.lookup_erase_ne hm] at h, .inl rfl⟩

theorem insert_free {a : Cells} {n : CellName} {c : Cell} (hc : a.cache.lookup n = some c)
    (o : Except CellsError Unit) : Retires a ⟨a.cache.insert n (c.free o).1⟩ := by
  intro m c' h
  by_cases hm : m = n
  · subst hm
    rw [AList.lookup_insert] at h
    cases h
    exact ⟨c, hc, c.free_cases o⟩
  · exact ⟨c', by rwa [AList.lookup_insert_ne hm] at h, .inl rfl⟩

theorem broadcast {a : Cells} {g : Cell → Cell × Except CellsError Unit}
    (hg : ∀ c, (g c).1 = c ∨ (g c).1 = { c with state := .freed }) :
    Retires a ((a.doBroadcast g).1.removeAll (a.doBroadcast g).2) := by
  intro m c' h
  have hmap : (a.doBroadcast g).1.cache.lookup m = (a.cache.lookup m).map fun c => (g c).1 :=
    lookup_mapCells _ _ _
  rw [lookup_removeAll, hmap] at h
  split at h
  · cases h
  · obtain ⟨c, hc, rfl⟩ := Option.map_eq_some'.mp h
    exact ⟨c, hc, hg c⟩

end Retires

variable {cgroups : Cgroups} {cells : Cells} {n : CellName} {o : Except CellsError Unit}

theorem get_retires {f : Cell → Except CellsError Unit} :
    Retires cells (cells.get cgroups n f).1 := by
  refine name_cases cgroups cells n (fun h hn => ?_) (fun h hn => ?_) (fun h hn => ?_)
    (fun c h hc => ?_)
  · rw [get_of_unknown h hn]; exact .refl _
  · rw [get_of_stale h hn]; exact .erase _ _
  · rw [get_of_foreign h hn]; exact .refl _
  · rw [get_of_cached h hc]; split
    · exact .erase _ _
    · exact .refl _

theorem getMut_retires : Retires cells (cells.getMut cgroups n fun c => c.free o).1 := by
  refine name_cases cgroups cells n (fun h hn => ?_) (fun h hn => ?_) (fun h hn => ?_)
    (fun c h hc => ?_)
  · rw [getMut_of_unknown h hn]; exact .refl _
  · rw [getMut_of_stale h hn]; exact .erase _ _
  · rw [getMut_of_foreign h hn]; exact .refl _
  · rw [getMut_of_cached h hc]; split
    · exact .erase _ _
    · exact .insert_free hc o

theorem free_retires : Retires cells (cells.free cgroups n o).1 := by
  refine name_cases cgroups cells n (fun h hn => ?_) (fun h hn => ?_) (fun h hn => ?_)
    (fun c h hc => ?_)
  · rw [free_of_unknown h hn]; exact .refl _
  · rw [free_of_stale h hn]; exact .erase _ _
  · rw [free_of_foreign h hn]; exact .refl _
  · rw [free_of_cached h hc]; rcases o with e | ⟨⟩
    · dsimp only; split
      · exact .erase _ _
      · exact .insert_free hc (.error e)
    · exact .erase _ _

/-! ## Key/name agreement -/

theorem KeysNamed.retires {a b : Cells} (h : a.KeysNamed) (hr : Retires a b) : b.KeysNamed := by
  intro n c' hc'
  obtain ⟨c, hc, rfl | rfl⟩ := hr n c' hc'
  · exact h n _ hc
  · exact h n c hc

theorem KeysNamed.allocate {s : CellSpec} (h : cells.KeysNamed) :
    (cells.allocate cgroups n s o).1.KeysNamed := by
  cases hn : cgroups n
  · rw [allocate_of_missing hn]
    intro m c' hc'
    by_cases hm : m = n
    · subst hm
      rw [AList.lookup_insert] at hc'
      cases hc'
      simp [Cell.new]
    · rw [AList.lookup_insert_ne hm, AList.lookup_erase_ne hm] at hc'
      exact h m c' hc'
  · rw [allocate_of_exists hn]; exact h

theorem KeysNamed.step (h : cells.KeysNamed) (op : Op) : (cells.step op).KeysNamed := by
  cases op with
  | allocate => exact h.allocate
  | free => exact h.retires free_retires
  | get => exact h.retires get_retires
  | getMut => exact h.retires getMut_retires
  | broadcastFree => exact h.retires (.broadcast fun c => c.free_cases _)
  | broadcastKill => exact h.retires (.broadcast fun c => c.kill_cases _)

/-- Every reachable registry caches each cell under its own name. -/
theorem keysNamed_of_reachable {P : Op → Prop} (hr : ReachableBy P cells) : cells.KeysNamed := by
  induction hr with
  | empty => intro n c h; simp [empty] at h
  | step op _ _ ih => exact ih.step op

/-! ## Shutdown -/

theorem lookup_broadcastFree (hk : cells.KeysNamed) (free : Cell → Except CellsError Unit)
    (n : CellName) :
    (cells.broadcastFree free).cache.lookup n =
      (cells.cache.lookup n).filter fun c => !(free c).toBool := by
  rw [broadcastFree, lookup_broadcast hk fun c => c.free_cellName _]
  cases cells.cache.lookup n with
  | none => rfl
  | some c => rcases h : free c with e | ⟨⟩ <;> simp [h, Option.filter, Cell.free, Except.toBool]

theorem lookup_broadcastKill (hk : cells.KeysNamed) (kill : Cell → Except CellsError Unit)
    (n : CellName) :
    (cells.broadcastKill kill).cache.lookup n =
      (cells.cache.lookup n).filter fun c => !(kill c).toBool := by
  rw [broadcastKill, lookup_broadcast hk fun c => c.kill_cellName _]
  cases cells.cache.lookup n with
  | none => rfl
  | some c => rcases h : kill c with e | ⟨⟩ <;> simp [h, Option.filter, Cell.kill, Except.toBool]

theorem cache_eq_empty {cache : Cache} (h : ∀ n, cache.lookup n = none) : cache = ∅ := by
  apply AList.ext
  cases he : cache.entries with
  | nil => rfl
  | cons e l =>
    have hmem : e.1 ∈ cache := by simp [AList.mem_keys, AList.keys, he]
    exact absurd (h e.1) (by simpa [AList.lookup_eq_none] using hmem)

/-- **Shutdown** (spec P6). In every reachable registry and whatever the kernel answers,
`broadcast_free` keeps exactly the cells whose free failed, which are the cells
`broadcast_kill` then runs on, and `free_all` keeps exactly the cells whose free and kill
both failed, each under its own name and unchanged; so the registry ends empty when every
kill succeeds. -/
theorem freeAll_leaves_failures (cells : Cells) (hr : Reachable cells)
    (free kill : Cell → Except CellsError Unit) :
    (∀ n, (cells.broadcastFree free).cache.lookup n =
      (cells.cache.lookup n).filter fun c => !(free c).toBool) ∧
    (∀ n, (cells.freeAll free kill).cache.lookup n =
      (cells.cache.lookup n).filter fun c => !(free c).toBool && !(kill c).toBool) ∧
    (cells.freeAll free kill).KeysNamed ∧
    ((∀ c, kill c = .ok ()) → (cells.freeAll free kill).cache = ∅) := by
  have hk := keysNamed_of_reachable hr
  have hk' : (cells.broadcastFree free).KeysNamed :=
    hk.retires (.broadcast fun c => c.free_cases _)
  have hall : ∀ n, (cells.freeAll free kill).cache.lookup n =
      (cells.cache.lookup n).filter fun c => !(free c).toBool && !(kill c).toBool := by
    intro n
    rw [freeAll, lookup_broadcastKill hk', lookup_broadcastFree hk]
    cases cells.cache.lookup n with
    | none => rfl
    | some c =>
      rcases hf : free c with e | ⟨⟩ <;> rcases hk : kill c with e' | ⟨⟩ <;>
        simp [hf, hk, Option.filter, Except.toBool]
  refine ⟨lookup_broadcastFree hk free, hall,
    hk'.retires (.broadcast fun c => c.kill_cases _), fun hkill => cache_eq_empty fun n => ?_⟩
  rw [hall]
  cases cells.cache.lookup n with
  | none => rfl
  | some c => simp [hkill, Except.toBool]

/-- `alpha` allocated into the empty registry, whose free fails and whose kill succeeds. -/
theorem freeAll_leaves_failures_alpha :
    Reachable (empty.step (.allocate (fun _ => false) alpha .newForTests (.ok ()))) ∧
    (∀ n, ((empty.step (.allocate (fun _ => false) alpha .newForTests (.ok ()))).broadcastFree
        fun _ => .error (.cgroupNotFound alpha)).cache.lookup n =
      ((empty.step (.allocate (fun _ => false) alpha .newForTests (.ok ()))).cache.lookup n).filter
        fun _ => !(Except.error (.cgroupNotFound alpha) : Except CellsError Unit).toBool) ∧
    (∀ n, ((empty.step (.allocate (fun _ => false) alpha .newForTests (.ok ()))).freeAll
        (fun _ => .error (.cgroupNotFound alpha)) fun _ => .ok ()).cache.lookup n =
      ((empty.step (.allocate (fun _ => false) alpha .newForTests (.ok ()))).cache.lookup n).filter
        fun _ => !(Except.error (.cgroupNotFound alpha) : Except CellsError Unit).toBool &&
          !(Except.ok () : Except CellsError Unit).toBool) ∧
    ((empty.step (.allocate (fun _ => false) alpha .newForTests (.ok ()))).freeAll
        (fun _ => .error (.cgroupNotFound alpha)) fun _ => .ok ()).KeysNamed ∧
    ((∀ c : Cell, (fun _ => .ok ()) c = (Except.ok () : Except CellsError Unit)) →
      ((empty.step (.allocate (fun _ => false) alpha .newForTests (.ok ()))).freeAll
        (fun _ => .error (.cgroupNotFound alpha)) fun _ => .ok ()).cache = ∅) :=
  ⟨.step _ trivial .empty, freeAll_leaves_failures _ (.step _ trivial .empty) _ _⟩

/-! ## Spec I1 -/

/-- Spec I1: every cached cell has been through a successful `Cell::allocate` (its state
left Unallocated, which only that transition does). -/
def OnlyAllocated (cells : Cells) : Prop :=
  ∀ n c, cells.cache.lookup n = some c → c.state ≠ .unallocated

theorem OnlyAllocated.retires {a b : Cells} (h : a.OnlyAllocated) (hr : Retires a b) :
    b.OnlyAllocated := by
  intro n c' hc'
  obtain ⟨c, hc, rfl | rfl⟩ := hr n c' hc'
  · exact h n _ hc
  · simp

/-- Every call keeps I1, except an `allocate` whose `Cell::allocate` fails. -/
theorem OnlyAllocated.step (h : cells.OnlyAllocated) {op : Op} (hop : op.Allocates) :
    (cells.step op).OnlyAllocated := by
  cases op with
  | allocate cgroups n s o =>
    cases hn : cgroups n
    · obtain rfl := hop hn
      simp only [Cells.step, allocate_of_missing hn]
      intro m c' hc'
      by_cases hm : m = n
      · subst hm
        rw [AList.lookup_insert] at hc'
        cases hc'
        simp [Cell.allocate]
      · rw [AList.lookup_insert_ne hm, AList.lookup_erase_ne hm] at hc'
        exact h m c' hc'
    · simpa [Cells.step, allocate_of_exists hn] using h
  | free => exact h.retires free_retires
  | get => exact h.retires get_retires
  | getMut => exact h.retires getMut_retires
  | broadcastFree => exact h.retires (.broadcast fun c => c.free_cases _)
  | broadcastKill => exact h.retires (.broadcast fun c => c.kill_cases _)

/-- I1 holds along every run in which no `Cell::allocate` fails. -/
theorem onlyAllocated_of_reachableBy (hr : ReachableBy Op.Allocates cells) :
    cells.OnlyAllocated := by
  induction hr with
  | empty => intro n c h; simp [empty] at h
  | step _ hop _ ih => exact ih.step hop

/-- `alpha` allocated, then a free of `alpha` whose `Cell::free` fails, so that the cell stays
cached. -/
theorem onlyAllocated_alpha_free_refused :
    ((empty.step (.allocate (fun _ => false) alpha .newForTests (.ok ()))).step
      (.free (fun _ => true) alpha (.error (.cgroupNotFound alpha)))).OnlyAllocated :=
  onlyAllocated_of_reachableBy (.step _ trivial (.step _ (fun _ => rfl) .empty))

/-- The failing case: a `Cells::allocate` whose `Cell::allocate` fails returns the error
and leaves the fresh, never-allocated cell in the cache, so a one-call run from the empty
registry breaks I1. -/
theorem allocate_failure_caches_cell :
    (empty.allocate (fun _ => false) alpha .newForTests
        (.error (.cgroupCreateFailed alpha))).2 = .error (.cgroupCreateFailed alpha) ∧
    (empty.step (.allocate (fun _ => false) alpha .newForTests
        (.error (.cgroupCreateFailed alpha)))).cache.lookup alpha =
      some (Cell.new alpha .newForTests) ∧
    Reachable (empty.step (.allocate (fun _ => false) alpha .newForTests
        (.error (.cgroupCreateFailed alpha)))) ∧
    ¬ (empty.step (.allocate (fun _ => false) alpha .newForTests
        (.error (.cgroupCreateFailed alpha)))).OnlyAllocated :=
  ⟨rfl, rfl, .step _ trivial .empty, fun h => h alpha _ rfl rfl⟩

end Cells

end Aurae
