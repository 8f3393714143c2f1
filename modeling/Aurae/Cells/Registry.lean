import Aurae.Cells.Cell

/-!
# The `Cells` registry

`Cells` (`cells/cells.rs`) is the in-memory map *cell name → Cell* of one agent. Every
method reconciles the cache against the cgroup filesystem (`Cgroup::exists`) before it
trusts it, and a method's effect on the registry is kept even when it returns an error,
as Rust's `&mut self` keeps it: each method returns the registry after the call with its
result.

* reconciliation — `handleCgroupDoesNotExist` and the `get`/`getMut`/`free` cases built
  on it (`get_of_cgroup_missing`, `get_of_foreign_cgroup`, ...);
* frames — every method changes the entry of its own name only (`SameExcept`);
* the allocate/free round trip — `allocate_then_free` (spec P2).

The cache is Mathlib's `AList`, so at most one cell per name (spec I4) holds by
construction. A `HashMap` has no order; nothing here reads the order of the entries.
-/

namespace Aurae

/-- The cache of `Cells`: `HashMap<CellName, Cell>`. -/
abbrev Cache := AList fun _ : CellName => Cell

/-- `Cgroup::exists`: which names have a cgroup on the filesystem when a method runs. -/
abbrev Cgroups := CellName → Bool

/-- The in-memory cache of cells created with Aurae. -/
structure Cells where
  cache : Cache

namespace Cache

/-- `HashMap::entry(..).or_insert_with(..)`: the cached value, or a fresh one inserted. -/
def orInsertWith (cache : Cache) (k : CellName) (f : Unit → Cell) : Cache × Cell :=
  match cache.lookup k with
  | some c => (cache, c)
  | none => (cache.insert k (f ()), f ())

/-- `values_mut()` with a mutation applied to every cell; the keys stay. -/
def mapCells (g : Cell → Cell) (cache : Cache) : Cache :=
  ⟨cache.entries.map (fun e => ⟨e.1, g e.2⟩), by
    have : (cache.entries.map (fun e => (⟨e.1, g e.2⟩ : Σ _ : CellName, Cell))).keys =
        cache.entries.keys := by simp [List.keys, Function.comp_def]
    simpa [List.NodupKeys, this] using cache.nodupKeys⟩

end Cache

namespace Cells

/-- `Cells::default`: the empty registry. -/
def empty : Cells := ⟨∅⟩

/-- `Cells::handle_cgroup_does_not_exist`: with the cgroup gone, a cached cell is stale
and evicted (`CgroupNotFound`), and an uncached name is unknown (`CellNotFound`). -/
def handleCgroupDoesNotExist (cgroups : Cgroups) (cells : Cells) (cellName : CellName) :
    Cells × Except CellsError Unit :=
  if cgroups cellName then (cells, .ok ())
  else
    match cells.cache.lookup cellName with
    | none => (cells, .error (.cellNotFound cellName))
    | some _ => (⟨cells.cache.erase cellName⟩, .error (.cgroupNotFound cellName))

/-- `Cells::get`: reconcile, then apply `f` to the cached cell; a `CellNotAllocated` from
`f` evicts the cell. -/
def get {R : Type} (cgroups : Cgroups) (cells : Cells) (cellName : CellName)
    (f : Cell → Except CellsError R) : Cells × Except CellsError R :=
  match cells.handleCgroupDoesNotExist cgroups cellName with
  | (cells, .error e) => (cells, .error e)
  | (cells, .ok ()) =>
    match cells.cache.lookup cellName with
    | none => (cells, .error (.cgroupIsNotACell cellName))
    | some cell =>
      if isCellNotAllocated (f cell) then (⟨cells.cache.erase cellName⟩, f cell)
      else (cells, f cell)

/-- `Cells::get_mut`: as `get`, with a closure that mutates the cached cell in place. -/
def getMut {R : Type} (cgroups : Cgroups) (cells : Cells) (cellName : CellName)
    (f : Cell → Cell × Except CellsError R) : Cells × Except CellsError R :=
  match cells.handleCgroupDoesNotExist cgroups cellName with
  | (cells, .error e) => (cells, .error e)
  | (cells, .ok ()) =>
    match cells.cache.lookup cellName with
    | none => (cells, .error (.cgroupIsNotACell cellName))
    | some cell =>
      let cache := cells.cache.insert cellName (f cell).1
      if isCellNotAllocated (f cell).2 then (⟨cache.erase cellName⟩, (f cell).2)
      else (⟨cache⟩, (f cell).2)

/-- `Cells::free`: `Cell::free` on the cached cell (the kernel answers `o`), then the
cell leaves the cache. -/
def free (cgroups : Cgroups) (cells : Cells) (cellName : CellName)
    (o : Except CellsError Unit) : Cells × Except CellsError Unit :=
  match cells.handleCgroupDoesNotExist cgroups cellName with
  | (cells, .error e) => (cells, .error e)
  | (cells, .ok ()) =>
    match cells.getMut cgroups cellName (fun cell => cell.free o) with
    | (cells, .error e) => (cells, .error e)
    | (cells, .ok ()) => (⟨cells.cache.erase cellName⟩, .ok ())

/-- `Cells::allocate`: a name whose cgroup exists is refused (`CellExists` when cached,
`CgroupIsNotACell` otherwise); else a stale entry is dropped, a fresh `Cell::new` is
cached and `Cell::allocate` runs on it in place (the kernel answers `o`). -/
def allocate (cgroups : Cgroups) (cells : Cells) (cellName : CellName) (cellSpec : CellSpec)
    (o : Except CellsError Unit) : Cells × Except CellsError Cell :=
  if cgroups cellName then
    if cellName ∈ cells.cache then (cells, .error (.cellExists cellName))
    else (cells, .error (.cgroupIsNotACell cellName))
  else
    -- From here, we know the cgroup doesn't exist, so remove from cache if it does
    let entry := Cache.orInsertWith (cells.cache.erase cellName) cellName
      fun _ => Cell.new cellName cellSpec
    let cell := entry.2.allocate o
    let cache := entry.1.insert cellName cell.1
    match cell.2 with
    | .error e => (⟨cache⟩, .error e)
    | .ok () => (⟨cache⟩, .ok cell.1)

/-- `Cells::do_broadcast`: `f` runs on every cell in place; the names of the cells it
succeeded on are collected. -/
def doBroadcast (f : Cell → Cell × Except CellsError Unit) (cells : Cells) :
    Cells × List CellName :=
  (⟨Cache.mapCells (fun c => (f c).1) cells.cache⟩,
    cells.cache.entries.filterMap fun e =>
      match (f e.2).2 with
      | .ok () => some (f e.2).1.cellName
      | .error _ => none)

/-- The removal loop of the broadcasts: `for cell_name in names { cache.remove(..) }`. -/
def removeAll (cells : Cells) (names : List CellName) : Cells :=
  names.foldl (fun cells cellName => ⟨cells.cache.erase cellName⟩) cells

/-- `Cells::broadcast_free`: `Cell::free` on every cell (the kernel answers `o cell`),
failures ignored; the freed cells leave the cache. -/
def broadcastFree (o : Cell → Except CellsError Unit) (cells : Cells) : Cells :=
  let r := cells.doBroadcast fun cell => cell.free (o cell)
  r.1.removeAll r.2

/-- `Cells::broadcast_kill`: `Cell::kill` on every cell, failures ignored; the killed
cells leave the cache. -/
def broadcastKill (o : Cell → Except CellsError Unit) (cells : Cells) : Cells :=
  let r := cells.doBroadcast fun cell => cell.kill (o cell)
  r.1.removeAll r.2

/-! ## Cache algebra -/

theorem erase_of_not_mem {cache : Cache} {n : CellName} (h : n ∉ cache) :
    cache.erase n = cache :=
  AList.ext (List.kerase_of_not_mem_keys (AList.mem_keys.not.mp h))

theorem erase_insert_self (cache : Cache) (n : CellName) (c : Cell) :
    (cache.insert n c).erase n = cache.erase n :=
  AList.ext (List.kerase_cons_eq rfl)

theorem lookup_some_of_mem {cache : Cache} {n : CellName} (h : n ∈ cache) :
    ∃ c, cache.lookup n = some c :=
  Option.isSome_iff_exists.mp (AList.lookup_isSome.mpr h)

/-! ## Frames -/

/-- `b` agrees with `a` on every name but `n`. -/
def SameExcept (n : CellName) (a b : Cells) : Prop :=
  ∀ m, m ≠ n → b.cache.lookup m = a.cache.lookup m

namespace SameExcept

variable {n : CellName} {a b c : Cells}

theorem refl (a : Cells) : SameExcept n a a := fun _ _ => rfl

theorem trans (h₁ : SameExcept n a b) (h₂ : SameExcept n b c) : SameExcept n a c :=
  fun m hm => (h₂ m hm).trans (h₁ m hm)

theorem erase (a : Cells) : SameExcept n a ⟨a.cache.erase n⟩ :=
  fun _ hm => AList.lookup_erase_ne hm

theorem insert (a : Cells) (x : Cell) : SameExcept n a ⟨a.cache.insert n x⟩ :=
  fun _ hm => AList.lookup_insert_ne hm

end SameExcept

/-! ## Reconciliation -/

variable {cgroups : Cgroups} {cells : Cells} {n : CellName}

theorem handleCgroupDoesNotExist_of_exists (h : cgroups n = true) :
    cells.handleCgroupDoesNotExist cgroups n = (cells, .ok ()) := by
  simp [handleCgroupDoesNotExist, h]

theorem handleCgroupDoesNotExist_of_unknown (h : cgroups n = false) (hn : n ∉ cells.cache) :
    cells.handleCgroupDoesNotExist cgroups n = (cells, .error (.cellNotFound n)) := by
  simp [handleCgroupDoesNotExist, h, AList.lookup_eq_none.mpr hn]

theorem handleCgroupDoesNotExist_of_stale (h : cgroups n = false) (hn : n ∈ cells.cache) :
    cells.handleCgroupDoesNotExist cgroups n =
      (⟨cells.cache.erase n⟩, .error (.cgroupNotFound n)) := by
  obtain ⟨c, hc⟩ := lookup_some_of_mem hn
  simp [handleCgroupDoesNotExist, h, hc]

/-- The four situations of a name, on which every method splits: unknown (no cgroup, not
cached), stale (no cgroup, cached), foreign (a cgroup, not cached) and cached. -/
theorem name_cases (cgroups : Cgroups) (cells : Cells) (n : CellName) {P : Prop}
    (unknown : cgroups n = false → n ∉ cells.cache → P)
    (stale : cgroups n = false → n ∈ cells.cache → P)
    (foreign : cgroups n = true → n ∉ cells.cache → P)
    (cached : ∀ c, cgroups n = true → cells.cache.lookup n = some c → P) : P := by
  by_cases hn : n ∈ cells.cache <;> cases h : cgroups n
  · exact stale h hn
  · obtain ⟨c, hc⟩ := lookup_some_of_mem hn
    exact cached c h hc
  · exact unknown h hn
  · exact foreign h hn

/-! ## `get`, `get_mut` and `free`, case by case -/

section Access

variable {R : Type} {f : Cell → Except CellsError R} {g : Cell → Cell × Except CellsError R}
  {o : Except CellsError Unit}

theorem get_of_unknown (h : cgroups n = false) (hn : n ∉ cells.cache) :
    cells.get cgroups n f = (cells, .error (.cellNotFound n)) := by
  simp [get, handleCgroupDoesNotExist_of_unknown h hn]

theorem get_of_stale (h : cgroups n = false) (hn : n ∈ cells.cache) :
    cells.get cgroups n f = (⟨cells.cache.erase n⟩, .error (.cgroupNotFound n)) := by
  simp [get, handleCgroupDoesNotExist_of_stale h hn]

theorem get_of_foreign (h : cgroups n = true) (hn : n ∉ cells.cache) :
    cells.get cgroups n f = (cells, .error (.cgroupIsNotACell n)) := by
  simp [get, handleCgroupDoesNotExist_of_exists h, AList.lookup_eq_none.mpr hn]

theorem get_of_cached {c : Cell} (h : cgroups n = true) (hc : cells.cache.lookup n = some c) :
    cells.get cgroups n f =
      if isCellNotAllocated (f c) then (⟨cells.cache.erase n⟩, f c) else (cells, f c) := by
  simp [get, handleCgroupDoesNotExist_of_exists h, hc]

theorem getMut_of_unknown (h : cgroups n = false) (hn : n ∉ cells.cache) :
    cells.getMut cgroups n g = (cells, .error (.cellNotFound n)) := by
  simp [getMut, handleCgroupDoesNotExist_of_unknown h hn]

theorem getMut_of_stale (h : cgroups n = false) (hn : n ∈ cells.cache) :
    cells.getMut cgroups n g = (⟨cells.cache.erase n⟩, .error (.cgroupNotFound n)) := by
  simp [getMut, handleCgroupDoesNotExist_of_stale h hn]

theorem getMut_of_foreign (h : cgroups n = true) (hn : n ∉ cells.cache) :
    cells.getMut cgroups n g = (cells, .error (.cgroupIsNotACell n)) := by
  simp [getMut, handleCgroupDoesNotExist_of_exists h, AList.lookup_eq_none.mpr hn]

theorem getMut_of_cached {c : Cell} (h : cgroups n = true)
    (hc : cells.cache.lookup n = some c) :
    cells.getMut cgroups n g =
      if isCellNotAllocated (g c).2 then (⟨cells.cache.erase n⟩, (g c).2)
      else (⟨cells.cache.insert n (g c).1⟩, (g c).2) := by
  simp [getMut, handleCgroupDoesNotExist_of_exists h, hc, erase_insert_self]

theorem free_of_unknown (h : cgroups n = false) (hn : n ∉ cells.cache) :
    cells.free cgroups n o = (cells, .error (.cellNotFound n)) := by
  simp [free, handleCgroupDoesNotExist_of_unknown h hn]

theorem free_of_stale (h : cgroups n = false) (hn : n ∈ cells.cache) :
    cells.free cgroups n o = (⟨cells.cache.erase n⟩, .error (.cgroupNotFound n)) := by
  simp [free, handleCgroupDoesNotExist_of_stale h hn]

theorem free_of_foreign (h : cgroups n = true) (hn : n ∉ cells.cache) :
    cells.free cgroups n o = (cells, .error (.cgroupIsNotACell n)) := by
  simp [free, handleCgroupDoesNotExist_of_exists h, getMut_of_foreign h hn]

/-- `free` of a cached cell: gone when `Cell::free` succeeds or reports
`CellNotAllocated`, kept (as the failed call left it) on any other error. -/
theorem free_of_cached {c : Cell} (h : cgroups n = true) (hc : cells.cache.lookup n = some c) :
    cells.free cgroups n o =
      match o with
      | .ok () => (⟨cells.cache.erase n⟩, .ok ())
      | .error e =>
        if isCellNotAllocated (.error e : Except CellsError Unit) then
          (⟨cells.cache.erase n⟩, .error e)
        else (⟨cells.cache.insert n c⟩, .error e) := by
  rcases o with e | ⟨⟩
  · by_cases he : isCellNotAllocated (.error e : Except CellsError Unit) <;>
      simp [free, handleCgroupDoesNotExist_of_exists h, getMut_of_cached h hc, he,
        Cell.free_of_error]
  · simp [free, handleCgroupDoesNotExist_of_exists h, getMut_of_cached h hc, Cell.free,
      isCellNotAllocated, erase_insert_self]

theorem sameExcept_get : SameExcept n cells (cells.get cgroups n f).1 := by
  refine name_cases cgroups cells n (fun h hn => ?_) (fun h hn => ?_) (fun h hn => ?_) (fun c h hc => ?_)
  · rw [get_of_unknown h hn]; exact .refl _
  · rw [get_of_stale h hn]; exact .erase _
  · rw [get_of_foreign h hn]; exact .refl _
  · rw [get_of_cached h hc]; split
    · exact .erase _
    · exact .refl _

theorem sameExcept_getMut : SameExcept n cells (cells.getMut cgroups n g).1 := by
  refine name_cases cgroups cells n (fun h hn => ?_) (fun h hn => ?_) (fun h hn => ?_) (fun c h hc => ?_)
  · rw [getMut_of_unknown h hn]; exact .refl _
  · rw [getMut_of_stale h hn]; exact .erase _
  · rw [getMut_of_foreign h hn]; exact .refl _
  · rw [getMut_of_cached h hc]; split
    · exact .erase _
    · exact .insert _ _

theorem sameExcept_free : SameExcept n cells (cells.free cgroups n o).1 := by
  refine name_cases cgroups cells n (fun h hn => ?_) (fun h hn => ?_) (fun h hn => ?_) (fun c h hc => ?_)
  · rw [free_of_unknown h hn]; exact .refl _
  · rw [free_of_stale h hn]; exact .erase _
  · rw [free_of_foreign h hn]; exact .refl _
  · rw [free_of_cached h hc]; rcases o with e | ⟨⟩
    · dsimp only; split
      · exact .erase _
      · exact .insert _ _
    · exact .erase _

/-- `get` succeeds only on a cached name whose cgroup exists, with `f`'s own answer. -/
theorem get_ok {r : R} (hr : (cells.get cgroups n f).2 = .ok r) :
    cgroups n = true ∧ ∃ c, cells.cache.lookup n = some c ∧ f c = .ok r := by
  refine name_cases cgroups cells n (fun h hn => ?_) (fun h hn => ?_) (fun h hn => ?_) (fun c h hc => ?_)
  · rw [get_of_unknown h hn] at hr; cases hr
  · rw [get_of_stale h hn] at hr; cases hr
  · rw [get_of_foreign h hn] at hr; cases hr
  · rw [get_of_cached h hc] at hr
    exact ⟨h, c, hc, by split at hr <;> exact hr⟩

theorem getMut_ok {r : R} (hr : (cells.getMut cgroups n g).2 = .ok r) :
    cgroups n = true ∧ ∃ c, cells.cache.lookup n = some c ∧ (g c).2 = .ok r := by
  refine name_cases cgroups cells n (fun h hn => ?_) (fun h hn => ?_) (fun h hn => ?_) (fun c h hc => ?_)
  · rw [getMut_of_unknown h hn] at hr; cases hr
  · rw [getMut_of_stale h hn] at hr; cases hr
  · rw [getMut_of_foreign h hn] at hr; cases hr
  · rw [getMut_of_cached h hc] at hr
    exact ⟨h, c, hc, by split at hr <;> exact hr⟩

/-- On a cached cell `get` answers `f c` and evicts exactly on `CellNotAllocated`. -/
theorem get_cached {c : Cell} (h : cgroups n = true) (hc : cells.cache.lookup n = some c) :
    (cells.get cgroups n f).2 = f c ∧
      (n ∈ (cells.get cgroups n f).1.cache ↔ ∀ m, f c ≠ .error (.cellNotAllocated m)) := by
  rw [get_of_cached h hc, ← isCellNotAllocated_eq_false_iff]
  have hn : n ∈ cells.cache := AList.lookup_isSome.mp (by simp [hc])
  split <;> simp_all [AList.mem_erase]

theorem getMut_cached {c : Cell} (h : cgroups n = true) (hc : cells.cache.lookup n = some c) :
    (cells.getMut cgroups n g).2 = (g c).2 ∧
      (n ∈ (cells.getMut cgroups n g).1.cache ↔ ∀ m, (g c).2 ≠ .error (.cellNotAllocated m)) := by
  rw [getMut_of_cached h hc, ← isCellNotAllocated_eq_false_iff]
  split <;> simp_all [AList.mem_erase, AList.mem_insert]

/-- `free` succeeds only when `Cell::free` on the cached cell did, and the cell is then
gone. -/
theorem free_ok (hr : (cells.free cgroups n o).2 = .ok ()) :
    cgroups n = true ∧ (∃ c, cells.cache.lookup n = some c ∧ (c.free o).2 = .ok ()) ∧
      n ∉ (cells.free cgroups n o).1.cache := by
  refine name_cases cgroups cells n (fun h hn => ?_) (fun h hn => ?_) (fun h hn => ?_) (fun c h hc => ?_)
  · rw [free_of_unknown h hn] at hr; cases hr
  · rw [free_of_stale h hn] at hr; cases hr
  · rw [free_of_foreign h hn] at hr; cases hr
  · rw [free_of_cached h hc] at hr ⊢
    rcases o with e | ⟨⟩
    · dsimp only at hr; split at hr <;> cases hr
    · exact ⟨h, ⟨c, hc, rfl⟩, by simp [AList.mem_erase]⟩

/-- A `CellNotAllocated` from `Cell::free` always comes with the eviction of the name. -/
theorem free_evicts {m : CellName} :
    n ∉ (cells.free cgroups n (.error (.cellNotAllocated m))).1.cache := by
  refine name_cases cgroups cells n (fun h hn => ?_) (fun h hn => ?_) (fun h hn => ?_)
    (fun c h hc => ?_)
  · rwa [free_of_unknown h hn]
  · simp [free_of_stale h hn, AList.mem_erase]
  · rwa [free_of_foreign h hn]
  · simp [free_of_cached h hc, isCellNotAllocated, AList.mem_erase]

end Access

/-! ## `allocate` -/

section Allocate

variable {s : CellSpec} {o : Except CellsError Unit}

theorem allocate_of_exists (h : cgroups n = true) :
    cells.allocate cgroups n s o =
      (cells, .error (if n ∈ cells.cache then .cellExists n else .cgroupIsNotACell n)) := by
  by_cases hn : n ∈ cells.cache <;> simp [allocate, h, hn]

/-- With no cgroup, `allocate` replaces whatever was cached under the name by a fresh
cell that has been through `Cell::allocate`, whether that succeeded or not. -/
theorem allocate_of_missing (h : cgroups n = false) :
    cells.allocate cgroups n s o =
      (⟨(cells.cache.erase n).insert n ((Cell.new n s).allocate o).1⟩,
        o.map fun _ => ((Cell.new n s).allocate o).1) := by
  rcases o with e | ⟨⟩ <;>
    simp [allocate, h, Cache.orInsertWith, AList.lookup_erase, AList.insert_insert,
      Except.map, Cell.allocate]

theorem sameExcept_allocate : SameExcept n cells (cells.allocate cgroups n s o).1 := by
  cases h : cgroups n
  · rw [allocate_of_missing h]; exact (SameExcept.erase _).trans (.insert _ _)
  · rw [allocate_of_exists h]; exact .refl _

/-- **Allocate then free is the identity** (spec P2). A successful `allocate` of a name
with no cgroup caches a fresh `Cell::new` that `Cell::allocate` succeeded on, never a
stale cell left under the name; a successful `free` after it leaves the registry as it
was before, minus any stale entry of the name. -/
theorem allocate_then_free (cgroups cgroups' : Cgroups) (cells : Cells) (n : CellName)
    (s : CellSpec) (o o' : Except CellsError Unit) (c : Cell) (h : cgroups n = false)
    (hok : (cells.allocate cgroups n s o).2 = .ok c) :
    (Cell.new n s).allocate o = (c, .ok ()) ∧
      (cells.allocate cgroups n s o).1.cache.lookup n = some c ∧
      SameExcept n cells (cells.allocate cgroups n s o).1 ∧
      (((cells.allocate cgroups n s o).1.free cgroups' n o').2 = .ok () →
        ((cells.allocate cgroups n s o).1.free cgroups' n o').1.cache = cells.cache.erase n ∧
        (n ∉ cells.cache →
          ((cells.allocate cgroups n s o).1.free cgroups' n o').1.cache = cells.cache)) := by
  have hres := hok
  rw [allocate_of_missing h] at hres
  rcases o with e | ⟨⟩
  · cases hres
  cases hres
  refine ⟨rfl, ?_, sameExcept_allocate, fun hfree => ?_⟩ <;> simp only [allocate_of_missing h] at *
  · exact AList.lookup_insert _
  · obtain ⟨hexists, ⟨c', hc', hfreed⟩, -⟩ := free_ok hfree
    obtain rfl : o' = .ok () := by simpa using hfreed
    rw [free_of_cached hexists hc']
    have hgone : (cells.cache.erase n).erase n = cells.cache.erase n :=
      erase_of_not_mem (by simp [AList.mem_erase])
    exact ⟨by simp [erase_insert_self, hgone], fun hn => by
      simp [erase_insert_self, hgone, erase_of_not_mem hn]⟩

/-- `alpha` allocated on an empty registry and then freed: both succeed, and the registry is
empty again. -/
theorem allocate_then_free_alpha :
    (fun _ => false : Cgroups) alpha = false ∧
      (empty.allocate (fun _ => false) alpha .newForTests (.ok ())).2 =
        .ok ((Cell.new alpha .newForTests).allocate (.ok ())).1 ∧
      ((empty.allocate (fun _ => false) alpha .newForTests (.ok ())).1.free
          (fun _ => true) alpha (.ok ())).2 = .ok () ∧
      (Cell.new alpha .newForTests).allocate (.ok ()) =
        (((Cell.new alpha .newForTests).allocate (.ok ())).1, .ok ()) ∧
      (empty.allocate (fun _ => false) alpha .newForTests (.ok ())).1.cache.lookup alpha =
        some ((Cell.new alpha .newForTests).allocate (.ok ())).1 ∧
      SameExcept alpha empty (empty.allocate (fun _ => false) alpha .newForTests (.ok ())).1 ∧
      ((empty.allocate (fun _ => false) alpha .newForTests (.ok ())).1.free
          (fun _ => true) alpha (.ok ())).1.cache = empty.cache.erase alpha ∧
      ((empty.allocate (fun _ => false) alpha .newForTests (.ok ())).1.free
          (fun _ => true) alpha (.ok ())).1.cache = empty.cache :=
  have hfree : ((empty.allocate (fun _ => false) alpha .newForTests (.ok ())).1.free
      (fun _ => true) alpha (.ok ())).2 = .ok () := rfl
  have h := allocate_then_free (fun _ => false) (fun _ => true) empty alpha .newForTests (.ok ())
    (.ok ()) _ rfl rfl
  ⟨rfl, rfl, hfree, h.1, h.2.1, h.2.2.1, (h.2.2.2 hfree).1,
    (h.2.2.2 hfree).2 fun hn => by simp [empty] at hn⟩

end Allocate

/-! ## Broadcasts -/

/-- Every cell is cached under its own name, the key `do_broadcast`'s removals rely on. -/
def KeysNamed (cells : Cells) : Prop :=
  ∀ n c, cells.cache.lookup n = some c → c.cellName = n

theorem lookup_mapCells (g : Cell → Cell) (cache : Cache) (n : CellName) :
    (Cache.mapCells g cache).lookup n = (cache.lookup n).map g := by
  unfold Cache.mapCells AList.lookup
  exact @List.dlookup_map₂ _ _ (fun _ => Cell) (fun _ => Cell) _ (fun _ => g) n

theorem lookup_removeAll (cells : Cells) (names : List CellName) (n : CellName) :
    (cells.removeAll names).cache.lookup n =
      if n ∈ names then none else cells.cache.lookup n := by
  induction names generalizing cells with
  | nil => simp [removeAll]
  | cons m ms ih =>
    simp only [removeAll, List.foldl_cons] at ih ⊢
    rw [ih]
    by_cases h : n = m
    · subst h; simp [AList.lookup_erase]
    · simp [h, AList.lookup_erase_ne h]

theorem mem_doBroadcast {f : Cell → Cell × Except CellsError Unit} :
    n ∈ (cells.doBroadcast f).2 ↔
      ∃ e ∈ cells.cache.entries, (f e.2).2 = .ok () ∧ (f e.2).1.cellName = n := by
  simp only [doBroadcast, List.mem_filterMap]
  refine exists_congr fun e => and_congr_right fun _ => ?_
  split <;> simp_all

/-- After a broadcast and its removals, a name keeps its cell exactly when `f` failed on
it, as `f` left it. This needs every key to name its own cell: the removals go by
`cell.name()`. -/
theorem lookup_broadcast {f : Cell → Cell × Except CellsError Unit} (hk : cells.KeysNamed)
    (hname : ∀ c, (f c).1.cellName = c.cellName) :
    ((cells.doBroadcast f).1.removeAll (cells.doBroadcast f).2).cache.lookup n =
      ((cells.cache.lookup n).filter fun c => !(f c).2.toBool).map fun c => (f c).1 := by
  have hmap : (cells.doBroadcast f).1.cache.lookup n =
      (cells.cache.lookup n).map fun c => (f c).1 := lookup_mapCells _ _ _
  rw [lookup_removeAll, hmap]
  cases hc : cells.cache.lookup n with
  | none => split <;> rfl
  | some c =>
    -- a collected name is the key of the cell it came from
    have hnames : n ∈ (cells.doBroadcast f).2 ↔ (f c).2 = .ok () := by
      rw [mem_doBroadcast]
      constructor
      · rintro ⟨⟨k, c'⟩, he, hok, hn⟩
        have hk' : cells.cache.lookup k = some c' := AList.mem_lookup_iff.mpr he
        obtain rfl : k = n := by rw [← hk _ _ hk', ← hname, hn]
        rw [hc] at hk'; cases hk'; exact hok
      · intro hok
        exact ⟨⟨n, c⟩, AList.mem_lookup_iff.mp hc, hok, by rw [hname, hk _ _ hc]⟩
    by_cases hok : (f c).2 = .ok ()
    · simp [hnames.mpr hok, hok, Except.toBool, Option.filter]
    · rw [if_neg (mt hnames.mp hok)]
      rcases hf : (f c).2 with e | ⟨⟩
      · simp [hf, Except.toBool, Option.filter]
      · exact absurd hf hok

/-- **Reconciliation with the cgroup filesystem** (spec I2, I3, P3). Each method touches
the entry of its own name only. `allocate` refuses a name whose cgroup exists; `free`,
`get` and `get_mut` report an unknown name without a change, evict a stale entry, refuse
a foreign cgroup, and succeed only on a cached cell whose cgroup exists, evicting it when
the cell turns out not to be allocated. -/
theorem registry_reconciles (cgroups : Cgroups) (cells : Cells) (n : CellName)
    (s : CellSpec) (o : Except CellsError Unit) {R : Type} (f : Cell → Except CellsError R)
    (g : Cell → Cell × Except CellsError R) :
    (SameExcept n cells (cells.allocate cgroups n s o).1 ∧
      SameExcept n cells (cells.free cgroups n o).1 ∧
      SameExcept n cells (cells.get cgroups n f).1 ∧
      SameExcept n cells (cells.getMut cgroups n g).1) ∧
    (cgroups n = true → cells.allocate cgroups n s o =
      (cells, .error (if n ∈ cells.cache then .cellExists n else .cgroupIsNotACell n))) ∧
    (cgroups n = false → n ∉ cells.cache →
      cells.free cgroups n o = (cells, .error (.cellNotFound n)) ∧
      cells.get cgroups n f = (cells, .error (.cellNotFound n)) ∧
      cells.getMut cgroups n g = (cells, .error (.cellNotFound n))) ∧
    (cgroups n = false → n ∈ cells.cache →
      cells.free cgroups n o = (⟨cells.cache.erase n⟩, .error (.cgroupNotFound n)) ∧
      cells.get cgroups n f = (⟨cells.cache.erase n⟩, .error (.cgroupNotFound n)) ∧
      cells.getMut cgroups n g = (⟨cells.cache.erase n⟩, .error (.cgroupNotFound n))) ∧
    (cgroups n = true → n ∉ cells.cache →
      cells.free cgroups n o = (cells, .error (.cgroupIsNotACell n)) ∧
      cells.get cgroups n f = (cells, .error (.cgroupIsNotACell n)) ∧
      cells.getMut cgroups n g = (cells, .error (.cgroupIsNotACell n))) ∧
    (∀ r, (cells.get cgroups n f).2 = .ok r →
      cgroups n = true ∧ ∃ c, cells.cache.lookup n = some c ∧ f c = .ok r) ∧
    (∀ r, (cells.getMut cgroups n g).2 = .ok r →
      cgroups n = true ∧ ∃ c, cells.cache.lookup n = some c ∧ (g c).2 = .ok r) ∧
    (∀ c, cgroups n = true → cells.cache.lookup n = some c →
      ((cells.get cgroups n f).2 = f c ∧
        (n ∈ (cells.get cgroups n f).1.cache ↔ ∀ m, f c ≠ .error (.cellNotAllocated m))) ∧
      ((cells.getMut cgroups n g).2 = (g c).2 ∧
        (n ∈ (cells.getMut cgroups n g).1.cache ↔
          ∀ m, (g c).2 ≠ .error (.cellNotAllocated m)))) ∧
    ((cells.free cgroups n o).2 = .ok () →
      cgroups n = true ∧ (∃ c, cells.cache.lookup n = some c ∧ (c.free o).2 = .ok ()) ∧
        n ∉ (cells.free cgroups n o).1.cache) ∧
    (∀ m, o = .error (.cellNotAllocated m) → n ∉ (cells.free cgroups n o).1.cache) :=
  ⟨⟨sameExcept_allocate, sameExcept_free, sameExcept_get, sameExcept_getMut⟩,
    allocate_of_exists,
    fun h hn => ⟨free_of_unknown h hn, get_of_unknown h hn, getMut_of_unknown h hn⟩,
    fun h hn => ⟨free_of_stale h hn, get_of_stale h hn, getMut_of_stale h hn⟩,
    fun h hn => ⟨free_of_foreign h hn, get_of_foreign h hn, getMut_of_foreign h hn⟩,
    fun _ => get_ok, fun _ => getMut_ok,
    fun _ h hc => ⟨get_cached h hc, getMut_cached h hc⟩, free_ok, fun _ ho => ho ▸ free_evicts⟩

end Cells

end Aurae
