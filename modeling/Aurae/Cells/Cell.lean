import Mathlib.Data.List.AList

/-!
# Cells, their names and their specs

The data model of the cell registry (`cells/mod.rs`, `cells/cells.rs`):

* `CellName` — a cell's name, carrying its syntax `[a-z0-9][a-z0-9-]*` as a field, so
  that no name holds the path separator `/` (`CellName.sep_not_mem`);
* `CellSpec` — the cgroup controllers and isolation flags a cell is allocated with;
* `CellsError` — the registry's error taxonomy;
* `Cell` — one cgroup plus its nested agent, with the state machine
  Unallocated → Allocated → Freed.

`cell.rs`, `cell_name.rs` and `error.rs` are not among the sources, so `Cell`'s methods,
the name syntax and the error variants follow the spec. Whether the kernel lets a
`Cell::allocate`, `free` or `kill` succeed is outside the code: each method takes the
kernel's answer as an argument, and every theorem about the registry quantifies over it.
-/

namespace Aurae

/-! ## Names -/

/-- Modelled from the spec: the syntax of a `CellName`, a non-empty identifier matching
`[a-z0-9][a-z0-9-]*`. -/
def validCellName : List Char → Bool
  | [] => false
  | c :: cs => (c.isLower || c.isDigit) && cs.all fun c => c.isLower || c.isDigit || c == '-'

/-- A cell's name: a string that passed `CellName` validation. Equality is byte-exact. -/
structure CellName where
  name : String
  valid : validCellName name.toList = true
  deriving DecidableEq

/-- The path separator of `cell_name_path` (`SEPARATOR`). -/
def SEPARATOR : Char := '/'

/-- A valid name never contains the path separator. -/
theorem CellName.sep_not_mem (n : CellName) : SEPARATOR ∉ n.name.toList := by
  have hv := n.valid
  intro hmem
  cases h : n.name.toList with
  | nil => rw [h] at hv; exact absurd hv (by decide)
  | cons c cs =>
    rw [h] at hv hmem
    simp only [validCellName, Bool.and_eq_true, List.all_eq_true] at hv
    rcases List.mem_cons.mp hmem with rfl | hin
    · exact absurd hv.1 (by decide)
    · exact absurd (hv.2 _ hin) (by decide)

/-- A valid name is not empty. -/
theorem CellName.toList_ne_nil (n : CellName) : n.name.toList ≠ [] := by
  intro h
  have hv := n.valid
  rw [h] at hv
  exact absurd hv (by decide)

/-! ## Specs -/

/-- `cgroups::cpu::CpuController`: the `cpu` controller's weight and max. -/
structure CpuController where
  weight : Option Nat
  max : Option Int
  deriving DecidableEq

/-- `cgroups::cpuset::CpusetController`: the `cpuset` controller's masks. -/
structure CpusetController where
  cpus : Option String
  mems : Option String
  deriving DecidableEq

/-- `cgroups::CgroupSpec`: absent controllers mean "inherit". -/
structure CgroupSpec where
  cpu : Option CpuController
  cpuset : Option CpusetController
  deriving DecidableEq

/-- `nested_auraed::IsolationControls`. -/
structure IsolationControls where
  isolateProcess : Bool
  isolateNetwork : Bool
  deriving DecidableEq

/-- `CellSpec`: immutable after construction. -/
structure CellSpec where
  cgroupSpec : CgroupSpec
  isoCtl : IsolationControls
  deriving DecidableEq

/-- `CellSpec::new_for_tests`: no controllers, no isolation. -/
def CellSpec.newForTests : CellSpec :=
  ⟨⟨none, none⟩, ⟨false, false⟩⟩

/-! ## Errors -/

/-- Modelled from the spec: `CellsError`, registry coherence and resource construction. -/
inductive CellsError where
  | cellExists (cellName : CellName)
  | cellNotFound (cellName : CellName)
  | cellNotAllocated (cellName : CellName)
  | cgroupNotFound (cellName : CellName)
  | cgroupIsNotACell (cellName : CellName)
  | cgroupCreateFailed (cellName : CellName)
  | controllerWriteFailed (controller reason : String)
  | isolationFailed (step : String) (errno : Nat)
  deriving DecidableEq

/-- `matches!(res, Err(CellsError::CellNotAllocated { .. }))`. -/
def isCellNotAllocated {α : Type} : Except CellsError α → Bool
  | .error (.cellNotAllocated _) => true
  | _ => false

theorem isCellNotAllocated_eq_false_iff {α : Type} {x : Except CellsError α} :
    isCellNotAllocated x = false ↔ ∀ m, x ≠ .error (.cellNotAllocated m) := by
  rcases x with (_ | _ | _ | _ | _ | _ | _ | _) | _ <;> simp [isCellNotAllocated]

/-! ## The cell -/

/-- Modelled from the spec: the three states of a `Cell`. -/
inductive CellState where
  | unallocated
  | allocated
  | freed
  deriving DecidableEq

/-- Modelled from the spec: the endpoint of a cell's nested agent, a local socket derived
from the cell's name. -/
structure ClientConfig where
  cell : CellName
  deriving DecidableEq

/-- Modelled from the spec: a `Cell` pairs one cgroup with one nested agent. The cgroup
and process handles live in the kernel; the model keeps the name, the spec and the
state. -/
structure Cell where
  cellName : CellName
  spec : CellSpec
  state : CellState
  deriving DecidableEq

namespace Cell

/-- `Cell::new`: a fresh, unallocated cell. -/
def new (cellName : CellName) (spec : CellSpec) : Cell := ⟨cellName, spec, .unallocated⟩

/-- Modelled from the spec: `Cell::allocate` moves the cell to Allocated when the kernel
lets it build the cgroup and the nested agent (`o = .ok ()`); a failure unwinds and the
cell stays as it was. -/
def allocate (c : Cell) (o : Except CellsError Unit) : Cell × Except CellsError Unit :=
  match o with
  | .ok () => ({ c with state := .allocated }, .ok ())
  | .error e => (c, .error e)

/-- Modelled from the spec: `Cell::free`, graceful shutdown then the cgroup's removal. -/
def free (c : Cell) (o : Except CellsError Unit) : Cell × Except CellsError Unit :=
  match o with
  | .ok () => ({ c with state := .freed }, .ok ())
  | .error e => (c, .error e)

/-- Modelled from the spec: `Cell::kill`, `SIGKILL` to the nested agent. -/
def kill (c : Cell) (o : Except CellsError Unit) : Cell × Except CellsError Unit :=
  match o with
  | .ok () => ({ c with state := .freed }, .ok ())
  | .error e => (c, .error e)

/-- Modelled from the spec: `Cell::client_config` fails with `CellNotAllocated` unless
the cell is Allocated. -/
def clientConfig (c : Cell) : Except CellsError ClientConfig :=
  match c.state with
  | .allocated => .ok ⟨c.cellName⟩
  | _ => .error (.cellNotAllocated c.cellName)

@[simp] theorem allocate_cellName (c : Cell) (o) : (c.allocate o).1.cellName = c.cellName := by
  cases o <;> rfl

@[simp] theorem free_cellName (c : Cell) (o) : (c.free o).1.cellName = c.cellName := by
  cases o <;> rfl

@[simp] theorem kill_cellName (c : Cell) (o) : (c.kill o).1.cellName = c.cellName := by
  cases o <;> rfl

@[simp] theorem allocate_result (c : Cell) (o) : (c.allocate o).2 = o := by
  cases o <;> rfl

@[simp] theorem free_result (c : Cell) (o) : (c.free o).2 = o := by
  cases o <;> rfl

@[simp] theorem kill_result (c : Cell) (o) : (c.kill o).2 = o := by
  cases o <;> rfl

/-- `free` leaves the cell as it was, or frees it. -/
theorem free_cases (c : Cell) (o) : (c.free o).1 = c ∨ (c.free o).1 = { c with state := .freed } := by
  cases o
  · exact .inl rfl
  · exact .inr rfl

theorem kill_cases (c : Cell) (o) : (c.kill o).1 = c ∨ (c.kill o).1 = { c with state := .freed } := by
  cases o
  · exact .inl rfl
  · exact .inr rfl

/-- A failed `free` or `kill` leaves the cell as it was. -/
theorem free_of_error (c : Cell) (e : CellsError) : c.free (.error e) = (c, .error e) := rfl

theorem kill_of_error (c : Cell) (e : CellsError) : c.kill (.error e) = (c, .error e) := rfl

end Cell

/-- The cell name of the spec's first scenario. -/
def alpha : CellName := ⟨"alpha", by decide⟩

end Aurae
