import Mathlib
import Aurae.Service.Errors

/-!
# Cell paths and request validation

`validation.rs` turns each wire request of the four RPCs into a validated one, field by
field in declaration order, and the first failure is the answer. A cell path on the wire is
`CellName`s joined by `/`, with no leading, trailing or doubled separator; the empty string
is the path `Empty`, this agent itself.

`cell_name_path.rs` and the `validation` crate are not among the sources: `CellNamePath`
with its `validate`, `into_child` and `into_string`, `validation::required`,
`required_not_empty`, `Weight` and `ExecutableName` follow the spec (§3, §4.7, §6). The
syntax of a cpuset mask is not specified; it is the parameter `mask`.

* `CellNamePath.validate_intoString`, `CellNamePath.intoString_of_validate` — a path prints
  to a string that validates back to it, and every string that validates is the print of
  what it validated to;
* `CellNamePath.length_of_validate` — a non-empty valid string has one segment more than it
  has separators;
* `ValidatedCell.validate_ok` and the `validate_ok` of each request — what a request that
  validates carries, and that it validates again with its path replaced by any other;
* `ValidatedCellServiceAllocateRequest.validate_error`, … — every validation error names a
  field of its request, the one whose check failed.
-/

namespace Aurae

/-! ## Cell paths -/

/-- Modelled from the spec: `CellNamePath`, the `CellName` segments of a path, outermost
first; `CellNamePath::Empty` is the path with none. -/
abbrev CellNamePath := List CellName

namespace CellNamePath

/-- Modelled from the spec: `CellNamePath::into_child`, the head segment and the rest. -/
def intoChild : CellNamePath → Option (CellName × CellNamePath)
  | [] => none
  | n :: rest => some (n, rest)

/-- Modelled from the spec: `CellNamePath::into_string`, the segments joined by
`SEPARATOR`. -/
def intoString (p : CellNamePath) : String :=
  ⟨[SEPARATOR].intercalate (p.map fun n => n.name.toList)⟩

/-- The `CellName` of each segment, in order, or `none` at the first that is not one. -/
def parseSegments : List (List Char) → Option CellNamePath
  | [] => some []
  | seg :: segs =>
    if h : validCellName seg = true then (parseSegments segs).map (⟨⟨seg⟩, h⟩ :: ·) else none

/-- Modelled from the spec: `CellNamePath::validate(Some(name), field_name, parent_name)`.
The empty string is `Empty`; any other is cut at every `SEPARATOR` and each piece must be
a `CellName`, so a leading, trailing or doubled separator is invalid. -/
def validate (name field : String) (parent : FieldPath) : Except ValidationError CellNamePath :=
  if name.isEmpty then .ok []
  else
    match parseSegments (name.toList.splitOn SEPARATOR) with
    | some p => .ok p
    | none => .error (.invalid (fieldName field parent))

@[simp] theorem intoChild_nil : intoChild [] = none := rfl

@[simp] theorem intoChild_cons (n : CellName) (rest : CellNamePath) :
    intoChild (n :: rest) = some (n, rest) := rfl

theorem parseSegments_map (p : CellNamePath) :
    parseSegments (p.map fun n => n.name.toList) = some p := by
  induction p with
  | nil => rfl
  | cons n p ih => rw [List.map_cons, parseSegments, dif_pos n.valid, ih]; rfl

theorem map_of_parseSegments :
    ∀ {segs : List (List Char)} {p : CellNamePath}, parseSegments segs = some p →
      p.map (fun n => n.name.toList) = segs
  | [], _, h => by cases h; rfl
  | seg :: segs, p, h => by
    unfold parseSegments at h
    split at h
    · obtain ⟨p', hp', rfl⟩ := Option.map_eq_some'.mp h
      rw [List.map_cons, map_of_parseSegments hp']; rfl
    · cases h

/-- A list cut at the elements satisfying `q` falls into one piece more than it has
such elements. -/
theorem length_splitOnP {α : Type} (q : α → Bool) (l : List α) :
    (l.splitOnP q).length = l.countP q + 1 := by
  induction l with
  | nil => rfl
  | cons x xs ih =>
    rw [List.splitOnP_cons, List.countP_cons]
    split <;> simp [ih, *]

theorem intoString_nil : intoString [] = "" := rfl

theorem intoString_singleton (n : CellName) : intoString [n] = n.name := by
  simp [intoString, List.intercalate]

theorem intoString_cons_toList (n : CellName) (p : CellNamePath) :
    (intoString (n :: p)).toList =
      n.name.toList ++ (if p = [] then [] else SEPARATOR :: (intoString p).toList) := by
  cases p <;> simp [intoString, List.intercalate]

theorem intoString_isEmpty {p : CellNamePath} : (intoString p).isEmpty = true ↔ p = [] := by
  rw [String.isEmpty_iff]
  cases p with
  | nil => simp [intoString_nil]
  | cons n p =>
    simp only [reduceCtorEq, iff_false]
    intro h
    have := congrArg String.toList h
    rw [intoString_cons_toList] at this
    exact n.toList_ne_nil (List.append_eq_nil.mp this).1

/-- Stripping the head segment shortens the printed path. -/
theorem length_intoString_lt (n : CellName) (rest : CellNamePath) :
    rest.intoString.length < (intoString (n :: rest)).length := by
  have hlen : ∀ s : String, s.length = s.toList.length := fun _ => rfl
  have hn := List.length_pos.mpr n.toList_ne_nil
  rw [hlen, hlen, intoString_cons_toList]
  split
  · subst rest; simpa [intoString_nil] using hn
  · simp only [List.length_append, List.length_cons]
    omega

/-- **Printing, then validating, gives the path back.** -/
theorem validate_intoString (p : CellNamePath) (field : String) (parent : FieldPath) :
    validate p.intoString field parent = .ok p := by
  unfold validate
  by_cases hp : p = []
  · subst hp; rfl
  · have hsplit : (intoString p).toList.splitOn SEPARATOR = p.map fun n => n.name.toList :=
      List.splitOn_intercalate _ _ (by simpa using fun n _ => n.sep_not_mem) (by simpa using hp)
    rw [if_neg (by simpa [intoString_isEmpty] using hp), hsplit, parseSegments_map]

/-- **What validates is a well-formed path**: the string is the print of its segments. -/
theorem intoString_of_validate {s field : String} {parent : FieldPath} {p : CellNamePath}
    (h : validate s field parent = .ok p) : p.intoString = s := by
  unfold validate at h
  split at h
  · cases h; exact ((String.isEmpty_iff _).mp ‹_›).symm
  · split at h <;> cases h
    show String.mk _ = String.mk s.data
    rw [map_of_parseSegments ‹_›, List.intercalate_splitOn]; rfl

/-- **The path syntax round trip.** `validate` accepts exactly the strings `into_string`
prints, and gives back the path printed: on cell paths the two are inverse. -/
theorem validate_eq_ok_iff {s field : String} {parent : FieldPath} {p : CellNamePath} :
    validate s field parent = .ok p ↔ p.intoString = s :=
  ⟨intoString_of_validate, fun h => h ▸ validate_intoString p field parent⟩

theorem validate_eq_nil_iff {s field : String} {parent : FieldPath} {p : CellNamePath}
    (h : validate s field parent = .ok p) : p = [] ↔ s = "" := by
  rw [← intoString_of_validate h, ← String.isEmpty_iff, intoString_isEmpty]

/-- A non-empty valid string has one segment more than it has separators. -/
theorem length_of_validate {s field : String} {parent : FieldPath} {p : CellNamePath}
    (h : validate s field parent = .ok p) (hs : s ≠ "") :
    p.length = s.toList.count SEPARATOR + 1 := by
  unfold validate at h
  rw [if_neg (by rwa [String.isEmpty_iff])] at h
  split at h <;> cases h
  rw [← List.length_map p fun n => n.name.toList, map_of_parseSegments ‹_›, List.splitOn,
    length_splitOnP, List.count]

/-- The handlers' raw test: a non-empty valid string holds a separator exactly when it
validates to two segments or more. -/
theorem contains_iff_of_validate {s field : String} {parent : FieldPath} {p : CellNamePath}
    (h : validate s field parent = .ok p) (hs : s ≠ "") :
    s.contains SEPARATOR = true ↔ 2 ≤ p.length := by
  rw [length_of_validate h hs, String.contains_iff, Nat.succ_le_succ_iff, Nat.one_le_iff_ne_zero,
    Ne, List.count_eq_zero, not_not]
  rfl

end CellNamePath

/-! ## Requests on the wire -/

namespace Proto

/-- `aurae_proto::runtime::CpuController`. -/
structure CpuController where
  weight : Option Nat
  max : Option Int
  deriving DecidableEq

/-- `aurae_proto::runtime::CpusetController`. -/
structure CpusetController where
  cpus : Option String
  mems : Option String
  deriving DecidableEq

/-- `aurae_proto::runtime::Cell`: the cell an Allocate asks for. -/
structure Cell where
  name : String
  cpu : Option CpuController
  cpuset : Option CpusetController
  isolateProcess : Bool
  isolateNetwork : Bool
  deriving DecidableEq

/-- `aurae_proto::runtime::Executable`. -/
structure Executable where
  name : String
  command : String
  description : String
  deriving DecidableEq

/-- `CellServiceAllocateRequest`. -/
structure CellServiceAllocateRequest where
  cell : Option Cell
  deriving DecidableEq

/-- `CellServiceFreeRequest`. -/
structure CellServiceFreeRequest where
  cellName : String
  deriving DecidableEq

/-- `CellServiceStartRequest`. -/
structure CellServiceStartRequest where
  cellName : String
  executable : Option Executable
  deriving DecidableEq

/-- `CellServiceStopRequest`. -/
structure CellServiceStopRequest where
  cellName : String
  executableName : String
  deriving DecidableEq

end Proto

/-! ## The `validation` crate -/

/-- Modelled from the spec: `validation::required(value, field_name, parent_name)`. -/
def required {α : Type} (value : Option α) (field : String) (parent : FieldPath) :
    Except ValidationError α :=
  match value with
  | some a => .ok a
  | none => .error (.required (fieldName field parent))

/-- Modelled from the spec: `validation::required_not_empty(Some(value), field_name,
parent_name)`. -/
def requiredNotEmpty (value field : String) (parent : FieldPath) : Except ValidationError String :=
  if value.isEmpty then .error (.required (fieldName field parent)) else .ok value

/-- `#[validate(opt)]`: an absent value passes, a present one is validated. -/
def validateOpt {α β : Type} (validate : α → String → FieldPath → Except ValidationError β)
    (value : Option α) (field : String) (parent : FieldPath) : Except ValidationError (Option β) :=
  match value with
  | none => .ok none
  | some a => some <$> validate a field parent

/-- `let Some(x) = x else { return Ok(None) }; Ok(Some(X::validate(x, Some(field))?))`: a
nested message, validated under its own field. -/
def validateNested {α β : Type} (validate : α → FieldPath → Except ValidationError β)
    (value : Option α) (field : String) (parent : FieldPath) : Except ValidationError (Option β) :=
  match value with
  | none => .ok none
  | some a => some <$> validate a (fieldName field parent)

/-- Modelled from the spec: a cgroup `cpu.weight`, within `[1, 10000]`. -/
structure Weight where
  val : Nat
  one_le : 1 ≤ val
  le_max : val ≤ 10000

/-- Modelled from the spec: `Weight::validate`. -/
def Weight.validate (w : Nat) (field : String) (parent : FieldPath) :
    Except ValidationError Weight :=
  if h : 1 ≤ w ∧ w ≤ 10000 then .ok ⟨w, h.1, h.2⟩ else .error (.invalid (fieldName field parent))

/-- `Cpus::validate` and `Mems::validate`: a cpuset mask, by the syntax `mask`. -/
def validateMask (mask : String → Bool) (s field : String) (parent : FieldPath) :
    Except ValidationError String :=
  if mask s then .ok s else .error (.invalid (fieldName field parent))

/-- Modelled from the spec: an executable's name, never empty. -/
structure ExecutableName where
  name : String
  nonempty : name.isEmpty = false
  deriving DecidableEq

/-- Modelled from the spec: `ExecutableName::validate`, a non-empty name. -/
def ExecutableName.validate (name field : String) (parent : FieldPath) :
    Except ValidationError ExecutableName :=
  if h : name.isEmpty = true then .error (.required (fieldName field parent))
  else .ok ⟨name, by simpa using h⟩

/-- Modelled from the spec: `ExecutableName::validate_for_creation` (`#[validate(create)]`)
asks what `validate` asks. -/
def ExecutableName.validateForCreation (name field : String) (parent : FieldPath) :
    Except ValidationError ExecutableName :=
  ExecutableName.validate name field parent

/-! ## Validated requests (`validation.rs`) -/

/-- `ValidatedCpuController`. `Limit` is any `i64`. -/
structure ValidatedCpuController where
  weight : Option Weight
  max : Option Int

/-- `ValidatedCpuController::validate`. -/
def ValidatedCpuController.validate (cpu : Proto.CpuController) (parent : FieldPath) :
    Except ValidationError ValidatedCpuController := do
  let weight ← validateOpt Weight.validate cpu.weight "weight" parent
  pure ⟨weight, cpu.max⟩

/-- `ValidatedCpusetController`. -/
structure ValidatedCpusetController where
  cpus : Option String
  mems : Option String

/-- `ValidatedCpusetController::validate`. -/
def ValidatedCpusetController.validate (mask : String → Bool) (cpuset : Proto.CpusetController)
    (parent : FieldPath) : Except ValidationError ValidatedCpusetController := do
  let cpus ← validateOpt (validateMask mask) cpuset.cpus "cpus" parent
  let mems ← validateOpt (validateMask mask) cpuset.mems "mems" parent
  pure ⟨cpus, mems⟩

/-- `ValidatedCell`. -/
structure ValidatedCell where
  name : CellNamePath
  cpu : Option ValidatedCpuController
  cpuset : Option ValidatedCpusetController
  isolateProcess : Bool
  isolateNetwork : Bool

/-- `CellNamePath::validate`, with `Empty` refused as missing: `validate_name` of a cell and
`validate_cell_name` of a Free have this one body. -/
def validateNonEmptyPath (name field : String) (parent : FieldPath) :
    Except ValidationError CellNamePath := do
  let p ← CellNamePath.validate name field parent
  match p with
  | [] => throw (.required (fieldName field parent))
  | _ :: _ => pure p

/-- `CellValidator::validate_name`. -/
def CellValidator.validateName (name field : String) (parent : FieldPath) :
    Except ValidationError CellNamePath :=
  validateNonEmptyPath name field parent

/-- `CellValidator::validate_cpu`. -/
def CellValidator.validateCpu (cpu : Option Proto.CpuController) (field : String)
    (parent : FieldPath) : Except ValidationError (Option ValidatedCpuController) :=
  validateNested ValidatedCpuController.validate cpu field parent

/-- `CellValidator::validate_cpuset`. -/
def CellValidator.validateCpuset (mask : String → Bool) (cpuset : Option Proto.CpusetController)
    (field : String) (parent : FieldPath) :
    Except ValidationError (Option ValidatedCpusetController) :=
  validateNested (ValidatedCpusetController.validate mask) cpuset field parent

/-- `ValidatedCell::validate`: `isolate_process` and `isolate_network` are not checked. -/
def ValidatedCell.validate (mask : String → Bool) (cell : Proto.Cell) (parent : FieldPath) :
    Except ValidationError ValidatedCell := do
  let name ← CellValidator.validateName cell.name "name" parent
  let cpu ← CellValidator.validateCpu cell.cpu "cpu" parent
  let cpuset ← CellValidator.validateCpuset mask cell.cpuset "cpuset" parent
  pure ⟨name, cpu, cpuset, cell.isolateProcess, cell.isolateNetwork⟩

/-- `impl From<ValidatedCell> for CellSpec`. -/
def ValidatedCell.toCellSpec (x : ValidatedCell) : CellSpec :=
  ⟨⟨x.cpu.map fun c => ⟨c.weight.map Weight.val, c.max⟩, x.cpuset.map fun c => ⟨c.cpus, c.mems⟩⟩,
    ⟨x.isolateProcess, x.isolateNetwork⟩⟩

/-- `ValidatedCellServiceAllocateRequest`. -/
structure ValidatedCellServiceAllocateRequest where
  cell : ValidatedCell

/-- `CellServiceAllocateRequestValidator::validate_cell`. -/
def CellServiceAllocateRequestValidator.validateCell (mask : String → Bool)
    (cell : Option Proto.Cell) (field : String) (parent : FieldPath) :
    Except ValidationError ValidatedCell := do
  let cell ← required cell field parent
  ValidatedCell.validate mask cell (fieldName field parent)

/-- `ValidatedCellServiceAllocateRequest::validate(request, None)`. -/
def ValidatedCellServiceAllocateRequest.validate (mask : String → Bool)
    (request : Proto.CellServiceAllocateRequest) :
    Except ValidationError ValidatedCellServiceAllocateRequest := do
  let cell ← CellServiceAllocateRequestValidator.validateCell mask request.cell "cell" []
  pure ⟨cell⟩

/-- `ValidatedCellServiceFreeRequest`. -/
structure ValidatedCellServiceFreeRequest where
  cellName : CellNamePath

/-- `CellServiceFreeRequestValidator::validate_cell_name`. -/
def CellServiceFreeRequestValidator.validateCellName (cellName field : String)
    (parent : FieldPath) : Except ValidationError CellNamePath :=
  validateNonEmptyPath cellName field parent

/-- `ValidatedCellServiceFreeRequest::validate(request, None)`. -/
def ValidatedCellServiceFreeRequest.validate (request : Proto.CellServiceFreeRequest) :
    Except ValidationError ValidatedCellServiceFreeRequest := do
  let cellName ← CellServiceFreeRequestValidator.validateCellName request.cellName "cell_name" []
  pure ⟨cellName⟩

/-- `ValidatedExecutable`: the description is not checked. -/
structure ValidatedExecutable where
  name : ExecutableName
  command : String
  description : String

/-- `ExecutableValidator::validate_command`. -/
def ExecutableValidator.validateCommand (command field : String) (parent : FieldPath) :
    Except ValidationError String :=
  requiredNotEmpty command field parent

/-- `ValidatedExecutable::validate`. -/
def ValidatedExecutable.validate (executable : Proto.Executable) (parent : FieldPath) :
    Except ValidationError ValidatedExecutable := do
  let name ← ExecutableName.validateForCreation executable.name "name" parent
  let command ← ExecutableValidator.validateCommand executable.command "command" parent
  pure ⟨name, command, executable.description⟩

/-- `ValidatedCellServiceStartRequest`. -/
structure ValidatedCellServiceStartRequest where
  cellName : CellNamePath
  executable : ValidatedExecutable

/-- `CellServiceStartRequestValidator::validate_executable`. -/
def CellServiceStartRequestValidator.validateExecutable (executable : Option Proto.Executable)
    (field : String) (parent : FieldPath) : Except ValidationError ValidatedExecutable := do
  let executable ← required executable field parent
  ValidatedExecutable.validate executable (fieldName field parent)

/-- `ValidatedCellServiceStartRequest::validate(request, None)`. -/
def ValidatedCellServiceStartRequest.validate (request : Proto.CellServiceStartRequest) :
    Except ValidationError ValidatedCellServiceStartRequest := do
  let cellName ← CellNamePath.validate request.cellName "cell_name" []
  let executable ←
    CellServiceStartRequestValidator.validateExecutable request.executable "executable" []
  pure ⟨cellName, executable⟩

/-- `ValidatedCellServiceStopRequest`. -/
structure ValidatedCellServiceStopRequest where
  cellName : CellNamePath
  executableName : ExecutableName

/-- `ValidatedCellServiceStopRequest::validate(request, None)`. -/
def ValidatedCellServiceStopRequest.validate (request : Proto.CellServiceStopRequest) :
    Except ValidationError ValidatedCellServiceStopRequest := do
  let cellName ← CellNamePath.validate request.cellName "cell_name" []
  let executableName ← ExecutableName.validate request.executableName "executable_name" []
  pure ⟨cellName, executableName⟩

/-! ## What validation establishes -/

section Lemmas

variable {mask : String → Bool}

theorem except_bind_eq_ok {ε α β : Type} {x : Except ε α} {f : α → Except ε β} {b : β} :
    x >>= f = .ok b ↔ ∃ a, x = .ok a ∧ f a = .ok b := by
  cases x <;> simp [bind, Except.bind]

@[simp] theorem except_ok_bind {ε α β : Type} (a : α) (f : α → Except ε β) :
    (Except.ok a : Except ε α) >>= f = f a := rfl

theorem except_pure_eq_ok {ε α : Type} {a b : α} : (pure a : Except ε α) = .ok b ↔ a = b := by
  simp [pure, Except.pure]

theorem validateNonEmptyPath_ok {s field : String} {parent : FieldPath} {p : CellNamePath}
    (h : validateNonEmptyPath s field parent = .ok p) :
    CellNamePath.validate s field parent = .ok p ∧ p ≠ [] := by
  obtain ⟨p', hp', h⟩ := except_bind_eq_ok.mp h
  cases p' with
  | nil => cases h
  | cons n rest => cases h; exact ⟨hp', List.cons_ne_nil _ _⟩

theorem validateNonEmptyPath_intoString {q : CellNamePath} (hq : q ≠ []) (field : String)
    (parent : FieldPath) : validateNonEmptyPath q.intoString field parent = .ok q := by
  obtain ⟨n, rest, rfl⟩ := List.exists_cons_of_ne_nil hq
  simp only [validateNonEmptyPath, CellNamePath.validate_intoString]
  rfl

/-- A valid cell stays valid, with everything but its name unchanged, when its name is
replaced by any non-empty path. -/
theorem ValidatedCell.validate_ok {cell : Proto.Cell} {parent : FieldPath} {x : ValidatedCell}
    (h : ValidatedCell.validate mask cell parent = .ok x) :
    validateNonEmptyPath cell.name "name" parent = .ok x.name ∧
      ∀ q : CellNamePath, q ≠ [] →
        ValidatedCell.validate mask { cell with name := q.intoString } parent =
          .ok { x with name := q } := by
  simp only [ValidatedCell.validate, CellValidator.validateName, except_bind_eq_ok,
    except_pure_eq_ok] at h
  obtain ⟨name, hname, cpu, hcpu, cpuset, hcpuset, rfl⟩ := h
  refine ⟨hname, fun q hq => ?_⟩
  simp only [ValidatedCell.validate, CellValidator.validateName,
    validateNonEmptyPath_intoString hq, hcpu, hcpuset]
  rfl

theorem ValidatedCellServiceAllocateRequest.validate_ok
    {r : Proto.CellServiceAllocateRequest} {v : ValidatedCellServiceAllocateRequest}
    (h : ValidatedCellServiceAllocateRequest.validate mask r = .ok v) :
    ∃ cell, r.cell = some cell ∧ ValidatedCell.validate mask cell (fieldName "cell" []) = .ok v.cell := by
  simp only [ValidatedCellServiceAllocateRequest.validate,
    CellServiceAllocateRequestValidator.validateCell, except_bind_eq_ok, except_pure_eq_ok] at h
  obtain ⟨x, ⟨cell, hcell, hx⟩, rfl⟩ := h
  cases hr : r.cell with
  | none => rw [hr] at hcell; cases hcell
  | some c => rw [hr] at hcell; cases hcell; exact ⟨cell, rfl, hx⟩

theorem ValidatedCellServiceFreeRequest.validate_iff {r : Proto.CellServiceFreeRequest}
    {v : ValidatedCellServiceFreeRequest} :
    ValidatedCellServiceFreeRequest.validate r = .ok v ↔
      validateNonEmptyPath r.cellName "cell_name" [] = .ok v.cellName := by
  simp only [ValidatedCellServiceFreeRequest.validate,
    CellServiceFreeRequestValidator.validateCellName, except_bind_eq_ok, except_pure_eq_ok]
  exact ⟨fun ⟨p, hp, hv⟩ => hv ▸ hp, fun h => ⟨_, h, rfl⟩⟩

theorem ValidatedCellServiceStartRequest.validate_ok {r : Proto.CellServiceStartRequest}
    {v : ValidatedCellServiceStartRequest}
    (h : ValidatedCellServiceStartRequest.validate r = .ok v) :
    CellNamePath.validate r.cellName "cell_name" [] = .ok v.cellName ∧
      ∀ q : CellNamePath, ValidatedCellServiceStartRequest.validate { r with cellName := q.intoString } =
        .ok { v with cellName := q } := by
  simp only [ValidatedCellServiceStartRequest.validate, except_bind_eq_ok, except_pure_eq_ok] at h
  obtain ⟨p, hp, x, hx, rfl⟩ := h
  refine ⟨hp, fun q => ?_⟩
  simp only [ValidatedCellServiceStartRequest.validate, CellNamePath.validate_intoString, hx]
  rfl

theorem ValidatedCellServiceStopRequest.validate_ok {r : Proto.CellServiceStopRequest}
    {v : ValidatedCellServiceStopRequest}
    (h : ValidatedCellServiceStopRequest.validate r = .ok v) :
    CellNamePath.validate r.cellName "cell_name" [] = .ok v.cellName ∧
      ∀ q : CellNamePath, ValidatedCellServiceStopRequest.validate { r with cellName := q.intoString } =
        .ok { v with cellName := q } := by
  simp only [ValidatedCellServiceStopRequest.validate, except_bind_eq_ok, except_pure_eq_ok] at h
  obtain ⟨p, hp, x, hx, rfl⟩ := h
  refine ⟨hp, fun q => ?_⟩
  simp only [ValidatedCellServiceStopRequest.validate, CellNamePath.validate_intoString, hx]
  rfl

end Lemmas

/-! ## Every error names the field it checks -/

section Fields

variable {mask : String → Bool}

/-- A field check whose failure names the field it was given, under its parent. -/
def NamesField {α β : Type} (check : α → String → FieldPath → Except ValidationError β) : Prop :=
  ∀ a field parent e, check a field parent = .error e → e.field = fieldName field parent

theorem except_bind_eq_error {ε α β : Type} {x : Except ε α} {f : α → Except ε β} {e : ε} :
    x >>= f = .error e ↔ x = .error e ∨ ∃ a, x = .ok a ∧ f a = .error e := by
  cases x <;> simp [bind, Except.bind]

theorem except_map_eq_error {ε α β : Type} {x : Except ε α} {f : α → β} {e : ε} :
    f <$> x = .error e ↔ x = .error e := by
  cases x <;> simp [Functor.map, Except.map]

theorem required_namesField {α : Type} : NamesField (α := Option α) required := by
  rintro (_ | a) field parent e h <;> cases h
  rfl

theorem requiredNotEmpty_namesField : NamesField requiredNotEmpty := by
  intro a field parent e h
  unfold requiredNotEmpty at h
  split_ifs at h
  cases h
  rfl

theorem Weight.validate_namesField : NamesField Weight.validate := by
  intro a field parent e h
  unfold Weight.validate at h
  split_ifs at h
  cases h
  rfl

theorem validateMask_namesField : NamesField (validateMask mask) := by
  intro a field parent e h
  unfold validateMask at h
  split_ifs at h
  cases h
  rfl

theorem ExecutableName.validate_namesField : NamesField ExecutableName.validate := by
  intro a field parent e h
  unfold ExecutableName.validate at h
  split_ifs at h
  cases h
  rfl

theorem CellNamePath.validate_namesField : NamesField CellNamePath.validate := by
  intro a field parent e h
  unfold CellNamePath.validate at h
  split_ifs at h
  split at h <;> cases h
  rfl

theorem validateNonEmptyPath_namesField : NamesField validateNonEmptyPath := by
  intro a field parent e h
  rcases except_bind_eq_error.mp h with h | ⟨_ | _, -, h⟩
  · exact CellNamePath.validate_namesField _ _ _ _ h
  · cases h
    rfl
  · cases h

theorem validateOpt_namesField {α β : Type} {check : α → String → FieldPath → Except ValidationError β}
    (h : NamesField check) : NamesField (validateOpt check) := by
  rintro (_ | a) field parent e he
  · cases he
  · exact h a field parent e (except_map_eq_error.mp he)

theorem validateNested_error {α β : Type} {check : α → FieldPath → Except ValidationError β}
    {a : Option α} {field : String} {parent : FieldPath} {e : ValidationError}
    (h : validateNested check a field parent = .error e) :
    ∃ x, a = some x ∧ check x (fieldName field parent) = .error e := by
  rcases a with _ | x
  · cases h
  · exact ⟨x, rfl, except_map_eq_error.mp h⟩

theorem ValidatedCpuController.validate_error {cpu : Proto.CpuController} {parent : FieldPath}
    {e : ValidationError} (h : ValidatedCpuController.validate cpu parent = .error e) :
    e.field = parent ++ ["weight"] := by
  rcases except_bind_eq_error.mp h with h | ⟨_, -, h⟩
  · exact validateOpt_namesField Weight.validate_namesField _ _ _ _ h
  · cases h

theorem ValidatedCpusetController.validate_error {cpuset : Proto.CpusetController}
    {parent : FieldPath} {e : ValidationError}
    (h : ValidatedCpusetController.validate mask cpuset parent = .error e) :
    e.field = parent ++ ["cpus"] ∨ e.field = parent ++ ["mems"] := by
  rcases except_bind_eq_error.mp h with h | ⟨_, -, h⟩
  · exact .inl (validateOpt_namesField validateMask_namesField _ _ _ _ h)
  rcases except_bind_eq_error.mp h with h | ⟨_, -, h⟩
  · exact .inr (validateOpt_namesField validateMask_namesField _ _ _ _ h)
  · cases h

/-- A cell's validation fails on its name, its cpu weight, or its cpuset masks. -/
theorem ValidatedCell.validate_error {cell : Proto.Cell} {parent : FieldPath}
    {e : ValidationError} (h : ValidatedCell.validate mask cell parent = .error e) :
    e.field ∈ [parent ++ ["name"], parent ++ ["cpu", "weight"], parent ++ ["cpuset", "cpus"],
      parent ++ ["cpuset", "mems"]] := by
  rcases except_bind_eq_error.mp h with h | ⟨_, -, h⟩
  · simp [validateNonEmptyPath_namesField _ _ _ _ h, fieldName]
  rcases except_bind_eq_error.mp h with h | ⟨_, -, h⟩
  · obtain ⟨cpu, -, h⟩ := validateNested_error h
    simp [ValidatedCpuController.validate_error h, fieldName]
  rcases except_bind_eq_error.mp h with h | ⟨_, -, h⟩
  · obtain ⟨cpuset, -, h⟩ := validateNested_error h
    rcases ValidatedCpusetController.validate_error h with h | h <;> simp [h, fieldName]
  · cases h

theorem ValidatedExecutable.validate_error {executable : Proto.Executable} {parent : FieldPath}
    {e : ValidationError} (h : ValidatedExecutable.validate executable parent = .error e) :
    e.field = parent ++ ["name"] ∨ e.field = parent ++ ["command"] := by
  rcases except_bind_eq_error.mp h with h | ⟨_, -, h⟩
  · exact .inl (ExecutableName.validate_namesField _ _ _ _ h)
  rcases except_bind_eq_error.mp h with h | ⟨_, -, h⟩
  · exact .inr (requiredNotEmpty_namesField _ _ _ _ h)
  · cases h

/-- **Every error names a field of its request.** An Allocate is refused on its `cell`, or
on the cell's name, cpu weight or cpuset masks. -/
theorem ValidatedCellServiceAllocateRequest.validate_error {r : Proto.CellServiceAllocateRequest}
    {e : ValidationError} (h : ValidatedCellServiceAllocateRequest.validate mask r = .error e) :
    e.field ∈ [["cell"], ["cell", "name"], ["cell", "cpu", "weight"], ["cell", "cpuset", "cpus"],
      ["cell", "cpuset", "mems"]] := by
  rcases except_bind_eq_error.mp h with h | ⟨_, -, h⟩
  · rcases except_bind_eq_error.mp h with h | ⟨cell, -, h⟩
    · simp [required_namesField _ _ _ _ h, fieldName]
    · exact List.mem_cons_of_mem _ (ValidatedCell.validate_error h)
  · cases h

/-- A Free is refused on its `cell_name`. -/
theorem ValidatedCellServiceFreeRequest.validate_error {r : Proto.CellServiceFreeRequest}
    {e : ValidationError} (h : ValidatedCellServiceFreeRequest.validate r = .error e) :
    e.field = ["cell_name"] := by
  rcases except_bind_eq_error.mp h with h | ⟨_, -, h⟩
  · exact validateNonEmptyPath_namesField _ _ _ _ h
  · cases h

/-- A Start is refused on its `cell_name`, its `executable`, or the executable's name or
command. -/
theorem ValidatedCellServiceStartRequest.validate_error {r : Proto.CellServiceStartRequest}
    {e : ValidationError} (h : ValidatedCellServiceStartRequest.validate r = .error e) :
    e.field ∈ [["cell_name"], ["executable"], ["executable", "name"],
      ["executable", "command"]] := by
  rcases except_bind_eq_error.mp h with h | ⟨_, -, h⟩
  · simp [CellNamePath.validate_namesField _ _ _ _ h, fieldName]
  rcases except_bind_eq_error.mp h with h | ⟨_, -, h⟩
  · rcases except_bind_eq_error.mp h with h | ⟨executable, -, h⟩
    · simp [required_namesField _ _ _ _ h, fieldName]
    · rcases ValidatedExecutable.validate_error h with h | h <;> simp [h, fieldName]
  · cases h

/-- A Stop is refused on its `cell_name` or its `executable_name`. -/
theorem ValidatedCellServiceStopRequest.validate_error {r : Proto.CellServiceStopRequest}
    {e : ValidationError} (h : ValidatedCellServiceStopRequest.validate r = .error e) :
    e.field = ["cell_name"] ∨ e.field = ["executable_name"] := by
  rcases except_bind_eq_error.mp h with h | ⟨_, -, h⟩
  · exact .inl (CellNamePath.validate_namesField _ _ _ _ h)
  rcases except_bind_eq_error.mp h with h | ⟨_, -, h⟩
  · exact .inr (ExecutableName.validate_namesField _ _ _ _ h)
  · cases h

end Fields

end Aurae
