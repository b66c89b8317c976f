import GridServe.Slice
import GridServe.Proofs.BoxRead

namespace GridServe

theorem nonzeroProduct_single_gt_iff (n : Nat) :
    maxIndex < nonzeroProduct [n] ↔ maxIndex < n := by
  by_cases empty : n = 0
  · subst empty
    simp [nonzeroProduct, shapeSize, maxIndex]
  · simp [nonzeroProduct, shapeSize, empty]

theorem boxIndices_single (n : Nat) : boxIndices [n] = (List.range n).map fun i => [i] := by
  rw [List.map_eq_flatMap]
  rfl

theorem map_getElem?_range (values : Array Float) :
    (List.range values.size).map (fun i => values[i]?) = values.toList.map some := by
  apply List.ext_getElem
  · simp
  · intro i inRange _
    simp only [List.length_map, List.length_range] at inRange
    simp [inRange]

/-- A whole axis is read when its variable exists with rank one and a length that fits. -/
inductive AxisAnswer (d : Dataset) (name : String) : Except DatasetError (List Float) → Prop
  | missing (none : d.findVariable name = none) :
      AxisAnswer d name (.error (.variableNotFound name))
  | rank {v : Variable} {shape : List Nat} (found : d.findVariable name = some v)
      (resolved : d.shapeOf v = .ok shape) (rank : shape.length ≠ 1) :
      AxisAnswer d name (.error (.rankMismatch name 1 shape.length))
  | tooLong {v : Variable} {n : Nat} (found : d.findVariable name = some v)
      (resolved : d.shapeOf v = .ok [n]) (long : maxIndex < n) :
      AxisAnswer d name (.error .shapeOverflow)
  | whole {v : Variable} {n : Nat} (found : d.findVariable name = some v)
      (resolved : d.shapeOf v = .ok [n]) (short : n ≤ maxIndex) :
      AxisAnswer d name (.ok v.values.toList)

/-- Extraction reads the x axis, the y axis, then the field box `[time, z, 0, 0]` of extent
`[1, 1, |y|, |x|]`, and fails with the first failing read's error. -/
inductive SliceAnswer (d : Dataset) (vars : SliceVariables) (req : SliceRequest) :
    Except ServerError Slice → Prop
  | xAxis {e : DatasetError} (x : AxisAnswer d vars.x (.error e)) :
      SliceAnswer d vars req (.error (.extractionFailure e))
  | yAxis {xs : List Float} {e : DatasetError} (x : AxisAnswer d vars.x (.ok xs))
      (y : AxisAnswer d vars.y (.error e)) :
      SliceAnswer d vars req (.error (.extractionFailure e))
  | field {xs ys : List Float} {e : DatasetError} (x : AxisAnswer d vars.x (.ok xs))
      (y : AxisAnswer d vars.y (.ok ys))
      (field : ReadAnswer d vars.field [req.time, req.z, 0, 0] [1, 1, ys.length, xs.length]
        (.error e)) :
      SliceAnswer d vars req (.error (.extractionFailure e))
  | extracted {xs ys vals : List Float} (x : AxisAnswer d vars.x (.ok xs))
      (y : AxisAnswer d vars.y (.ok ys))
      (field : ReadAnswer d vars.field [req.time, req.z, 0, 0] [1, 1, ys.length, xs.length]
        (.ok vals)) :
      SliceAnswer d vars req (.ok ⟨xs, ys, ⟨ys.length, xs.length, vals.toArray⟩⟩)

namespace AxisAnswer

variable {d : Dataset} {name : String} {answer : Except DatasetError (List Float)}

theorem readAxis_eq (valid : d.Valid) (h : AxisAnswer d name answer) :
    Slice.readAxis d name = answer := by
  cases h with
  | missing none => simp [Slice.readAxis, Dataset.shape, none]
  | rank found resolved rank => simp [Slice.readAxis, Dataset.shape, found, resolved, rank]
  | @tooLong v n found resolved long =>
    simp only [Slice.readAxis, Dataset.shape, found, resolved, List.length_singleton,
      ne_eq, not_true_eq_false, if_false]
    have large : maxIndex < nonzeroProduct [n] := (nonzeroProduct_single_gt_iff n).mpr long
    have answer : ReadAnswer d name [0] [n] (.error .shapeOverflow) :=
      .tooLarge found resolved rfl rfl (by simp) large
    exact answer.read_eq
  | @whole v n found resolved short =>
    simp only [Slice.readAxis, Dataset.shape, found, resolved, List.length_singleton,
      ne_eq, not_true_eq_false, if_false]
    have length : v.values.size = n := by
      simpa [shapeSize] using valid.size_of_shapeOf found resolved
    have small : nonzeroProduct [n] ≤ maxIndex :=
      Nat.not_lt.mp fun large => Nat.not_lt.mpr short ((nonzeroProduct_single_gt_iff n).mp large)
    have gathered : v.values.toList.map some =
        (boxIndices [n]).map fun index => v.values[flatIndex [n] (shift [0] index)]? := by
      rw [boxIndices_single, List.map_map, ← length, ← map_getElem?_range]
      simp [Function.comp_def, shift, flatIndex, shapeSize]
    have answer : ReadAnswer d name [0] [n] (.ok v.values.toList) :=
      .cells found resolved rfl rfl (by simp) small (by simp [shapeSize, length]) gathered
    exact answer.read_eq

theorem self (valid : d.Valid) (h : AxisAnswer d name answer) :
    AxisAnswer d name (Slice.readAxis d name) :=
  h.readAxis_eq valid ▸ h

end AxisAnswer

namespace Grid

theorem length_toRows (g : Grid) : g.toRows.length = g.rows := by
  simp [toRows]

theorem length_of_mem_toRows {g : Grid} {row : List Float} (member : row ∈ g.toRows) :
    row.length = g.cols := by
  simp only [toRows, List.mem_map, List.mem_range] at member
  obtain ⟨i, -, rfl⟩ := member
  simp [Grid.row]

theorem toRows_cell (g : Grid) {i j : Nat} (below : i < g.rows) (within : j < g.cols) :
    (g.toRows[i]?).bind (·[j]?) = some (g.get i j) := by
  simp [toRows, Grid.row, below, within]

end Grid

variable {d : Dataset} {vars : SliceVariables} {req : SliceRequest}

theorem field_grid {name : String} {ny nx : Nat} {vals : List Float}
    (field : ReadAnswer d name [req.time, req.z, 0, 0] [1, 1, ny, nx] (.ok vals)) :
    vals.length = ny * nx ∧
      ∃ fv shape, d.findVariable name = some fv ∧ d.shapeOf fv = .ok shape ∧
        ∀ i < ny, ∀ j < nx, some ((Grid.mk ny nx vals.toArray).get i j) =
          fv.values[flatIndex shape [req.time, req.z, i, j]]? := by
  have count : vals.length = ny * nx := by simpa [shapeSize] using field.length
  obtain ⟨fv, shape, found, resolved, cells⟩ := field.cell
  refine ⟨count, fv, shape, found, resolved, fun i row j col => ?_⟩
  have position := cells [0, 0, i, j] (by simp [row, col])
  simp only [flatIndex, shapeSize, shift, List.zipWith_cons_cons, List.zipWith_nil_left,
    List.foldr_cons, List.foldr_nil, Nat.add_zero, Nat.zero_add, Nat.zero_mul, Nat.mul_one]
    at position
  have inRange : i * nx + j < vals.length := by
    rw [count]
    calc i * nx + j < i * nx + nx := by omega
      _ = (i + 1) * nx := by rw [Nat.succ_mul]
      _ ≤ ny * nx := Nat.mul_le_mul_right _ row
  rw [← position]
  simp [Grid.get, inRange]

/-- A slice's grid has a row of `|x|` values per y value, cell `(i, j)` being the stored
field value at `(time, z, i, j)`. -/
structure SliceCells (d : Dataset) (vars : SliceVariables) (req : SliceRequest) (slice : Slice) :
    Prop where
  rows : slice.field.rows = slice.y.length
  cols : slice.field.cols = slice.x.length
  filled : slice.field.values.size = slice.y.length * slice.x.length
  stored : ∃ fv shape, d.findVariable vars.field = some fv ∧ d.shapeOf fv = .ok shape ∧
    ∀ i < slice.y.length, ∀ j < slice.x.length,
      some (slice.field.get i j) = fv.values[flatIndex shape [req.time, req.z, i, j]]?
  rowCount : slice.field.toRows.length = slice.y.length
  rowLength : ∀ row ∈ slice.field.toRows, row.length = slice.x.length
  rowCells : ∀ i < slice.y.length, ∀ j < slice.x.length,
    (slice.field.toRows[i]?).bind (·[j]?) = some (slice.field.get i j)

namespace SliceAnswer

variable {answer : Except ServerError Slice}

theorem extract_eq (valid : d.Valid) (h : SliceAnswer d vars req answer) :
    Slice.extract d vars req = answer := by
  cases h with
  | xAxis x => simp [Slice.extract, Slice.read, x.readAxis_eq valid]
  | yAxis x y => simp [Slice.extract, Slice.read, x.readAxis_eq valid, y.readAxis_eq valid]
  | field x y field =>
    simp [Slice.extract, Slice.read, x.readAxis_eq valid, y.readAxis_eq valid, field.read_eq]
  | extracted x y field =>
    simp [Slice.extract, Slice.read, x.readAxis_eq valid, y.readAxis_eq valid, field.read_eq]

theorem self (valid : d.Valid) (h : SliceAnswer d vars req answer) :
    SliceAnswer d vars req (Slice.extract d vars req) :=
  h.extract_eq valid ▸ h

theorem cells {slice : Slice} (h : SliceAnswer d vars req (.ok slice)) :
    SliceCells d vars req slice := by
  cases h with
  | @extracted xs ys vals x y field =>
    obtain ⟨count, stored⟩ := field_grid field
    exact {
      rows := rfl
      cols := rfl
      filled := by simp [count]
      stored := stored
      rowCount := Grid.length_toRows _
      rowLength := fun _ member => Grid.length_of_mem_toRows member
      rowCells := fun _ below _ within => Grid.toRows_cell _ below within }

end SliceAnswer

namespace Dataset

theorem Valid.axisAnswer (valid : d.Valid) (name : String) :
    AxisAnswer d name (Slice.readAxis d name) := by
  cases found : d.findVariable name with
  | none => exact (AxisAnswer.missing found).self valid
  | some v =>
    obtain ⟨shape, resolved, -⟩ := valid v (mem_of_findVariable found)
    by_cases rank : shape.length = 1
    · obtain ⟨n, rfl⟩ := List.length_eq_one_iff.mp rank
      by_cases long : maxIndex < n
      · exact (AxisAnswer.tooLong found resolved long).self valid
      · exact (AxisAnswer.whole found resolved (Nat.not_lt.mp long)).self valid
    · exact (AxisAnswer.rank found resolved rank).self valid

theorem Valid.sliceAnswer (valid : d.Valid) (vars : SliceVariables) (req : SliceRequest) :
    SliceAnswer d vars req (Slice.extract d vars req) := by
  have x := valid.axisAnswer vars.x
  cases readX : Slice.readAxis d vars.x with
  | error e =>
    rw [readX] at x
    exact (SliceAnswer.xAxis x).self valid
  | ok xs =>
    rw [readX] at x
    have y := valid.axisAnswer vars.y
    cases readY : Slice.readAxis d vars.y with
    | error e =>
      rw [readY] at y
      exact (SliceAnswer.yAxis x y).self valid
    | ok ys =>
      rw [readY] at y
      -- the field box spans the axes just read
      have field := valid.readAnswer vars.field [req.time, req.z, 0, 0] [1, 1, ys.length, xs.length]
      cases readField : d.read vars.field [req.time, req.z, 0, 0] [1, 1, ys.length, xs.length] with
      | error e =>
        rw [readField] at field
        exact (SliceAnswer.field x y field).self valid
      | ok vals =>
        rw [readField] at field
        exact (SliceAnswer.extracted x y field).self valid

theorem extract_answers (valid : d.Valid) (vars : SliceVariables) (req : SliceRequest) :
    (∀ answer, Slice.extract d vars req = answer ↔ SliceAnswer d vars req answer) ∧
      ∀ slice, Slice.extract d vars req = .ok slice → SliceCells d vars req slice := by
  have answers : ∀ answer, Slice.extract d vars req = answer ↔ SliceAnswer d vars req answer :=
    fun answer => ⟨fun h => h ▸ valid.sliceAnswer vars req, fun h => h.extract_eq valid⟩
  exact ⟨answers, fun slice extracted => ((answers _).mp extracted).cells⟩

def shortAxis : Dataset :=
  ⟨[⟨"time", 2⟩, ⟨"z", 1⟩, ⟨"y", 2⟩, ⟨"x", 3⟩, ⟨"xc", 2⟩],
    [⟨"x", .double, ["xc"], [], #[0, 1]⟩, ⟨"y", .double, ["y"], [], #[0, 1]⟩,
      ⟨"concentration", .double, ["time", "z", "y", "x"], [],
        #[0, 1, 2, 3, 4, 5, 6, 7, 8, 9, 10, 11]⟩], []⟩

theorem extract_answers_short_axis :
    shortAxis.Valid ∧
      ((∀ answer, Slice.extract shortAxis ⟨"concentration", "x", "y"⟩ ⟨1, 0⟩ = answer ↔
          SliceAnswer shortAxis ⟨"concentration", "x", "y"⟩ ⟨1, 0⟩ answer) ∧
        ∀ slice, Slice.extract shortAxis ⟨"concentration", "x", "y"⟩ ⟨1, 0⟩ = .ok slice →
          SliceCells shortAxis ⟨"concentration", "x", "y"⟩ ⟨1, 0⟩ slice) :=
  ⟨valid_of_check rfl, extract_answers (valid_of_check rfl) _ _⟩

end Dataset

end GridServe
