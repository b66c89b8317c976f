import GridServe.Dataset.Read
import GridServe.Proofs.Consistency

namespace GridServe

def boxIndices : List Nat → List (List Nat)
  | [] => [[]]
  | count :: extent => (List.range count).flatMap fun i => (boxIndices extent).map (i :: ·)

def flatIndex : List Nat → List Nat → Nat
  | _ :: shape, i :: index => i * shapeSize shape + flatIndex shape index
  | _, _ => 0

def shift (origin index : List Nat) : List Nat := List.zipWith (· + ·) origin index

theorem flatIndex_eq_sum {shape index : List Nat} (rank : index.length = shape.length) :
    flatIndex shape index =
      ∑ k ∈ Finset.range index.length, index[k]! * shapeSize (shape.drop (k + 1)) := by
  induction shape generalizing index with
  | nil =>
    rw [List.length_eq_zero_iff.mp rank]
    simp [flatIndex]
  | cons size shape ih =>
    cases index with
    | nil => simp at rank
    | cons i index =>
      rw [List.length_cons, Finset.sum_range_succ', flatIndex, ih (by simpa using rank)]
      simp only [List.getElem!_cons_succ, List.getElem!_cons_zero, List.drop_succ_cons,
        List.drop_zero]
      omega

example : flatIndex [2, 3, 4] [1, 2, 3] = 1 * 12 + 2 * 4 + 3 := rfl

theorem length_boxIndices (extent : List Nat) :
    (boxIndices extent).length = shapeSize extent := by
  induction extent with
  | nil => rfl
  | cons count extent ih =>
    simp [boxIndices, List.length_flatMap, ih, List.map_const', shapeSize_eq_prod]

theorem mem_boxIndices {extent index : List Nat} :
    index ∈ boxIndices extent ↔ List.Forall₂ (· < ·) index extent := by
  induction extent generalizing index with
  | nil => simp [boxIndices]
  | cons count extent ih =>
    simp only [boxIndices, List.mem_flatMap, List.mem_range, List.mem_map, ih,
      List.forall₂_cons_right_iff]
    constructor
    · rintro ⟨i, below, rest, inside, rfl⟩
      exact ⟨i, rest, below, inside, rfl⟩
    · rintro ⟨i, rest, below, inside, rfl⟩
      exact ⟨i, below, rest, inside, rfl⟩

theorem flatIndex_lt {shape index : List Nat} (inside : List.Forall₂ (· < ·) index shape) :
    flatIndex shape index < shapeSize shape := by
  induction inside with
  | nil => simp [flatIndex, shapeSize]
  | @cons i size index shape below _ ih =>
    have stride : shapeSize (size :: shape) = size * shapeSize shape := rfl
    rw [flatIndex, stride]
    calc i * shapeSize shape + flatIndex shape index
        < i * shapeSize shape + shapeSize shape := by omega
      _ = (i + 1) * shapeSize shape := by rw [Nat.succ_mul]
      _ ≤ size * shapeSize shape := Nat.mul_le_mul_right _ below

theorem fits_cons {size start count : Nat} {shape origin extent : List Nat} :
    (∀ k < (size :: shape).length,
        (start :: origin)[k]! + (count :: extent)[k]! ≤ (size :: shape)[k]!) ↔
      start + count ≤ size ∧ ∀ k < shape.length, origin[k]! + extent[k]! ≤ shape[k]! := by
  simp only [List.length_cons, Nat.forall_lt_succ_left, List.getElem!_cons_zero,
    List.getElem!_cons_succ]

theorem boxFits_iff {shape origin extent : List Nat} (originRank : origin.length = shape.length)
    (extentRank : extent.length = shape.length) :
    boxFits shape origin extent = true ↔
      ∀ k < shape.length, origin[k]! + extent[k]! ≤ shape[k]! := by
  induction shape generalizing origin extent with
  | nil => simp [boxFits]
  | cons size shape ih =>
    cases origin with
    | nil => simp at originRank
    | cons start origin =>
      cases extent with
      | nil => simp at extentRank
      | cons count extent =>
        rw [fits_cons, ← ih (by simpa using originRank) (by simpa using extentRank)]
        simp [boxFits]

theorem shift_inside {shape origin extent index : List Nat}
    (originRank : origin.length = shape.length) (extentRank : extent.length = shape.length)
    (inside : ∀ k < shape.length, origin[k]! + extent[k]! ≤ shape[k]!)
    (cell : List.Forall₂ (· < ·) index extent) :
    List.Forall₂ (· < ·) (shift origin index) shape := by
  induction shape generalizing origin extent index with
  | nil =>
    rw [List.length_eq_zero_iff.mp extentRank] at cell
    rw [List.forall₂_nil_right_iff.mp cell]
    simp [shift]
  | cons size shape ih =>
    cases origin with
    | nil => simp at originRank
    | cons start origin =>
      cases extent with
      | nil => simp at extentRank
      | cons count extent =>
        cases cell with
        | cons below cell =>
          rw [fits_cons] at inside
          simp only [shift, List.zipWith_cons_cons, List.forall₂_cons]
          exact ⟨by omega, ih (by simpa using originRank) (by simpa using extentRank) inside.2 cell⟩

theorem boxOffsets_eq_map {shape origin extent : List Nat}
    (originRank : origin.length = shape.length) (extentRank : extent.length = shape.length) :
    boxOffsets shape origin extent =
      (boxIndices extent).map fun index => flatIndex shape (shift origin index) := by
  induction shape generalizing origin extent with
  | nil =>
    rw [List.length_eq_zero_iff.mp originRank, List.length_eq_zero_iff.mp extentRank]
    simp [boxOffsets, boxIndices, flatIndex]
  | cons size shape ih =>
    cases origin with
    | nil => simp at originRank
    | cons start origin =>
      cases extent with
      | nil => simp at extentRank
      | cons count extent =>
        rw [boxOffsets, ih (by simpa using originRank) (by simpa using extentRank)]
        simp [boxIndices, List.map_flatMap, Function.comp_def, shift, flatIndex]

theorem boxCells_eq_map {shape origin extent : List Nat}
    (originRank : origin.length = shape.length) (extentRank : extent.length = shape.length) :
    boxCells shape origin extent =
      (boxIndices extent).map fun index => flatIndex shape (shift origin index) := by
  unfold boxCells
  split
  · rename_i empty
    -- an empty axis leaves the box without cells
    have none : boxIndices extent = [] := by
      rw [← List.length_eq_zero_iff, length_boxIndices, shapeSize_eq_prod,
        List.prod_eq_zero_iff_exists_zero_nat]
      simpa using empty
    simp [none]
  · exact boxOffsets_eq_map originRank extentRank

theorem length_flatMap_range {α : Type} {count size : Nat} {f : Nat → List α}
    (uniform : ∀ i < count, (f i).length = size) :
    ((List.range count).flatMap f).length = count * size := by
  rw [List.length_flatMap, List.map_congr_left fun k member => uniform k
    (by rw [List.mem_range] at member; omega), List.map_const', List.length_range,
    List.sum_replicate_nat]

theorem getElem?_flatMap_range {α : Type} {count size : Nat} {f : Nat → List α}
    (uniform : ∀ i < count, (f i).length = size) {i r : Nat} (block : i < count)
    (within : r < size) :
    ((List.range count).flatMap f)[i * size + r]? = (f i)[r]? := by
  induction count with
  | zero => omega
  | succ count ih =>
    have earlier : ((List.range count).flatMap f).length = count * size :=
      length_flatMap_range fun k below => uniform k (by omega)
    rw [List.range_succ, List.flatMap_append, List.flatMap_singleton]
    by_cases before : i < count
    · have position : i * size + r < count * size := by
        calc i * size + r < i * size + size := by omega
          _ = (i + 1) * size := by rw [Nat.succ_mul]
          _ ≤ count * size := Nat.mul_le_mul_right _ before
      rw [List.getElem?_append_left (by rw [earlier]; exact position)]
      exact ih (fun k below => uniform k (by omega)) before
    · have last : i = count := by omega
      subst last
      rw [List.getElem?_append_right (by rw [earlier]; omega), earlier, Nat.add_sub_cancel_left]

theorem getElem?_boxIndices {extent index : List Nat}
    (cell : List.Forall₂ (· < ·) index extent) :
    (boxIndices extent)[flatIndex extent index]? = some index := by
  induction cell with
  | nil => rfl
  | @cons i count index extent below cell ih =>
    have within : flatIndex extent index < (boxIndices extent).length := by
      rw [length_boxIndices]
      exact flatIndex_lt cell
    rw [boxIndices, flatIndex, ← length_boxIndices,
      getElem?_flatMap_range (fun _ _ => List.length_map ..) below within]
    simp [ih]

variable {shape origin extent : List Nat}

theorem checkBounds_originRank {var : String} (rank : origin.length ≠ shape.length) :
    checkBounds var shape origin extent =
      .error (.rankMismatch var shape.length origin.length) := by
  simp [checkBounds, rank]

theorem checkBounds_extentRank {var : String} (originRank : origin.length = shape.length)
    (rank : extent.length ≠ shape.length) :
    checkBounds var shape origin extent =
      .error (.rankMismatch var shape.length extent.length) := by
  simp [checkBounds, originRank, rank]

theorem checkBounds_outside {var : String} (originRank : origin.length = shape.length)
    (extentRank : extent.length = shape.length)
    (outside : ¬ ∀ k < shape.length, origin[k]! + extent[k]! ≤ shape[k]!) :
    checkBounds var shape origin extent = .error (.outOfBounds var shape) := by
  have refused : boxFits shape origin extent = false := by
    rw [← Bool.not_eq_true, boxFits_iff originRank extentRank]
    exact outside
  simp [checkBounds, originRank, extentRank, refused]

theorem checkBounds_inside {var : String} (originRank : origin.length = shape.length)
    (extentRank : extent.length = shape.length)
    (inside : ∀ k < shape.length, origin[k]! + extent[k]! ≤ shape[k]!) :
    checkBounds var shape origin extent = .ok () := by
  simp [checkBounds, originRank, extentRank, (boxFits_iff originRank extentRank).mpr inside]

theorem stored_of_inside {values : Array Float} (count : values.size = shapeSize shape)
    (originRank : origin.length = shape.length) (extentRank : extent.length = shape.length)
    (inside : ∀ k < shape.length, origin[k]! + extent[k]! ≤ shape[k]!) :
    ∀ index ∈ boxIndices extent, flatIndex shape (shift origin index) < values.size := by
  intro index cell
  rw [count]
  exact flatIndex_lt (shift_inside originRank extentRank inside (mem_boxIndices.mp cell))

theorem stored_of_gathered {values : Array Float} {vals : List Float}
    (gathered : vals.map some =
      (boxIndices extent).map fun index => values[flatIndex shape (shift origin index)]?) :
    ∀ index ∈ boxIndices extent, flatIndex shape (shift origin index) < values.size := by
  intro index cell
  have member : values[flatIndex shape (shift origin index)]? ∈ vals.map some := by
    rw [gathered]
    exact List.mem_map_of_mem cell
  obtain ⟨value, -, found⟩ := List.mem_map.mp member
  exact (Array.getElem?_eq_some_iff.mp found.symm).1

theorem gather_eq {values : Array Float}
    (stored : ∀ index ∈ boxIndices extent, flatIndex shape (shift origin index) < values.size)
    (originRank : origin.length = shape.length) (extentRank : extent.length = shape.length) :
    ((boxCells shape origin extent).map fun k => values.getD k 0).map some =
      (boxIndices extent).map fun index => values[flatIndex shape (shift origin index)]? := by
  rw [boxCells_eq_map originRank extentRank, List.map_map, List.map_map]
  apply List.map_congr_left
  intro index cell
  simp [stored index cell]

/-- A read's answer is the error of its first failing check, or one stored value per cell of
the box in row-major order, taken at the cell's flat index in the variable. -/
inductive ReadAnswer (d : Dataset) (name : String) (origin extent : List Nat) :
    Except DatasetError (List Float) → Prop
  | missing (none : d.findVariable name = none) :
      ReadAnswer d name origin extent (.error (.variableNotFound name))
  | originRank {v : Variable} {shape : List Nat} (found : d.findVariable name = some v)
      (resolved : d.shapeOf v = .ok shape) (rank : origin.length ≠ shape.length) :
      ReadAnswer d name origin extent (.error (.rankMismatch name shape.length origin.length))
  | extentRank {v : Variable} {shape : List Nat} (found : d.findVariable name = some v)
      (resolved : d.shapeOf v = .ok shape) (originRank : origin.length = shape.length)
      (rank : extent.length ≠ shape.length) :
      ReadAnswer d name origin extent (.error (.rankMismatch name shape.length extent.length))
  | outside {v : Variable} {shape : List Nat} (found : d.findVariable name = some v)
      (resolved : d.shapeOf v = .ok shape) (originRank : origin.length = shape.length)
      (extentRank : extent.length = shape.length)
      (outside : ¬ ∀ k < shape.length, origin[k]! + extent[k]! ≤ shape[k]!) :
      ReadAnswer d name origin extent (.error (.outOfBounds name shape))
  | tooLarge {v : Variable} {shape : List Nat} (found : d.findVariable name = some v)
      (resolved : d.shapeOf v = .ok shape) (originRank : origin.length = shape.length)
      (extentRank : extent.length = shape.length)
      (inside : ∀ k < shape.length, origin[k]! + extent[k]! ≤ shape[k]!)
      (large : maxIndex < nonzeroProduct shape) :
      ReadAnswer d name origin extent (.error .shapeOverflow)
  | cells {v : Variable} {shape : List Nat} {vals : List Float}
      (found : d.findVariable name = some v) (resolved : d.shapeOf v = .ok shape)
      (originRank : origin.length = shape.length) (extentRank : extent.length = shape.length)
      (inside : ∀ k < shape.length, origin[k]! + extent[k]! ≤ shape[k]!)
      (small : nonzeroProduct shape ≤ maxIndex) (count : vals.length = shapeSize extent)
      (gathered : vals.map some =
        (boxIndices extent).map fun index => v.values[flatIndex shape (shift origin index)]?) :
      ReadAnswer d name origin extent (.ok vals)

namespace ReadAnswer

variable {d : Dataset} {name : String} {answer : Except DatasetError (List Float)}

theorem read_eq (h : ReadAnswer d name origin extent answer) :
    d.read name origin extent = answer := by
  cases h with
  | missing none => simp [Dataset.read, none]
  | originRank found resolved rank =>
    simp [Dataset.read, found, resolved, checkBounds_originRank rank]
  | extentRank found resolved originRank rank =>
    simp [Dataset.read, found, resolved, checkBounds_extentRank originRank rank]
  | outside found resolved originRank extentRank outside =>
    simp [Dataset.read, found, resolved, checkBounds_outside originRank extentRank outside]
  | tooLarge found resolved originRank extentRank inside large =>
    simp [Dataset.read, found, resolved, checkBounds_inside originRank extentRank inside, large]
  | cells found resolved originRank extentRank inside small count gathered =>
    simp only [Dataset.read, found, resolved, checkBounds_inside originRank extentRank inside,
      gt_iff_lt, Nat.not_lt.mpr small, if_false, Except.ok.injEq]
    apply List.map_injective_iff.mpr fun _ _ same => Option.some.inj same
    rw [gathered]
    exact gather_eq (stored_of_gathered gathered) originRank extentRank

theorem cell {vals : List Float} (h : ReadAnswer d name origin extent (.ok vals)) :
    ∃ v shape, d.findVariable name = some v ∧ d.shapeOf v = .ok shape ∧
      ∀ index, List.Forall₂ (· < ·) index extent →
        vals[flatIndex extent index]? = v.values[flatIndex shape (shift origin index)]? := by
  cases h with
  | @cells v shape _ found resolved _ _ _ _ _ gathered =>
    refine ⟨v, shape, found, resolved, fun index inside => ?_⟩
    have position := congrArg (·[flatIndex extent index]?) gathered
    simp only [List.getElem?_map, getElem?_boxIndices inside, Option.map_some] at position
    obtain ⟨value, stored, same⟩ := Option.map_eq_some_iff.mp position
    rw [stored, same]

theorem length {vals : List Float} (h : ReadAnswer d name origin extent (.ok vals)) :
    vals.length = shapeSize extent := by
  cases h with
  | cells _ _ _ _ _ _ count _ => exact count

theorem gather {v : Variable} {shape : List Nat} (found : d.findVariable name = some v)
    (resolved : d.shapeOf v = .ok shape) (count : v.values.size = shapeSize shape)
    (originRank : origin.length = shape.length) (extentRank : extent.length = shape.length)
    (inside : ∀ k < shape.length, origin[k]! + extent[k]! ≤ shape[k]!)
    (small : nonzeroProduct shape ≤ maxIndex) :
    ReadAnswer d name origin extent
      (.ok ((boxCells shape origin extent).map fun k => v.values.getD k 0)) := by
  have gathered := gather_eq (stored_of_inside count originRank extentRank inside)
    originRank extentRank
  have length : ((boxCells shape origin extent).map fun k => v.values.getD k 0).length =
      shapeSize extent := by
    simpa [length_boxIndices] using congrArg List.length gathered
  exact .cells found resolved originRank extentRank inside small length gathered

theorem self (h : ReadAnswer d name origin extent answer) :
    ReadAnswer d name origin extent (d.read name origin extent) :=
  h.read_eq ▸ h

end ReadAnswer

namespace Dataset

variable {d : Dataset}

theorem Valid.readAnswer (valid : d.Valid) (name : String) (origin extent : List Nat) :
    ReadAnswer d name origin extent (d.read name origin extent) := by
  cases found : d.findVariable name with
  | none => exact (ReadAnswer.missing found).self
  | some v =>
    obtain ⟨shape, resolved, count⟩ := valid v (mem_of_findVariable found)
    by_cases originRank : origin.length = shape.length
    · by_cases extentRank : extent.length = shape.length
      · by_cases inside : ∀ k < shape.length, origin[k]! + extent[k]! ≤ shape[k]!
        · by_cases large : maxIndex < nonzeroProduct shape
          · exact (ReadAnswer.tooLarge found resolved originRank extentRank inside large).self
          · exact (ReadAnswer.gather found resolved count originRank extentRank inside
              (Nat.not_lt.mp large)).self
        · exact (ReadAnswer.outside found resolved originRank extentRank inside).self
      · exact (ReadAnswer.extentRank found resolved originRank extentRank).self
    · exact (ReadAnswer.originRank found resolved originRank).self

theorem read_answers (valid : d.Valid) (name : String) (origin extent : List Nat)
    (answer : Except DatasetError (List Float)) :
    d.read name origin extent = answer ↔ ReadAnswer d name origin extent answer :=
  ⟨fun h => h ▸ valid.readAnswer name origin extent, ReadAnswer.read_eq⟩

def repeatedDimension : Dataset :=
  ⟨[⟨"a", 2⟩, ⟨"b", 3⟩, ⟨"a", 5⟩], [⟨"v", .double, ["a", "b"], [], #[0, 1, 2, 3, 4, 5]⟩], []⟩

theorem read_answers_block :
    repeatedDimension.Valid ∧
      (repeatedDimension.read "v" [0, 1] [2, 2] = .ok [1, 2, 4, 5] ↔
        ReadAnswer repeatedDimension "v" [0, 1] [2, 2] (.ok [1, 2, 4, 5])) :=
  ⟨valid_of_check rfl, read_answers (valid_of_check rfl) "v" [0, 1] [2, 2] _⟩

example : repeatedDimension.read "v" [0, 1] [2, 2] = .ok [1, 2, 4, 5] := rfl

end Dataset

end GridServe
