import GridServe.Proofs.Extraction

namespace GridServe

theorem le_nonzeroProduct {shape : List Nat} {n : Nat} (member : n ∈ shape) :
    n ≤ nonzeroProduct shape := by
  by_cases empty : n = 0
  · omega
  · have kept : n ∈ shape.filter (· ≠ 0) := List.mem_filter.mpr ⟨member, by simpa using empty⟩
    have positive : 0 < nonzeroProduct shape := by
      rw [nonzeroProduct, shapeSize_eq_prod, List.prod_pos_iff_forall_pos_nat]
      intro k inside
      have nonzero := (List.mem_filter.mp inside).2
      simp only [ne_eq, decide_eq_true_eq] at nonzero
      omega
    exact Nat.le_of_dvd positive (List.dvd_prod kept)

namespace SliceRequest

theorem checkRange_eq_ok_iff {d : Dataset} {dimension : String} {index : Nat} :
    checkRange d dimension index = .ok () ↔
      ∃ entry, d.dimension? dimension = some entry ∧ index < entry.size := by
  unfold checkRange
  cases d.dimension? dimension with
  | none => simp
  | some entry =>
    by_cases empty : entry.size = 0
    · simp [empty]
    · by_cases above : index ≥ entry.size
      · simp [empty, above]
      · simp [empty, above]
        omega

theorem ranges_of_validate {params : NameMap String} {d : Dataset} {timeDim zDim : String}
    {req : SliceRequest} (accepted : validate params d timeDim zDim = .ok req) :
    checkRange d timeDim req.time = .ok () ∧ checkRange d zDim req.z = .ok () := by
  unfold validate at accepted
  split at accepted
  · split at accepted
    · cases accepted
    · split at accepted
      · cases accepted
      · split at accepted
        · cases accepted
        · split at accepted
          · cases accepted
          · rename_i timeInside
            split at accepted
            · cases accepted
            · rename_i zInside
              cases accepted
              exact ⟨timeInside, zInside⟩
  · cases accepted

end SliceRequest

namespace Dataset

variable {d : Dataset}

theorem Valid.read_ok {name : String} {v : Variable} {shape origin extent : List Nat}
    (valid : d.Valid) (found : d.findVariable name = some v) (resolved : d.shapeOf v = .ok shape)
    (originRank : origin.length = shape.length) (extentRank : extent.length = shape.length)
    (inside : ∀ k < shape.length, origin[k]! + extent[k]! ≤ shape[k]!)
    (small : nonzeroProduct shape ≤ maxIndex) :
    ∃ vals, d.read name origin extent = .ok vals := by
  have count := valid.size_of_shapeOf found resolved
  exact ⟨_, (ReadAnswer.gather found resolved count originRank extentRank inside small).read_eq⟩

theorem Valid.readAxis_whole {name : String} {v : Variable} {n : Nat} (valid : d.Valid)
    (found : d.findVariable name = some v) (resolved : d.shapeOf v = .ok [n])
    (short : n ≤ maxIndex) :
    Slice.readAxis d name = .ok v.values.toList ∧ v.values.size = n := by
  have count := valid.size_of_shapeOf found resolved
  exact ⟨(AxisAnswer.whole found resolved short).readAxis_eq valid, by simpa [shapeSize] using count⟩

theorem slice_box_inside {time z timeSize zSize ySize xSize : Nat} (timeBelow : time < timeSize)
    (zBelow : z < zSize) :
    ∀ k < [timeSize, zSize, ySize, xSize].length,
      [time, z, 0, 0][k]! + [1, 1, ySize, xSize][k]! ≤ [timeSize, zSize, ySize, xSize][k]! := by
  simp only [fits_cons]
  simp
  omega

theorem shape_of_validate {params : NameMap String} {req : SliceRequest}
    {timeDim zDim yDim xDim : String} {field : Variable} {shape : List Nat}
    (fieldDims : field.dimensions = [timeDim, zDim, yDim, xDim])
    (resolved : d.shapeOf field = .ok shape)
    (accepted : SliceRequest.validate params d timeDim zDim = .ok req) :
    ∃ timeSize zSize yEntry xEntry, shape = [timeSize, zSize, yEntry.size, xEntry.size] ∧
      d.dimension? yDim = some yEntry ∧ d.dimension? xDim = some xEntry ∧
      req.time < timeSize ∧ req.z < zSize := by
  obtain ⟨timeOk, zOk⟩ := SliceRequest.ranges_of_validate accepted
  obtain ⟨timeEntry, timeFound, timeBelow⟩ := SliceRequest.checkRange_eq_ok_iff.mp timeOk
  obtain ⟨zEntry, zFound, zBelow⟩ := SliceRequest.checkRange_eq_ok_iff.mp zOk
  -- the field's shape is the sizes of the first entries of its four dimension names
  have resolution := shapeOf_eq_ok_iff.mp resolved
  rw [fieldDims] at resolution
  rcases resolution with _ | ⟨timeSize, _ | ⟨zSize, _ | ⟨ySize, _ | ⟨xSize, _ | _⟩⟩⟩⟩
  obtain ⟨yEntry, yEntryFound, rfl⟩ := Option.map_eq_some_iff.mp ySize
  obtain ⟨xEntry, xEntryFound, rfl⟩ := Option.map_eq_some_iff.mp xSize
  simp only [timeFound, zFound, Option.map_some, Option.some.injEq] at timeSize zSize
  subst timeSize zSize
  exact ⟨_, _, yEntry, xEntry, rfl, yEntryFound, xEntryFound, timeBelow, zBelow⟩

end Dataset

/-- The variables of a slice resolved: a field of shape `[time, z, y, x]` holding the
requested time and level, and an axis variable of each horizontal dimension. -/
structure SliceLayout (d : Dataset) (vars : SliceVariables) (req : SliceRequest)
    (timeSize zSize ySize xSize : Nat) : Prop where
  field : ∃ v, d.findVariable vars.field = some v ∧
    d.shapeOf v = .ok [timeSize, zSize, ySize, xSize]
  x : ∃ v, d.findVariable vars.x = some v ∧ d.shapeOf v = .ok [xSize]
  y : ∃ v, d.findVariable vars.y = some v ∧ d.shapeOf v = .ok [ySize]
  time : req.time < timeSize
  z : req.z < zSize

namespace SliceLayout

variable {d : Dataset} {vars : SliceVariables} {req : SliceRequest}
  {timeSize zSize ySize xSize : Nat}

theorem extract_of_fits (layout : SliceLayout d vars req timeSize zSize ySize xSize)
    (valid : d.Valid) (fits : nonzeroProduct [timeSize, zSize, ySize, xSize] ≤ maxIndex) :
    ∃ slice, Slice.extract d vars req = .ok slice ∧
      slice.field.rows = ySize ∧ slice.field.cols = xSize := by
  obtain ⟨field, fieldFound, resolved⟩ := layout.field
  obtain ⟨xAxis, xFound, xResolved⟩ := layout.x
  obtain ⟨yAxis, yFound, yResolved⟩ := layout.y
  -- each coordinate axis is one factor of the field's shape, so it fits as well
  have xShort : xSize ≤ maxIndex := Nat.le_trans (le_nonzeroProduct (by simp)) fits
  have yShort : ySize ≤ maxIndex := Nat.le_trans (le_nonzeroProduct (by simp)) fits
  obtain ⟨xRead, xLength⟩ := valid.readAxis_whole xFound xResolved xShort
  obtain ⟨yRead, yLength⟩ := valid.readAxis_whole yFound yResolved yShort
  have fieldOk : ∃ vals, d.read vars.field [req.time, req.z, 0, 0]
      [1, 1, yAxis.values.toList.length, xAxis.values.toList.length] = .ok vals := by
    rw [Array.length_toList, Array.length_toList, xLength, yLength]
    exact valid.read_ok fieldFound resolved rfl rfl (Dataset.slice_box_inside layout.time layout.z)
      fits
  obtain ⟨vals, fieldRead⟩ := fieldOk
  refine ⟨⟨xAxis.values.toList, yAxis.values.toList,
    ⟨yAxis.values.toList.length, xAxis.values.toList.length, vals.toArray⟩⟩, ?_,
    by simpa using yLength, by simpa using xLength⟩
  simp only [Slice.extract, Slice.read, xRead, yRead, fieldRead]

theorem extract_of_overflow (layout : SliceLayout d vars req timeSize zSize ySize xSize)
    (valid : d.Valid) (large : maxIndex < nonzeroProduct [timeSize, zSize, ySize, xSize]) :
    Slice.extract d vars req = .error (.extractionFailure .shapeOverflow) := by
  obtain ⟨field, fieldFound, resolved⟩ := layout.field
  obtain ⟨xAxis, xFound, xResolved⟩ := layout.x
  obtain ⟨yAxis, yFound, yResolved⟩ := layout.y
  -- the first read to meet the overflow is the x axis, the y axis or the field box
  by_cases xLong : maxIndex < xSize
  · have xRead := (AxisAnswer.tooLong xFound xResolved xLong).readAxis_eq valid
    simp only [Slice.extract, Slice.read, xRead]
  obtain ⟨xRead, xLength⟩ := valid.readAxis_whole xFound xResolved (Nat.not_lt.mp xLong)
  by_cases yLong : maxIndex < ySize
  · have yRead := (AxisAnswer.tooLong yFound yResolved yLong).readAxis_eq valid
    simp only [Slice.extract, Slice.read, xRead, yRead]
  obtain ⟨yRead, yLength⟩ := valid.readAxis_whole yFound yResolved (Nat.not_lt.mp yLong)
  have fieldRead : d.read vars.field [req.time, req.z, 0, 0]
      [1, 1, yAxis.values.toList.length, xAxis.values.toList.length] = .error .shapeOverflow := by
    rw [Array.length_toList, Array.length_toList, xLength, yLength]
    have answer : ReadAnswer d vars.field [req.time, req.z, 0, 0] [1, 1, ySize, xSize]
        (.error .shapeOverflow) :=
      .tooLarge fieldFound resolved rfl rfl (Dataset.slice_box_inside layout.time layout.z) large
    exact answer.read_eq
  simp only [Slice.extract, Slice.read, xRead, yRead, fieldRead]

end SliceLayout

namespace Dataset

variable {d : Dataset}

/-- Every request that validation accepts is extracted when the field's non-zero sizes fit the
largest index, and otherwise fails on that overflow. -/
theorem validated_request_extracts {vars : SliceVariables} {timeDim zDim yDim xDim : String}
    {field xAxis yAxis : Variable} (valid : d.Valid)
    (fieldFound : d.findVariable vars.field = some field)
    (fieldDims : field.dimensions = [timeDim, zDim, yDim, xDim])
    (xFound : d.findVariable vars.x = some xAxis) (xDims : xAxis.dimensions = [xDim])
    (yFound : d.findVariable vars.y = some yAxis) (yDims : yAxis.dimensions = [yDim])
    (params : NameMap String) (req : SliceRequest)
    (accepted : SliceRequest.validate params d timeDim zDim = .ok req) :
    ∃ shape, d.shapeOf field = .ok shape ∧
      (nonzeroProduct shape ≤ maxIndex →
        ∃ slice, Slice.extract d vars req = .ok slice ∧
          ∃ yEntry xEntry, d.dimension? yDim = some yEntry ∧ d.dimension? xDim = some xEntry ∧
            slice.field.rows = yEntry.size ∧ slice.field.cols = xEntry.size) ∧
      (maxIndex < nonzeroProduct shape →
        Slice.extract d vars req = .error (.extractionFailure .shapeOverflow)) := by
  obtain ⟨shape, resolved, -⟩ := valid field (mem_of_findVariable fieldFound)
  obtain ⟨timeSize, zSize, yEntry, xEntry, rfl, yEntryFound, xEntryFound, timeBelow, zBelow⟩ :=
    shape_of_validate fieldDims resolved accepted
  have layout : SliceLayout d vars req timeSize zSize yEntry.size xEntry.size :=
    ⟨⟨field, fieldFound, resolved⟩, ⟨xAxis, xFound, shapeOf_eq_single xDims xEntryFound⟩,
      ⟨yAxis, yFound, shapeOf_eq_single yDims yEntryFound⟩, timeBelow, zBelow⟩
  refine ⟨_, resolved, fun fits => ?_, layout.extract_of_overflow valid⟩
  obtain ⟨slice, extracted, rows, cols⟩ := layout.extract_of_fits valid fits
  exact ⟨slice, extracted, yEntry, xEntry, yEntryFound, xEntryFound, rows, cols⟩

def overflowField : Dataset :=
  ⟨[⟨"time", 2 ^ 62⟩, ⟨"z", 3⟩, ⟨"y", 0⟩, ⟨"x", 1⟩],
    [⟨"x", .double, ["x"], [], #[0]⟩, ⟨"y", .double, ["y"], [], #[]⟩,
      ⟨"concentration", .double, ["time", "z", "y", "x"], [], #[]⟩], []⟩

theorem validated_request_extracts_overflow :
    overflowField.Valid ∧
      overflowField.findVariable "concentration" =
        some ⟨"concentration", .double, ["time", "z", "y", "x"], [], #[]⟩ ∧
      overflowField.findVariable "x" = some ⟨"x", .double, ["x"], [], #[0]⟩ ∧
      overflowField.findVariable "y" = some ⟨"y", .double, ["y"], [], #[]⟩ ∧
      SliceRequest.validate (NameMap.ofList [("time", "0"), ("z", "0")]) overflowField
        "time" "z" = .ok ⟨0, 0⟩ ∧
      ∃ shape, overflowField.shapeOf
          ⟨"concentration", .double, ["time", "z", "y", "x"], [], #[]⟩ = .ok shape ∧
        (nonzeroProduct shape ≤ maxIndex →
          ∃ slice, Slice.extract overflowField ⟨"concentration", "x", "y"⟩ ⟨0, 0⟩ = .ok slice ∧
            ∃ yEntry xEntry, overflowField.dimension? "y" = some yEntry ∧
              overflowField.dimension? "x" = some xEntry ∧
              slice.field.rows = yEntry.size ∧ slice.field.cols = xEntry.size) ∧
        (maxIndex < nonzeroProduct shape →
          Slice.extract overflowField ⟨"concentration", "x", "y"⟩ ⟨0, 0⟩ =
            .error (.extractionFailure .shapeOverflow)) := by
  have valid : overflowField.Valid := valid_of_check rfl
  have accepted : SliceRequest.validate (NameMap.ofList [("time", "0"), ("z", "0")])
      overflowField "time" "z" = .ok ⟨0, 0⟩ := rfl
  exact ⟨valid, rfl, rfl, rfl, accepted,
    validated_request_extracts valid rfl rfl rfl rfl rfl rfl _ _ accepted⟩

example : Slice.extract overflowField ⟨"concentration", "x", "y"⟩ ⟨0, 0⟩ =
    .error (.extractionFailure .shapeOverflow) := rfl

end Dataset

end GridServe
