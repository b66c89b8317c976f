import GridServe.Artifact.Pipeline
import GridServe.Proofs.BoxRead

namespace GridServe

namespace Heatmap

theorem cellColors_eq (g : Grid) :
    cellColors g = (List.range g.rows).flatMap fun i => (g.row i).map (cellColor g.range) := by
  simp [cellColors, Grid.toRows, List.flatMap_map]

theorem length_cellColors (g : Grid) : (cellColors g).length = g.rows * g.cols := by
  rw [cellColors_eq]
  exact length_flatMap_range fun i _ => by simp [Grid.row]

theorem getElem?_cellColors (g : Grid) {i j : Nat} (row : i < g.rows) (col : j < g.cols) :
    (cellColors g)[i * g.cols + j]? = some (cellColor g.range (g.get i j)) := by
  rw [cellColors_eq, getElem?_flatMap_range (fun k _ => by simp [Grid.row]) row col]
  simp [Grid.row, col]

theorem cell_of_pixel {rows cols c x y : Nat} (hx : x < cols * c) (hy : y < rows * c) :
    y / c < rows ∧ x / c < cols :=
  ⟨Nat.div_lt_of_lt_mul (by rwa [Nat.mul_comm]), Nat.div_lt_of_lt_mul (by rwa [Nat.mul_comm])⟩

theorem pixel_index_lt {rows cols c x y : Nat} (hx : x < cols * c) (hy : y < rows * c) :
    y / c * cols + x / c < rows * cols := by
  obtain ⟨row, col⟩ := cell_of_pixel hx hy
  calc y / c * cols + x / c < y / c * cols + cols := by omega
    _ = (y / c + 1) * cols := by rw [Nat.succ_mul]
    _ ≤ rows * cols := Nat.mul_le_mul_right _ row

theorem pixel_image {cell x y : Nat} (g : Grid) (hx : x < (image cell g).width)
    (hy : y < (image cell g).height) :
    (image cell g).pixel x y = cellColor g.range (g.get (y / cell) (x / cell)) := by
  obtain ⟨row, col⟩ : y / cell < g.rows ∧ x / cell < g.cols := cell_of_pixel hx hy
  simp only [pixel, image]
  rw [List.getD_eq_getElem?_getD, getElem?_cellColors g row col, Option.getD_some]

theorem render_of_fits {cellSize : Nat} {g : Grid}
    (fits : ¬ (maxEdge < g.rows * max cellSize 1 ∨ maxEdge < g.cols * max cellSize 1)) :
    render cellSize g = encode (image (max cellSize 1) g) := by
  simp only [render, gt_iff_lt]
  rw [if_neg fits]

theorem render_eq_tooLarge_iff {cellSize : Nat} {g : Grid} :
    render cellSize g = .error (.tooLarge g.rows g.cols) ↔
      maxEdge < g.rows * max cellSize 1 ∨ maxEdge < g.cols * max cellSize 1 := by
  constructor
  · intro refused
    by_contra fits
    -- Past the size check the only refusal is the encoder's.
    rw [render_of_fits fits, encode] at refused
    split at refused <;> simp at refused
  · intro tooLarge
    simp only [render, gt_iff_lt]
    rw [if_pos tooLarge]

theorem run_file_of_tooLarge {cellSize : Nat} {g : Grid} (dest : String)
    (tooLarge : maxEdge < g.rows * max cellSize 1 ∨ maxEdge < g.cols * max cellSize 1) :
    ((Renderer.heatmap cellSize).run g dest).file = none := by
  simp [Renderer.run, render_eq_tooLarge_iff.mpr tooLarge]

theorem color_alpha (t : Float) : (Gradient.color t).a = 255 := rfl

theorem cellColor_alpha (range : Option (Float × Float)) {v : Float} (finite : v.isFinite) :
    (cellColor range v).a = 255 := by
  unfold cellColor
  rw [if_neg (by simpa using finite)]
  split
  · split <;> exact color_alpha _
  · exact color_alpha _

theorem cellColor_eq_transparent_iff (range : Option (Float × Float)) (v : Float) :
    cellColor range v = Rgba.transparent ↔ ¬ v.isFinite := by
  by_cases finite : v.isFinite
  · have solid := cellColor_alpha range finite
    simp only [finite, not_true_eq_false, iff_false]
    intro clear
    rw [clear] at solid
    exact absurd solid (by decide)
  · simp [cellColor, finite]

/-- A heatmap render refuses a grid exactly when one of its edges would pass the largest image,
and then writes nothing. Otherwise it encodes the image of `cols * cell` by `rows * cell` pixels,
`cell` being the cell size with zero read as one, both edges within the limit. The cell colours
are the grid's cells in row-major order, and each pixel of the image takes the colour of the cell
it falls in, at an index below `rows * cols`. A cell is transparent exactly when its value is
not finite, and opaque otherwise. -/
theorem heatmap_layout (cellSize : Nat) (g : Grid) (dest : String) :
    0 < max cellSize 1 ∧
      (render cellSize g = .error (.tooLarge g.rows g.cols) ↔
        maxEdge < g.rows * max cellSize 1 ∨ maxEdge < g.cols * max cellSize 1) ∧
      ((maxEdge < g.rows * max cellSize 1 ∨ maxEdge < g.cols * max cellSize 1) →
        ((Renderer.heatmap cellSize).run g dest).file = none) ∧
      (¬ (maxEdge < g.rows * max cellSize 1 ∨ maxEdge < g.cols * max cellSize 1) →
        render cellSize g = encode (image (max cellSize 1) g) ∧
          (image (max cellSize 1) g).width = g.cols * max cellSize 1 ∧
          (image (max cellSize 1) g).height = g.rows * max cellSize 1 ∧
          (image (max cellSize 1) g).width ≤ maxEdge ∧
          (image (max cellSize 1) g).height ≤ maxEdge) ∧
      (cellColors g).length = g.rows * g.cols ∧
      (∀ i < g.rows, ∀ j < g.cols,
        (cellColors g)[i * g.cols + j]? = some (cellColor g.range (g.get i j))) ∧
      (∀ x < (image (max cellSize 1) g).width, ∀ y < (image (max cellSize 1) g).height,
        y / max cellSize 1 * g.cols + x / max cellSize 1 < (cellColors g).length ∧
          (image (max cellSize 1) g).pixel x y =
            cellColor g.range (g.get (y / max cellSize 1) (x / max cellSize 1))) ∧
      ∀ v, (cellColor g.range v = Rgba.transparent ↔ ¬ v.isFinite) ∧
        (v.isFinite → (cellColor g.range v).a = 255) := by
  refine ⟨by omega, render_eq_tooLarge_iff, run_file_of_tooLarge dest, fun fits => ?_,
    length_cellColors g, fun i row j col => getElem?_cellColors g row col,
    fun x hx y hy => ⟨?_, pixel_image g hx hy⟩,
    fun v => ⟨cellColor_eq_transparent_iff g.range v, cellColor_alpha g.range⟩⟩
  · simp only [not_or, not_lt] at fits
    exact ⟨render_of_fits (by omega), rfl, rfl, fits.2, fits.1⟩
  · rw [length_cellColors]
    exact pixel_index_lt hx hy

end Heatmap

end GridServe
