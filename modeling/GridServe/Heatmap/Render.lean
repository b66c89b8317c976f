import GridServe.Error.Io

/-!
Heatmaps of two-dimensional grids. Each cell becomes a square of `cellSize` pixels, row 0 at the
top. Colours are relative to the range of the grid's finite values: the least maps to the
bottom of the gradient and the greatest to the top, a grid whose finite values are all equal
maps to the middle, and values that are not finite are transparent. An image edge may be at
most 16384 pixels, and an image with no pixels cannot be encoded.

Colours of heatmap cells. A value's position `t` in the range of the grid picks a colour on a
five-stop gradient from dark violet to yellow; each channel is interpolated linearly between the
two stops around `t`, rounded half away from zero and clamped to a byte.
-/

namespace GridServe

structure Rgba where
  r : UInt8
  g : UInt8
  b : UInt8
  a : UInt8
  deriving Repr, DecidableEq, Inhabited

namespace Rgba

def transparent : Rgba := ⟨0, 0, 0, 0⟩

def hexDigit (n : Nat) : Char :=
  if n < 10 then Char.ofNat (0x30 + n) else Char.ofNat (0x61 + n - 10)

def byteHex (b : UInt8) : String :=
  String.ofList [hexDigit (b.toNat / 16), hexDigit (b.toNat % 16)]

def hex (c : Rgba) : String := byteHex c.r ++ byteHex c.g ++ byteHex c.b ++ byteHex c.a

end Rgba

namespace Gradient

def stops : List (Nat × Nat × Nat) :=
  [(68, 1, 84), (59, 82, 139), (33, 145, 140), (94, 201, 98), (253, 231, 37)]

/-- Clamp to `[0, 1]`; a NaN stays NaN. -/
def clampUnit (t : Float) : Float :=
  if t < 0 then 0 else if t > 1 then 1 else t

/-- One channel between two stops at fraction `frac`, rounded and clamped to a byte; NaN
becomes zero. -/
def mix (a b : Nat) (frac : Float) : UInt8 :=
  let a := a.toFloat
  let b := b.toFloat
  (a + (b - a) * frac).round.toUInt8

def color (t : Float) : Rgba :=
  let scaled := clampUnit t * 4
  let lower := min scaled.floor.toUInt64.toNat 3
  let frac := scaled - lower.toFloat
  let (r0, g0, b0) := stops.getD lower (0, 0, 0)
  let (r1, g1, b1) := stops.getD (lower + 1) (0, 0, 0)
  ⟨mix r0 r1 frac, mix g0 g1 frac, mix b0 b1 frac, 255⟩

end Gradient

structure Grid where
  rows : Nat
  cols : Nat
  values : Array Float
  deriving Inhabited

namespace Grid

def get (g : Grid) (i j : Nat) : Float := g.values.getD (i * g.cols + j) 0

def row (g : Grid) (i : Nat) : List Float := (List.range g.cols).map (g.get i)

def toRows (g : Grid) : List (List Float) := (List.range g.rows).map g.row

def ofRows (rows : List (List Float)) (cols : Nat) : Grid :=
  ⟨rows.length, cols, rows.flatten.toArray⟩

def range (g : Grid) : Option (Float × Float) :=
  g.values.foldl (fun acc v =>
    if v.isFinite then
      match acc with
      | none => some (v, v)
      | some (lo, hi) => some (if v < lo then v else lo, if v > hi then v else hi)
    else acc) none

end Grid

inductive RenderError where
  | io (cause : IoError)
  /-- The encoder refuses the image. `cause` holds the texts of the encoder's error and of its
  sources, nearest first. -/
  | image (cause : List String)
  | tooLarge (rows cols : Nat)
  | interrupted
  deriving Repr, DecidableEq

namespace RenderError

def kindName : RenderError → String
  | .io _ => "Io"
  | .image _ => "Image"
  | .tooLarge _ _ => "TooLarge"
  | .interrupted => "Interrupted"

def message : RenderError → String
  | .io _ => "failed to write image"
  | .image _ => "failed to encode image"
  | .tooLarge rows cols =>
    "grid of " ++ toString rows ++ "x" ++ toString cols ++ " cells is too large to render"
  | .interrupted => "render task stopped before completing"

def causes : RenderError → List String
  | .io cause => [cause.message]
  | .image cause => cause
  | _ => []

end RenderError

/-- A heatmap image: the colour of each cell, row after row, each cell drawn as a `cellSize`
square. -/
structure Heatmap where
  cellSize : Nat
  rows : Nat
  cols : Nat
  colors : List Rgba
  deriving Repr

namespace Heatmap

def width (h : Heatmap) : Nat := h.cols * h.cellSize

def height (h : Heatmap) : Nat := h.rows * h.cellSize

/-- The colour of the pixel in column `x` and row `y`: the colour at the row-major index of the
cell the pixel falls in. -/
def pixel (h : Heatmap) (x y : Nat) : Rgba :=
  h.colors.getD (y / h.cellSize * h.cols + x / h.cellSize) Rgba.transparent

def maxEdge : Nat := 16384

def cellColor (range : Option (Float × Float)) (v : Float) : Rgba :=
  if !v.isFinite then Rgba.transparent
  else match range with
    | some (lo, hi) => if hi > lo then Gradient.color ((v - lo) / (hi - lo)) else Gradient.color 0.5
    | none => Gradient.color 0.5

def cellColors (g : Grid) : List Rgba :=
  let range := g.range
  g.toRows.flatMap fun row => row.map (cellColor range)

def image (cell : Nat) (g : Grid) : Heatmap := ⟨cell, g.rows, g.cols, cellColors g⟩

/-- The texts of the image library's error for an image without pixels. The library is not part
of this program and its wording is not reproduced; no answer of the server shows it. -/
def encoderRefusal : List String := []

def encode (h : Heatmap) : Except RenderError Heatmap :=
  if h.width = 0 ∨ h.height = 0 then .error (.image encoderRefusal) else .ok h

/-- Render a grid with square cells of `cellSize` pixels; a size of zero counts as one. -/
def render (cellSize : Nat) (g : Grid) : Except RenderError Heatmap :=
  let cell := max cellSize 1
  if g.rows * cell > maxEdge ∨ g.cols * cell > maxEdge then .error (.tooLarge g.rows g.cols)
  else encode (image cell g)

def defaultCellSize : Nat := 16

end Heatmap

end GridServe
