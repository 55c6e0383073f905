import EpaperClock.Paint

/-! Characters, icons and strings as `eink_control.c` paints them. -/
namespace EpaperClock

open Bitmap

/-- `sFONT`; the table is what its pointer reads at an offset. -/
structure SFont where
  table : Nat → Option UInt8
  width : Nat
  height : Nat

/-- The bytes of one row of a bitmap. -/
def rowBytes (width : Nat) : Nat := width / 8 + if width % 8 ≠ 0 then 1 else 0

/-- The two inner loops: a square for one bit. -/
def paintBlock (x y colored scale : Int) (i j : Nat) (image : Image) : Option Image :=
  (forRange (i * scale) ((i + 1) * scale)).foldlM (fun image k =>
    (forRange (j * scale) ((j + 1) * scale)).foldlM (fun image l =>
      paintDrawPixel image (x + k) (y + l) colored .rotate270) image) image

section Glyph

variable (read : Nat → Option UInt8) (x y colored scale : Int)

/-- The body of the loop over the columns, with the pointer into the bitmap. -/
def paintBit (j : Nat) (state : Image × Nat) (i : Nat) : Option (Image × Nat) := do
  let (image, ptr) := state
  let byte ← read ptr
  let image ← if byte &&& mask (i % 8) ≠ 0 then paintBlock x y colored scale i j image else some image
  some (image, if i % 8 = 7 then ptr + 1 else ptr)

/-- The body of the loop over the rows. -/
def paintRow (width : Nat) (state : Image × Nat) (j : Nat) : Option (Image × Nat) := do
  let (image, ptr) ← (List.range width).foldlM (paintBit read x y colored scale j) state
  some (image, if width % 8 ≠ 0 then ptr + 1 else ptr)

/-- The loops that characters and icons share. -/
def paintGlyph (width height : Nat) (image : Image) (ptr : Nat) : Option Image := do
  let (image, _) ← (List.range height).foldlM (paintRow read x y colored scale width) (image, ptr)
  some image

end Glyph

/-- `char_offset`, an unsigned number. -/
def charOffset (asciiChar : UInt8) (font : SFont) : Nat :=
  (((asciiChar.toNat : Int) - 32) * font.height * rowBytes font.width % 2 ^ 32).toNat

def paintDrawChar (image : Image) (x y : Int) (asciiChar : UInt8) (font : SFont) (colored scale : Int) :
    Option Image :=
  paintGlyph font.table x y colored scale font.width font.height image (charOffset asciiChar font)

/-- An icon has 80 rows of 80 pixels and is not scaled. -/
def paintDrawIcon (image : Image) (x y : Int) (icon : Nat → Option UInt8) (colored : Int) :
    Option Image :=
  paintGlyph icon x y colored 1 80 80 image 0

/-- `x` is the column of the next character; `text` has no NUL. -/
def paintDrawString (image : Image) (x y : Int) (text : List UInt8) (font : SFont)
    (colored scale : Int) : Option Image :=
  match text with
  | [] => some image
  | c :: text => do
    let image ← paintDrawChar image x y c font colored scale
    paintDrawString image (x + font.width * scale) y text font colored scale

/-! ### The points that are painted -/

/-- Where a point of the rotated canvas is painted, if it is on the canvas. -/
def rotated270 (p : Int × Int) : List (Int × Int) :=
  if 0 ≤ p.1 ∧ p.1 < 264 ∧ 0 ≤ p.2 ∧ p.2 < 176 then [(p.2, 264 - p.1)] else []

theorem rotated270_eq (p : Int × Int) :
    rotated270 p = if OnCanvas .rotate270 p then [rotated .rotate270 p] else [] := rfl

theorem paintDrawPixel_rotate270 (image : Image) (x y colored : Int) :
    paintDrawPixel image x y colored .rotate270 =
      some (image.drawAll (colored ≠ 0) (rotated270 (x, y))) := by
  by_cases canvas : OnCanvas .rotate270 (x, y)
  · rw [@paintDrawPixel_inside .rotate270 (x, y) canvas, rotated270_eq, if_pos canvas]
    rfl
  · rw [@paintDrawPixel_outside .rotate270 (x, y) canvas, rotated270_eq, if_neg canvas]
    rfl

def blockPoints (x y scale : Int) (i j : Nat) : List (Int × Int) :=
  (forRange (i * scale) ((i + 1) * scale)).flatMap fun k =>
    (forRange (j * scale) ((j + 1) * scale)).flatMap fun l => rotated270 (x + k, y + l)

theorem paintBlock_eq (x y colored scale : Int) (i j : Nat) (image : Image) :
    paintBlock x y colored scale i j image =
      some (image.drawAll (colored ≠ 0) (blockPoints x y scale i j)) := by
  have column : ∀ (image : Image) (k : Int), (forRange (j * scale) ((j + 1) * scale)).foldlM
      (fun image l => paintDrawPixel image (x + k) (y + l) colored .rotate270) image =
        some (image.drawAll (colored ≠ 0) ((forRange (j * scale) ((j + 1) * scale)).flatMap
          fun l => rotated270 (x + k, y + l))) := by
    intro image k
    rw [foldlM_some (fun image l => paintDrawPixel_rotate270 image (x + k) (y + l) colored),
      Image.drawAll_flatMap]
  rw [paintBlock, foldlM_some column, blockPoints, Image.drawAll_flatMap]

section Glyph

variable {read : Nat → Option UInt8} (byteAt : Nat → UInt8) (x y colored scale : Int)

def bitPoints (ptr j i : Nat) : List (Int × Int) :=
  if readBit (byteAt (ptr + i / 8)) (i % 8) then blockPoints x y scale i j else []

/-- The pointer moves on behind every eighth column. -/
theorem foldlM_paintBit {width ptr : Nat}
    (reads : ∀ i < width, read (ptr + i / 8) = some (byteAt (ptr + i / 8))) (j : Nat)
    (image : Image) : (List.range width).foldlM (paintBit read x y colored scale j) (image, ptr) =
      some (image.drawAll (colored ≠ 0)
        ((List.range width).flatMap (bitPoints byteAt x y scale ptr j)), ptr + width / 8) := by
  induction width with
  | zero => rfl
  | succ n ih =>
    have before := ih (fun i inside => reads i (Nat.lt_succ_of_lt inside))
    have advance : (if n % 8 = 7 then ptr + n / 8 + 1 else ptr + n / 8) = ptr + (n + 1) / 8 := by
      split <;> omega
    rw [List.range_succ, List.foldlM_append, before, List.flatMap_append, Image.drawAll_append]
    simp only [Option.bind_eq_bind, Option.bind_some, List.foldlM_cons, List.foldlM_nil, paintBit,
      reads n (Nat.lt_succ_self n), ne_eq, and_mask_eq_zero_iff _ (Nat.mod_lt n (by decide)),
      Bool.not_eq_false, advance, List.flatMap_cons, List.flatMap_nil, List.append_nil, bitPoints]
    split
    next set => simp only [paintBlock_eq, Option.bind_some]; rfl
    next => rfl

def glyphPoints (width height ptr : Nat) : List (Int × Int) :=
  (List.range height).flatMap fun j =>
    (List.range width).flatMap (bitPoints byteAt x y scale (ptr + j * rowBytes width) j)

theorem foldlM_paintRow {width height ptr : Nat}
    (reads : ∀ j < height, ∀ i < width, read (ptr + j * rowBytes width + i / 8) =
      some (byteAt (ptr + j * rowBytes width + i / 8))) (image : Image) :
    (List.range height).foldlM (paintRow read x y colored scale width) (image, ptr) =
      some (image.drawAll (colored ≠ 0) (glyphPoints byteAt x y scale width height ptr),
        ptr + height * rowBytes width) := by
  induction height with
  | zero => simp [glyphPoints, Image.drawAll]
  | succ n ih =>
    have before := ih (fun j inside => reads j (Nat.lt_succ_of_lt inside))
    have row := foldlM_paintBit byteAt x y colored scale (reads n (Nat.lt_succ_self n)) n
    have advance : (if width % 8 ≠ 0 then ptr + n * rowBytes width + width / 8 + 1
        else ptr + n * rowBytes width + width / 8) = ptr + (n + 1) * rowBytes width := by
      rw [Nat.succ_mul, rowBytes]
      split <;> omega
    rw [glyphPoints, List.range_succ, List.foldlM_append, before, List.flatMap_append,
      Image.drawAll_append]
    simp only [Option.bind_eq_bind, Option.bind_some, List.foldlM_cons, List.foldlM_nil, paintRow,
      row, advance, List.flatMap_cons, List.flatMap_nil, List.append_nil]
    rfl

/-- A bitmap is painted as a square for each of its bits that is set. -/
theorem paintGlyph_eq {width height ptr : Nat}
    (reads : ∀ j < height, ∀ i < width, read (ptr + j * rowBytes width + i / 8) =
      some (byteAt (ptr + j * rowBytes width + i / 8))) (image : Image) :
    paintGlyph read x y colored scale width height image ptr =
      some (image.drawAll (colored ≠ 0) (glyphPoints byteAt x y scale width height ptr)) := by
  rw [paintGlyph, foldlM_paintRow byteAt x y colored scale reads]
  rfl

end Glyph

def stringPoints (byteAt : Nat → UInt8) (font : SFont) (y scale : Int) (x : Int) :
    List UInt8 → List (Int × Int)
  | [] => []
  | c :: text => glyphPoints byteAt x y scale font.width font.height (charOffset c font) ++
      stringPoints byteAt font y scale (x + font.width * scale) text

/-- Only the bytes of the text's glyphs are read. -/
theorem paintDrawString_eq_of_reads {font : SFont} {byteAt : Nat → UInt8} {text : List UInt8}
    (reads : ∀ c ∈ text, ∀ j < font.height, ∀ i < font.width,
      font.table (charOffset c font + j * rowBytes font.width + i / 8) =
        some (byteAt (charOffset c font + j * rowBytes font.width + i / 8)))
    (image : Image) (x y colored scale : Int) :
    paintDrawString image x y text font colored scale =
      some (image.drawAll (colored ≠ 0) (stringPoints byteAt font y scale x text)) := by
  induction text generalizing image x with
  | nil => rfl
  | cons c text ih =>
    rw [paintDrawString, paintDrawChar,
      paintGlyph_eq byteAt x y colored scale (reads c List.mem_cons_self), stringPoints,
      Image.drawAll_append]
    exact ih (fun d member => reads d (List.mem_cons_of_mem _ member)) _ _

theorem paintDrawString_eq {font : SFont} {byteAt : Nat → UInt8}
    (reads : ∀ offset, font.table offset = some (byteAt offset)) (image : Image)
    (x y colored scale : Int) (text : List UInt8) :
    paintDrawString image x y text font colored scale =
      some (image.drawAll (colored ≠ 0) (stringPoints byteAt font y scale x text)) :=
  paintDrawString_eq_of_reads (fun _ _ _ _ _ _ => reads _) image x y colored scale

end EpaperClock
