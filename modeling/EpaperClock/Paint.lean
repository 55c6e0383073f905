import EpaperClock.Library.Bitmap

/-! The frame buffers and the pixel functions of `eink_control.c`. -/
namespace EpaperClock

open Bitmap

abbrev epdWidth : Nat := 176
abbrev epdHeight : Nat := 264

/-- `PAINT_WIDTH`: the width in whole bytes. -/
def paintWidth : Int := if epdWidth % 8 ≠ 0 then epdWidth + 8 - epdWidth % 8 else epdWidth

def paintHeight : Int := epdHeight

/-- `IF_INVERT_COLOR`. -/
def ifInvertColor : Bool := true

abbrev coloured : Int := 1
abbrev uncoloured : Int := 0

inductive Rotation where
  | rotate0
  | rotate90
  | rotate180
  | rotate270
  deriving DecidableEq, Repr

/-- A buffer of 5808 bytes. -/
@[ext] structure Image where
  bytes : List UInt8
  size : bytes.length = 5808
  deriving DecidableEq

/-- Change one byte; fails outside the buffer. -/
def Image.modify (image : Image) (i : Int) (f : UInt8 → UInt8) : Option Image :=
  if 0 ≤ i ∧ i < 5808 then some ⟨image.bytes.modify i.toNat f, by rw [List.length_modify, image.size]⟩
  else none

def paintDrawAbsolutePixel (image : Image) (x y colored : Int) : Option Image :=
  if x < 0 ∨ x ≥ paintWidth ∨ y < 0 ∨ y ≥ paintHeight then some image
  else
    let i := (x + y * paintWidth) / 8
    let bit := mask (x % 8).toNat
    if ifInvertColor then
      if colored ≠ 0 then image.modify i (· ||| bit) else image.modify i (· &&& ~~~bit)
    else if colored ≠ 0 then image.modify i (· &&& ~~~bit)
    else image.modify i (· ||| bit)

/-- `for (k = start; k < stop; k++)`. -/
def forRange (start stop : Int) : List Int :=
  (List.range (stop - start).toNat).map fun k => start + (k : Nat)

def paintClear (image : Image) (colored : Int) : Option Image :=
  (forRange 0 paintWidth).foldlM (fun image x =>
    (forRange 0 paintHeight).foldlM (fun image y => paintDrawAbsolutePixel image x y colored) image)
    image

def paintDrawPixel (image : Image) (x y colored : Int) (rotate : Rotation) : Option Image :=
  match rotate with
  | .rotate0 =>
    if x < 0 ∨ x ≥ paintWidth ∨ y < 0 ∨ y ≥ paintHeight then some image
    else paintDrawAbsolutePixel image x y colored
  | .rotate90 =>
    if x < 0 ∨ x ≥ paintHeight ∨ y < 0 ∨ y ≥ paintWidth then some image
    else paintDrawAbsolutePixel image (paintWidth - y) x colored
  | .rotate180 =>
    if x < 0 ∨ x ≥ paintWidth ∨ y < 0 ∨ y ≥ paintHeight then some image
    else paintDrawAbsolutePixel image (paintWidth - x) (paintHeight - y) colored
  | .rotate270 =>
    if x < 0 ∨ x ≥ paintHeight ∨ y < 0 ∨ y ≥ paintWidth then some image
    else paintDrawAbsolutePixel image y (paintHeight - x) colored

theorem mem_forRange {start stop k : Int} : k ∈ forRange start stop ↔ start ≤ k ∧ k < stop := by
  simp only [forRange, List.mem_map, List.mem_range]
  constructor
  · rintro ⟨n, inside, rfl⟩
    omega
  · rintro ⟨above, below⟩
    exact ⟨(k - start).toNat, by omega, by omega⟩

/-! ### Pixels -/

/-- The coordinates of a pixel of the panel. -/
def OnPanel (p : Int × Int) : Prop := 0 ≤ p.1 ∧ p.1 < 176 ∧ 0 ≤ p.2 ∧ p.2 < 264

instance (p : Int × Int) : Decidable (OnPanel p) := inferInstanceAs (Decidable (_ ∧ _))

namespace Image

/-- Whether a pixel of the panel is on. -/
def pixel (image : Image) (p : Int × Int) : Bool := getBit image.bytes (p.1 + p.2 * 176).toNat

/-- Paint one point, which may lie outside of the panel. -/
def draw (on : Bool) (image : Image) (p : Int × Int) : Image :=
  if OnPanel p then ⟨setBit image.bytes (p.1 + p.2 * 176).toNat on, by simp [image.size]⟩ else image

def drawAll (on : Bool) (image : Image) (points : List (Int × Int)) : Image :=
  points.foldl (draw on) image

theorem draw_of_not_onPanel (on : Bool) (image : Image) {p : Int × Int} (outside : ¬OnPanel p) :
    image.draw on p = image := if_neg outside

theorem pixel_draw (on : Bool) (image : Image) (p : Int × Int) {q : Int × Int} (panel : OnPanel q) :
    (image.draw on p).pixel q = if q = p then on else image.pixel q := by
  by_cases inside : OnPanel p
  · rw [draw, if_pos inside]
    obtain ⟨x, y⟩ := p
    obtain ⟨u, v⟩ := q
    simp only [OnPanel] at inside panel
    have room : (x + y * 176).toNat < 8 * image.bytes.length := by
      rw [image.size]
      omega
    -- 176 columns: the address determines both coordinates
    have address : (u + v * 176).toNat = (x + y * 176).toNat ↔ (u, v) = (x, y) := by
      rw [Prod.mk.injEq]
      omega
    simp only [pixel, getBit_setBit room, address]
  · have other : q ≠ p := fun same => inside (same ▸ panel)
    rw [draw_of_not_onPanel on image inside, if_neg other]

theorem pixel_drawAll (on : Bool) (image : Image) (points : List (Int × Int)) {q : Int × Int}
    (panel : OnPanel q) :
    (image.drawAll on points).pixel q = if q ∈ points then on else image.pixel q := by
  induction points generalizing image with
  | nil => rfl
  | cons p points ih =>
    rw [drawAll, List.foldl_cons, ← drawAll, ih, pixel_draw on image p panel]
    by_cases later : q ∈ points
    · simp [later]
    · simp [later]

theorem drawAll_append (on : Bool) (image : Image) (first second : List (Int × Int)) :
    image.drawAll on (first ++ second) = (image.drawAll on first).drawAll on second :=
  List.foldl_append

theorem drawAll_flatMap {α : Type} (on : Bool) (image : Image) (points : α → List (Int × Int))
    (as : List α) : image.drawAll on (as.flatMap points) =
      as.foldl (fun image a => image.drawAll on (points a)) image :=
  List.foldl_flatMap

/-- A buffer is determined by its pixels. -/
theorem eq_of_pixel {a b : Image} (same : ∀ p, OnPanel p → a.pixel p = b.pixel p) : a = b := by
  apply Image.ext
  apply eq_of_getBit (a.size.trans b.size.symm)
  intro i inside
  rw [a.size] at inside
  have panel : OnPanel (((i % 176 : Nat) : Int), ((i / 176 : Nat) : Int)) := by
    simp only [OnPanel]
    omega
  have address : (((i % 176 : Nat) : Int) + ((i / 176 : Nat) : Int) * 176).toNat = i := by omega
  have bit := same _ panel
  simp only [pixel, address] at bit
  exact bit

/-- Neither the order of the points nor their number matters. -/
theorem drawAll_congr {on : Bool} {image : Image} {first second : List (Int × Int)}
    (same : ∀ q, q ∈ first ↔ q ∈ second) : image.drawAll on first = image.drawAll on second := by
  apply eq_of_pixel
  intro q panel
  rw [pixel_drawAll _ _ _ panel, pixel_drawAll _ _ _ panel]
  exact if_congr (same q) rfl rfl

end Image

theorem foldlM_some {σ α : Type} {f : σ → α → Option σ} {g : σ → α → σ}
    (total : ∀ s a, f s a = some (g s a)) (s : σ) (as : List α) :
    as.foldlM f s = some (as.foldl g s) := by
  have pure_ : f = fun s a => pure (g s a) := by
    funext s a
    exact total s a
  rw [pure_, List.foldlM_pure]
  rfl

/-- Every access is inside the buffer. -/
theorem paintDrawAbsolutePixel_eq (image : Image) (x y colored : Int) :
    paintDrawAbsolutePixel image x y colored = some (image.draw (colored ≠ 0) (x, y)) := by
  have width : paintWidth = 176 := rfl
  have height : paintHeight = 264 := rfl
  simp only [paintDrawAbsolutePixel, width, height]
  split
  next outside =>
    rw [Image.draw_of_not_onPanel]
    simp only [OnPanel]
    omega
  next inside =>
    have panel : OnPanel (x, y) := by
      simp only [OnPanel]
      omega
    have byte : ((x + y * 176) / 8).toNat = (x + y * 176).toNat / 8 := by omega
    have bit : (x % 8).toNat = (x + y * 176).toNat % 8 := by omega
    have bounds : 0 ≤ (x + y * 176) / 8 ∧ (x + y * 176) / 8 < 5808 := by omega
    simp only [ifInvertColor, if_true, Image.modify, if_pos bounds, Image.draw, if_pos panel, setBit,
      byte, bit]
    by_cases on : colored = 0
    · simp [on, writeBit]
    · simp [on, writeBit]

theorem paintClear_eq (image : Image) (colored : Int) :
    paintClear image colored = some (image.drawAll (colored ≠ 0)
      ((forRange 0 paintWidth).flatMap fun x => (forRange 0 paintHeight).map fun y => (x, y))) := by
  have column : ∀ (image : Image) (x : Int), (forRange 0 paintHeight).foldlM
      (fun image y => paintDrawAbsolutePixel image x y colored) image =
        some (image.drawAll (colored ≠ 0) ((forRange 0 paintHeight).map fun y => (x, y))) := by
    intro image x
    rw [foldlM_some (fun image y => paintDrawAbsolutePixel_eq image x y colored), Image.drawAll,
      List.foldl_map]
  rw [paintClear, foldlM_some column, Image.drawAll_flatMap]

/-- The two loops reach every pixel. -/
theorem pixel_paintClear {image image' : Image} {colored : Int}
    (cleared : paintClear image colored = some image') {q : Int × Int} (panel : OnPanel q) :
    image'.pixel q = decide (colored ≠ 0) := by
  rw [paintClear_eq, Option.some.injEq] at cleared
  have covered : q ∈ (forRange 0 paintWidth).flatMap fun x =>
      (forRange 0 paintHeight).map fun y => (x, y) := by
    have width : paintWidth = 176 := rfl
    have height : paintHeight = 264 := rfl
    obtain ⟨x, y⟩ := q
    simp only [OnPanel] at panel
    simp only [List.mem_flatMap, List.mem_map, mem_forRange, width, height]
    exact ⟨x, by omega, y, by omega, rfl⟩
  rw [← cleared, Image.pixel_drawAll _ _ _ panel, if_pos covered]

def blankImage : Image := ⟨List.replicate 5808 0, List.length_replicate⟩

theorem pixel_blankImage (p : Int × Int) : blankImage.pixel p = false := by
  simp only [Image.pixel, Bitmap.getBit, blankImage, List.getD_eq_getElem?_getD, List.getElem?_replicate]
  split <;> exact Bitmap.readBit_zero _

/-- Clearing leaves nothing of what was there. -/
theorem paintClear_uncoloured (image : Image) : paintClear image uncoloured = some blankImage := by
  obtain ⟨cleared, done⟩ : ∃ cleared, paintClear image uncoloured = some cleared :=
    ⟨_, paintClear_eq image uncoloured⟩
  rw [done, Option.some.injEq]
  apply Image.eq_of_pixel
  intro p panel
  rw [pixel_paintClear done panel, pixel_blankImage]
  rfl

/-! ### Rotations -/

def canvasWidth : Rotation → Int
  | .rotate0 | .rotate180 => 176
  | .rotate90 | .rotate270 => 264

def canvasHeight : Rotation → Int
  | .rotate0 | .rotate180 => 264
  | .rotate90 | .rotate270 => 176

/-- The points of the rotated canvas. -/
def OnCanvas (rotate : Rotation) (p : Int × Int) : Prop :=
  0 ≤ p.1 ∧ p.1 < canvasWidth rotate ∧ 0 ≤ p.2 ∧ p.2 < canvasHeight rotate

instance (rotate : Rotation) (p : Int × Int) : Decidable (OnCanvas rotate p) :=
  inferInstanceAs (Decidable (_ ∧ _))

/-- Where a point of the canvas is painted. -/
def rotated (rotate : Rotation) (p : Int × Int) : Int × Int :=
  match rotate with
  | .rotate0 => p
  | .rotate90 => (176 - p.2, p.1)
  | .rotate180 => (176 - p.1, 264 - p.2)
  | .rotate270 => (p.2, 264 - p.1)

theorem paintDrawPixel_outside {rotate : Rotation} {p : Int × Int} (outside : ¬OnCanvas rotate p)
    (image : Image) (colored : Int) : paintDrawPixel image p.1 p.2 colored rotate = some image := by
  have width : paintWidth = 176 := rfl
  have height : paintHeight = 264 := rfl
  cases rotate with
  | _ =>
    simp only [OnCanvas, canvasWidth, canvasHeight] at outside
    simp only [paintDrawPixel, width, height]
    rw [if_pos (by omega)]

theorem paintDrawPixel_inside {rotate : Rotation} {p : Int × Int} (canvas : OnCanvas rotate p)
    (image : Image) (colored : Int) : paintDrawPixel image p.1 p.2 colored rotate =
      some (image.draw (colored ≠ 0) (rotated rotate p)) := by
  have width : paintWidth = 176 := rfl
  have height : paintHeight = 264 := rfl
  cases rotate with
  | _ =>
    simp only [OnCanvas, canvasWidth, canvasHeight] at canvas
    simp only [paintDrawPixel, rotated, width, height]
    rw [if_neg (by omega), paintDrawAbsolutePixel_eq]

end EpaperClock
