import EpaperClock.Font12

/-! Texts and icons as sets of logical pixels. -/
namespace EpaperClock

open Bitmap

/-- The first byte of a character's glyph. -/
def glyphStart (font : SFont) (c : UInt8) : Nat :=
  (c.toNat - 32) * font.height * rowBytes font.width

def glyphBytes (font : SFont) : Nat := font.height * rowBytes font.width

/-- The table holds the character's glyph, and its offset is an `int`. -/
structure HasGlyph (font : SFont) (c : UInt8) : Prop where
  listed : 32 ≤ c.toNat
  noOverflow : glyphStart font c < 2 ^ 31
  held : ∀ k < glyphBytes font, (font.table (glyphStart font c + k)).isSome = true

/-- Bit `i` of row `j` of a bitmap. -/
def bitmapBit (read : Nat → Option UInt8) (start width i j : Nat) : Bool :=
  (read (start + j * rowBytes width + i / 8)).any fun byte => readBit byte (i % 8)

/-- The logical pixels of a bitmap with its corner at `(x, y)`: a square for each bit. -/
def bitmapPixels (read : Nat → Option UInt8) (start width height : Nat) (x y scale : Int) :
    List (Int × Int) :=
  (List.range height).flatMap fun j => (List.range width).flatMap fun i =>
    if bitmapBit read start width i j then
      (forRange 0 scale).flatMap fun a => (forRange 0 scale).map fun b =>
        (x + i * scale + a, y + j * scale + b)
    else []

/-- The logical pixels of a text: its glyphs side by side. -/
def textPixels (font : SFont) (text : List UInt8) (x y scale : Int) : List (Int × Int) :=
  (List.range text.length).flatMap fun n =>
    bitmapPixels font.table (glyphStart font (text.getD n 0)) font.width font.height
      (x + n * font.width * scale) y scale

/-- Paint the points one after the other. -/
def paintPixels (image : Image) (points : List (Int × Int)) (colored : Int) : Option Image :=
  points.foldlM (fun image p => paintDrawPixel image p.1 p.2 colored .rotate270) image

theorem paintPixels_eq (image : Image) (points : List (Int × Int)) (colored : Int) :
    paintPixels image points colored =
      some (image.drawAll (colored ≠ 0) (points.flatMap rotated270)) := by
  rw [paintPixels, foldlM_some fun image (p : Int × Int) =>
    paintDrawPixel_rotate270 image p.1 p.2 colored, Image.drawAll_flatMap]

/-- Any points that are the same set are painted the same. -/
theorem paintPixels_of_same {image : Image} {colored : Int} {points pixels drawn : List (Int × Int)}
    (enumerates : ∀ p, p ∈ points ↔ p ∈ pixels)
    (same : ∀ q, q ∈ drawn ↔ q ∈ pixels.flatMap rotated270) :
    paintPixels image points colored = some (image.drawAll (colored ≠ 0) drawn) := by
  rw [paintPixels_eq, Option.some.injEq]
  apply Image.drawAll_congr
  intro q
  rw [same]
  simp only [List.mem_flatMap, enumerates]

/-! ### The loops reach the logical pixels -/

theorem mem_blockPoints {x y scale : Int} {i j : Nat} {q : Int × Int} :
    q ∈ blockPoints x y scale i j ↔ q ∈ ((forRange 0 scale).flatMap fun a =>
      (forRange 0 scale).map fun b => (x + i * scale + a, y + j * scale + b)).flatMap rotated270 := by
  have column : ((i : Int) + 1) * scale = i * scale + scale := by rw [Int.add_mul, Int.one_mul]
  have row : ((j : Int) + 1) * scale = j * scale + scale := by rw [Int.add_mul, Int.one_mul]
  simp only [blockPoints, List.mem_flatMap, List.mem_map, mem_forRange, column, row]
  constructor
  · rintro ⟨k, ⟨_, _⟩, l, ⟨_, _⟩, painted⟩
    refine ⟨(x + k, y + l), ⟨k - i * scale, ⟨by omega, by omega⟩, l - j * scale,
      ⟨by omega, by omega⟩, ?_⟩, painted⟩
    rw [Prod.mk.injEq]
    omega
  · rintro ⟨p, ⟨a, ⟨_, _⟩, b, ⟨_, _⟩, rfl⟩, painted⟩
    refine ⟨i * scale + a, ⟨by omega, by omega⟩, j * scale + b, ⟨by omega, by omega⟩, ?_⟩
    rwa [← Int.add_assoc, ← Int.add_assoc]

theorem mem_bitPoints {read : Nat → Option UInt8} {byteAt : Nat → UInt8} {start width i j : Nat}
    (x y scale : Int) (reads : read (start + j * rowBytes width + i / 8) =
      some (byteAt (start + j * rowBytes width + i / 8))) (q : Int × Int) :
    q ∈ bitPoints byteAt x y scale (start + j * rowBytes width) j i ↔
      q ∈ (if bitmapBit read start width i j then
        (forRange 0 scale).flatMap fun a => (forRange 0 scale).map fun b =>
          (x + i * scale + a, y + j * scale + b)
      else []).flatMap rotated270 := by
  rw [bitPoints, bitmapBit, reads, Option.any_some]
  split
  next => exact mem_blockPoints
  next => rfl

theorem mem_glyphPoints {read : Nat → Option UInt8} {byteAt : Nat → UInt8}
    {start width height : Nat} (x y scale : Int)
    (reads : ∀ j < height, ∀ i < width, read (start + j * rowBytes width + i / 8) =
      some (byteAt (start + j * rowBytes width + i / 8))) (q : Int × Int) :
    q ∈ glyphPoints byteAt x y scale width height start ↔
      q ∈ (bitmapPixels read start width height x y scale).flatMap rotated270 := by
  rw [glyphPoints, bitmapPixels, List.flatMap_assoc, List.mem_flatMap, List.mem_flatMap]
  apply exists_congr
  intro j
  apply and_congr_right
  intro row
  rw [List.flatMap_assoc, List.mem_flatMap, List.mem_flatMap]
  apply exists_congr
  intro i
  apply and_congr_right
  intro column
  exact mem_bitPoints x y scale (reads j (List.mem_range.mp row) i (List.mem_range.mp column)) q

theorem textPixels_cons (font : SFont) (c : UInt8) (text : List UInt8) (x y scale : Int) :
    textPixels font (c :: text) x y scale =
      bitmapPixels font.table (glyphStart font c) font.width font.height x y scale ++
        textPixels font text (x + font.width * scale) y scale := by
  rw [textPixels, List.length_cons, List.range_succ_eq_map, List.flatMap_cons, List.flatMap_map]
  congr 1
  · simp
  · apply List.flatMap_congr
    intro n _
    -- the rest of the text stands one character further right
    have corner : x + ((n + 1 : Nat) : Int) * font.width * scale =
        x + font.width * scale + n * font.width * scale := by
      push_cast
      rw [Int.add_mul, Int.add_mul, Int.one_mul]
      omega
    rw [corner, List.getD_cons_succ]

/-! ### Only the glyphs are read -/

theorem rowBytes_eq (width : Nat) : rowBytes width = (width + 7) / 8 := by
  rw [rowBytes]
  split <;> omega

theorem bitmapByte_lt {width height i j : Nat} (row : j < height) (column : i < width) :
    j * rowBytes width + i / 8 < height * rowBytes width := by
  have inRow : i / 8 < rowBytes width := by
    rw [rowBytes_eq]
    omega
  have rows : (j + 1) * rowBytes width ≤ height * rowBytes width := Nat.mul_le_mul_right _ row
  rw [Nat.succ_mul] at rows
  omega

/-- The bytes of a table, where it has any. -/
def SFont.byteAt (font : SFont) (offset : Nat) : UInt8 := (font.table offset).getD 0

/-- The font without the bytes outside of the text's glyphs. -/
def SFont.onlyGlyphs (font : SFont) (text : List UInt8) : SFont where
  table offset :=
    if ∃ c ∈ text, glyphStart font c ≤ offset ∧ offset < glyphStart font c + glyphBytes font then
      font.table offset
    else none
  width := font.width
  height := font.height

theorem HasGlyph.charOffset_eq {font : SFont} {c : UInt8} (glyph : HasGlyph font c) :
    charOffset c font = glyphStart font c := by
  have listed : ((c.toNat : Int) - 32) = ((c.toNat - 32 : Nat) : Int) := by
    have := glyph.listed
    omega
  have fits := glyph.noOverflow
  rw [charOffset, listed, ← Int.natCast_mul, ← Int.natCast_mul, ← glyphStart]
  omega

theorem HasGlyph.reads {font : SFont} {c : UInt8} (glyph : HasGlyph font c) {i j : Nat}
    (row : j < font.height) (column : i < font.width) :
    font.table (charOffset c font + j * rowBytes font.width + i / 8) =
      some (font.byteAt (charOffset c font + j * rowBytes font.width + i / 8)) := by
  have inside := glyph.held _ (bitmapByte_lt row column)
  rw [glyph.charOffset_eq, Nat.add_assoc, SFont.byteAt]
  exact (Option.some_get inside).symm.trans (by rw [Option.get_eq_getD])

/-- The bytes that are left are those that are read. -/
theorem HasGlyph.reads_onlyGlyphs {font : SFont} {c : UInt8} {text : List UInt8}
    (glyph : HasGlyph font c) (member : c ∈ text) {i j : Nat} (row : j < font.height)
    (column : i < font.width) :
    (font.onlyGlyphs text).table (charOffset c font + j * rowBytes font.width + i / 8) =
      some (font.byteAt (charOffset c font + j * rowBytes font.width + i / 8)) := by
  have inside := bitmapByte_lt row column
  rw [← glyph.reads row column, SFont.onlyGlyphs]
  refine if_pos ⟨c, member, ?_⟩
  rw [glyph.charOffset_eq, glyphBytes]
  omega

/-- The points are those of the bytes, whatever table they come from. -/
theorem stringPoints_congr {font font' : SFont} (width : font.width = font'.width)
    (height : font.height = font'.height) (byteAt : Nat → UInt8) (y scale x : Int)
    (text : List UInt8) :
    stringPoints byteAt font y scale x text = stringPoints byteAt font' y scale x text := by
  have offset : ∀ c, charOffset c font = charOffset c font' := by
    intro c
    rw [charOffset, charOffset, width, height]
  induction text generalizing x with
  | nil => rfl
  | cons c text ih => rw [stringPoints, stringPoints, ih, offset, width, height]

theorem mem_stringPoints {font : SFont} {text : List UInt8} (glyphs : ∀ c ∈ text, HasGlyph font c)
    (x y scale : Int) (q : Int × Int) : q ∈ stringPoints font.byteAt font y scale x text ↔
      q ∈ (textPixels font text x y scale).flatMap rotated270 := by
  induction text generalizing x with
  | nil => rfl
  | cons c text ih =>
    have glyph := glyphs c List.mem_cons_self
    have first := mem_glyphPoints x y scale (fun j row i column => glyph.reads row column) q
    have rest := ih (fun d member => glyphs d (List.mem_cons_of_mem _ member))
      (x + font.width * scale)
    rw [stringPoints, textPixels_cons, List.flatMap_append, List.mem_append, List.mem_append, rest,
      first, glyph.charOffset_eq]

/-- A text is painted as its logical pixels are, in any order. -/
theorem paintDrawString_eq_paintPixels {font : SFont} {text : List UInt8}
    (glyphs : ∀ c ∈ text, HasGlyph font c) (image : Image) (x y colored scale : Int)
    {points : List (Int × Int)} (enumerates : ∀ p, p ∈ points ↔ p ∈ textPixels font text x y scale) :
    ∃ painted, paintPixels image points colored = some painted ∧
      paintDrawString image x y text font colored scale = some painted ∧
      paintDrawString image x y text (font.onlyGlyphs text) colored scale = some painted := by
  refine ⟨_, paintPixels_of_same enumerates (mem_stringPoints glyphs x y scale), ?_, ?_⟩
  · exact paintDrawString_eq_of_reads
      (fun c member j row i column => (glyphs c member).reads row column) image x y colored scale
  · rw [← @stringPoints_congr (font.onlyGlyphs text) font rfl rfl]
    refine paintDrawString_eq_of_reads ?_ image x y colored scale
    intro c member j row i column
    exact (glyphs c member).reads_onlyGlyphs member row column

/-- An icon is painted as its logical pixels are, and only its 800 bytes are read. -/
theorem paintDrawIcon_eq_paintPixels {icon : Nat → Option UInt8}
    (held : ∀ k < 800, (icon k).isSome = true) (image : Image) (x y colored : Int)
    {points : List (Int × Int)} (enumerates : ∀ p, p ∈ points ↔ p ∈ bitmapPixels icon 0 80 80 x y 1) :
    ∃ painted, paintPixels image points colored = some painted ∧
      paintDrawIcon image x y icon colored = some painted ∧
      paintDrawIcon image x y (fun k => if k < 800 then icon k else none) colored = some painted := by
  have inside : ∀ j < 80, ∀ i < 80, 0 + j * rowBytes 80 + i / 8 < 800 := by
    intro j row i column
    have bound := bitmapByte_lt row column
    rw [Nat.zero_add]
    exact bound
  have reads : ∀ j < 80, ∀ i < 80, icon (0 + j * rowBytes 80 + i / 8) =
      some ((icon (0 + j * rowBytes 80 + i / 8)).getD 0) := by
    intro j row i column
    exact (Option.some_get (held _ (inside j row i column))).symm.trans (by rw [Option.get_eq_getD])
  refine ⟨_, paintPixels_of_same enumerates
    (@mem_glyphPoints icon (fun k => (icon k).getD 0) 0 80 80 x y 1 reads), ?_, ?_⟩
  · exact paintGlyph_eq (fun k => (icon k).getD 0) x y colored 1 reads image
  · refine paintGlyph_eq (fun k => (icon k).getD 0) x y colored 1 ?_ image
    intro j row i column
    rw [if_pos (inside j row i column)]
    exact reads j row i column

/-- Texts and icons are painted as the set of their logical pixels, in any order, and no byte
outside of their bitmaps is read. -/
theorem textAndIcon_eq_paintPixels :
    (∀ (font : SFont) (text : List UInt8) (image : Image) (x y colored scale : Int)
      (points : List (Int × Int)), (∀ c ∈ text, HasGlyph font c) →
      (∀ p, p ∈ points ↔ p ∈ textPixels font text x y scale) →
      ∃ painted, paintPixels image points colored = some painted ∧
        paintDrawString image x y text font colored scale = some painted ∧
        paintDrawString image x y text (font.onlyGlyphs text) colored scale = some painted) ∧
    ∀ (icon : Nat → Option UInt8) (image : Image) (x y colored : Int) (points : List (Int × Int)),
      (∀ k < 800, (icon k).isSome = true) →
      (∀ p, p ∈ points ↔ p ∈ bitmapPixels icon 0 80 80 x y 1) →
      ∃ painted, paintPixels image points colored = some painted ∧
        paintDrawIcon image x y icon colored = some painted ∧
        paintDrawIcon image x y (fun k => if k < 800 then icon k else none) colored = some painted :=
  ⟨fun _ _ image x y colored scale _ glyphs enumerates =>
      paintDrawString_eq_paintPixels glyphs image x y colored scale enumerates,
    fun _ image x y colored _ held enumerates =>
      paintDrawIcon_eq_paintPixels held image x y colored enumerates⟩

theorem hasGlyph_font12 (flash : Nat → UInt8) {c : UInt8} (listed : 32 ≤ c.toNat) :
    HasGlyph (font12 flash) c where
  listed := listed
  noOverflow := by
    have byte := c.toNat_lt
    have row : rowBytes 7 = 1 := rfl
    simp only [glyphStart, font12, row]
    omega
  held := fun _ _ => rfl

/-- The letters PM in blocks of two by two pixels, and an icon with all bits set, painted from the
last pixel to the first. -/
theorem textAndIcon_eq_paintPixels_pm :
    (∃ painted, paintPixels blankImage (textPixels (font12 fun _ => 0) [80, 77] 10 20 2).reverse
        coloured = some painted ∧
      paintDrawString blankImage 10 20 [80, 77] (font12 fun _ => 0) coloured 2 = some painted) ∧
    ∃ painted, paintPixels blankImage (bitmapPixels (fun _ => some 255) 0 80 80 5 7 1).reverse coloured =
      some painted ∧ paintDrawIcon blankImage 5 7 (fun _ => some 255) coloured = some painted := by
  constructor
  · have glyphs : ∀ c ∈ ([80, 77] : List UInt8), HasGlyph (font12 fun _ => 0) c := by
      intro c member
      apply hasGlyph_font12
      simp only [List.mem_cons, List.not_mem_nil, or_false] at member
      rcases member with rfl | rfl
      · decide
      · decide
    obtain ⟨painted, points, text, _⟩ := textAndIcon_eq_paintPixels.1 (font12 fun _ => 0) [80, 77]
      blankImage 10 20 coloured 2 _ glyphs (fun _ => List.mem_reverse)
    exact ⟨painted, points, text⟩
  · obtain ⟨painted, points, icon, _⟩ := textAndIcon_eq_paintPixels.2 (fun _ => some 255) blankImage
      5 7 coloured _ (fun _ _ => rfl) (fun _ => List.mem_reverse)
    exact ⟨painted, points, icon⟩

end EpaperClock
