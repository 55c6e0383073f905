import EpaperClock.Eink
import EpaperClock.Font12
import EpaperClock.Formatting

/-! The frame that `updateData` composes. -/
namespace EpaperClock

open Bitmap

/-- The bitmaps of `icons.h`. -/
inductive Icon where
  | sun
  | moon
  | snow
  | partcloudyCloud
  | partcloudySun
  | partcloudyMoon
  | lightrainCloud
  | lightrainSun
  | lightrainMoon
  | thunderBolt
  | thunderCloud
  | rain
  | fog
  | cloudy
  deriving DecidableEq, Repr

structure IconSet where
  bytes : Icon → List UInt8
  size : ∀ icon, (bytes icon).length = 800

/-- The icons of a weather code, in the order in which they are drawn. -/
def weatherIcons (iconCode : Bytes) : List (FrameBuffer × Icon) :=
  if iconCode = ascii "01d" then [(.colorBuffer, .sun)]
  else if iconCode = ascii "01n" then [(.imgBuffer, .moon)]
  else if iconCode = ascii "02d" then [(.imgBuffer, .partcloudyCloud), (.colorBuffer, .partcloudySun)]
  else if iconCode = ascii "02n" then [(.imgBuffer, .partcloudyCloud), (.imgBuffer, .partcloudyMoon)]
  else if iconCode = ascii "03d" ∨ iconCode = ascii "03n" then [(.imgBuffer, .partcloudyCloud)]
  else if iconCode = ascii "04d" ∨ iconCode = ascii "04n" then [(.imgBuffer, .cloudy)]
  else if iconCode = ascii "09d" then [(.imgBuffer, .lightrainCloud), (.colorBuffer, .lightrainSun)]
  else if iconCode = ascii "09n" then [(.imgBuffer, .lightrainCloud), (.imgBuffer, .lightrainMoon)]
  else if iconCode = ascii "10d" ∨ iconCode = ascii "10n" then [(.imgBuffer, .rain)]
  else if iconCode = ascii "11d" ∨ iconCode = ascii "11n" then
    [(.imgBuffer, .thunderCloud), (.colorBuffer, .thunderBolt)]
  else if iconCode = ascii "13d" ∨ iconCode = ascii "13n" then [(.imgBuffer, .snow)]
  else if iconCode = ascii "50d" ∨ iconCode = ascii "50n" then [(.imgBuffer, .fog)]
  -- red snow as a placeholder for a missing icon
  else [(.colorBuffer, .snow)]

def drawWeather (icons : IconSet) (frames : Frames) (x y : Int) (iconCode : Bytes) : Option Frames :=
  (weatherIcons iconCode).foldlM (fun frames drawn =>
    (paintDrawIcon (frames.get drawn.1) x y (fun i => (icons.bytes drawn.2)[i]?) coloured).map
      (frames.set drawn.1)) frames

/-- The strings in the three weather globals. -/
structure Weather where
  temperatureStr : Bytes
  iconStr : Bytes
  weatherStr : Bytes
  deriving DecidableEq

/-- What `updateData` paints between the panel functions. -/
def composeFrame (icons : IconSet) (font : SFont) (timeinfo : Tm) (weather : Weather)
    (temperatureBuf : Bytes) (frames : Frames) : Option Frames := do
  let digitScale : Int := 7
  let timeBuf := timeText timeinfo
  let dateBuf := dateText timeinfo
  let image := frames.imgBuffer
  let image ← paintDrawString image (timeBuf.length * 7 * digitScale - 9) 25
    (if timeinfo.tmHour > 11 then ascii "PM" else ascii "AM") font coloured 2
  let image ← paintDrawString image 4 0 dateBuf font coloured 2
  let image ← paintDrawString image (-3) 20 timeBuf font coloured digitScale
  let image ← paintDrawString image 80 93 temperatureBuf font coloured 5
  let frames ← drawWeather icons { frames with imgBuffer := image } 0 80 weather.iconStr
  let weatherStrScale : Int := if weather.weatherStr.length ≤ 18 then 2 else 1
  let image ← paintDrawString frames.imgBuffer 4 150 weather.weatherStr font coloured weatherStrScale
  some { frames with imgBuffer := image }

/-! ### A frame is painted over what was there -/

/-- The second frames are the first ones with more pixels on. -/
def Frames.Under (frames painted : Frames) : Prop :=
  ∀ buffer p, OnPanel p → (frames.get buffer).pixel p = true → (painted.get buffer).pixel p = true

theorem Frames.Under.refl (frames : Frames) : frames.Under frames := fun _ _ _ on => on

theorem Frames.Under.trans {first second third : Frames} (below : first.Under second)
    (above : second.Under third) : first.Under third :=
  fun buffer p panel on => above buffer p panel (below buffer p panel on)

theorem Frames.under_set_drawAll (frames : Frames) (buffer : FrameBuffer)
    (points : List (Int × Int)) :
    frames.Under (frames.set buffer ((frames.get buffer).drawAll true points)) := by
  intro other p panel on
  rw [Frames.get_set]
  split
  next same =>
    rw [Image.pixel_drawAll _ _ _ panel, ← same]
    simp [on]
  next => exact on

theorem paintDrawIcon_eq (icons : IconSet) (icon : Icon) (image : Image) (x y colored : Int) :
    ∃ points, paintDrawIcon image x y (fun i => (icons.bytes icon)[i]?) colored =
      some (image.drawAll (colored ≠ 0) points) := by
  refine ⟨_, paintGlyph_eq (fun i => (icons.bytes icon).getD i 0) x y colored 1 ?_ image⟩
  intro j row i column
  have rowBytes_eq : rowBytes 80 = 10 := rfl
  have inside : 0 + j * rowBytes 80 + i / 8 < (icons.bytes icon).length := by
    rw [icons.size, rowBytes_eq]
    omega
  rw [List.getElem?_eq_getElem inside, List.getD_eq_getElem _ _ inside]

theorem drawWeather_under (icons : IconSet) (frames : Frames) (x y : Int) (iconCode : Bytes) :
    ∃ painted, drawWeather icons frames x y iconCode = some painted ∧ frames.Under painted := by
  rw [drawWeather]
  generalize weatherIcons iconCode = drawn
  induction drawn generalizing frames with
  | nil => exact ⟨frames, rfl, .refl frames⟩
  | cons head drawn ih =>
    obtain ⟨buffer, icon⟩ := head
    obtain ⟨points, done⟩ := paintDrawIcon_eq icons icon (frames.get buffer) x y coloured
    obtain ⟨painted, rest, above⟩ := ih (frames.set buffer ((frames.get buffer).drawAll true points))
    refine ⟨painted, ?_, (frames.under_set_drawAll buffer points).trans above⟩
    rw [List.foldlM_cons, done]
    exact rest

theorem paintDrawString_under (flash : Nat → UInt8) (frames : Frames) (x y scale : Int)
    (text : Bytes) : ∃ image,
      paintDrawString frames.imgBuffer x y text (font12 flash) coloured scale = some image ∧
        frames.Under { frames with imgBuffer := image } ∧
        ∀ p ∈ stringPoints (fun offset => font12Table.getD offset (flash offset)) (font12 flash) y
          scale x text, OnPanel p → image.pixel p = true := by
  refine ⟨_, paintDrawString_eq (fun _ => rfl) frames.imgBuffer x y coloured scale text,
    frames.under_set_drawAll .imgBuffer _, ?_⟩
  intro p painted panel
  rw [Image.pixel_drawAll _ _ _ panel, if_pos painted]
  rfl

/-- A pixel of the second letter of AM and PM. -/
theorem mem_stringPoints_meridiem (flash : Nat → UInt8) {digits : Nat} (short : digits ≤ 5)
    (first : UInt8) : ((31 : Int), 264 - ((digits : Int) * 7 * 7 + 7)) ∈
      stringPoints (fun offset => font12Table.getD offset (flash offset)) (font12 flash) 25 2
        (digits * 7 * 7 - 9) [first, 77] := by
  have row : font12Table[543]? = some 0x6C := by decide +kernel
  have letter : readBit (font12Table.getD (540 + 3 * rowBytes 7 + 1 / 8)
      (flash (540 + 3 * rowBytes 7 + 1 / 8))) (1 % 8) = true := by
    have address : 540 + 3 * rowBytes 7 + 1 / 8 = 543 := rfl
    rw [address, List.getD_eq_getElem?_getD, row, Option.getD_some]
    decide
  have offset : charOffset 77 (font12 flash) = 540 := by
    simp [charOffset, font12, rowBytes]
  have width : (font12 flash).width = 7 := rfl
  have height : (font12 flash).height = 12 := rfl
  simp only [stringPoints, List.append_nil, offset, width, height]
  -- row 3, column 1 of the M
  apply List.mem_append_right
  refine List.mem_flatMap.mpr ⟨3, List.mem_range.mpr (by decide), ?_⟩
  refine List.mem_flatMap.mpr ⟨1, List.mem_range.mpr (by decide), ?_⟩
  rw [bitPoints, if_pos letter]
  refine List.mem_flatMap.mpr ⟨2, mem_forRange.mpr (by decide), ?_⟩
  refine List.mem_flatMap.mpr ⟨6, mem_forRange.mpr (by decide), ?_⟩
  rw [rotated270, if_pos (by omega)]
  simp only [List.mem_singleton, Prod.mk.injEq]
  omega

/-- Whatever the texts are, a frame is composed, over what was there, and it has ink. -/
theorem composeFrame_under (icons : IconSet) (flash : Nat → UInt8) (time : Int) (weather : Weather)
    (temperatureBuf : Bytes) (frames : Frames) : ∃ painted,
      composeFrame icons (font12 flash) (gmtime time) weather temperatureBuf frames = some painted ∧
        frames.Under painted ∧ ∃ p, OnPanel p ∧ painted.imgBuffer.pixel p = true := by
  have short : (timeText (gmtime time)).length ≤ 5 := Nat.le_of_succ_le_succ (timeText_fits time)
  obtain ⟨first, meridiem⟩ : ∃ first, (if (gmtime time).tmHour > 11 then ascii "PM" else ascii "AM") =
      [first, 77] := by
    split
    · exact ⟨80, rfl⟩
    · exact ⟨65, rfl⟩
  obtain ⟨image₁, done₁, under₁, ink⟩ := paintDrawString_under flash frames
    ((timeText (gmtime time)).length * 7 * 7 - 9) 25 2 [first, 77]
  obtain ⟨image₂, done₂, under₂, _⟩ := paintDrawString_under flash
    { frames with imgBuffer := image₁ } 4 0 2 (dateText (gmtime time))
  obtain ⟨image₃, done₃, under₃, _⟩ := paintDrawString_under flash
    { frames with imgBuffer := image₂ } (-3) 20 7 (timeText (gmtime time))
  obtain ⟨image₄, done₄, under₄, _⟩ := paintDrawString_under flash
    { frames with imgBuffer := image₃ } 80 93 5 temperatureBuf
  obtain ⟨frames₅, done₅, under₅⟩ := drawWeather_under icons { frames with imgBuffer := image₄ } 0 80
    weather.iconStr
  obtain ⟨image₆, done₆, under₆, _⟩ := paintDrawString_under flash frames₅ 4 150
    (if weather.weatherStr.length ≤ 18 then 2 else 1) weather.weatherStr
  have later : Frames.Under { frames with imgBuffer := image₁ } { frames₅ with imgBuffer := image₆ } :=
    under₂.trans (under₃.trans (under₄.trans (under₅.trans under₆)))
  refine ⟨{ frames₅ with imgBuffer := image₆ }, ?_, under₁.trans later, _, ?_,
    later .imgBuffer _ ?_ (ink _ (mem_stringPoints_meridiem flash short first) ?_)⟩
  · simp only [composeFrame, meridiem, done₁, done₂, done₃, done₄, done₅, done₆, Option.bind_eq_bind,
      Option.bind_some]
  all_goals
    simp only [OnPanel]
    omega

end EpaperClock
