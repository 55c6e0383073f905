import EpaperClock.Eink
import EpaperClock.Library.Canvas

/-! What the panel receives is what was painted. -/
namespace EpaperClock

open Bitmap Canvas

/-! ### Painting -/

/-- A call of one of the functions that paint without a rotation. -/
inductive PaintCall where
  | paintClear (buffer : FrameBuffer) (colored : Int)
  | paintDrawAbsolutePixel (buffer : FrameBuffer) (x y colored : Int)
  | paintDrawPixel (buffer : FrameBuffer) (x y colored : Int)

def paintStep (frames : Frames) : PaintCall → Option Frames
  | .paintClear buffer colored =>
    (paintClear (frames.get buffer) colored).map (frames.set buffer)
  | .paintDrawAbsolutePixel buffer x y colored =>
    (paintDrawAbsolutePixel (frames.get buffer) x y colored).map (frames.set buffer)
  | .paintDrawPixel buffer x y colored =>
    (paintDrawPixel (frames.get buffer) x y colored .rotate0).map (frames.set buffer)

/-- A pixel of one of the two planes. -/
abbrev PlanePixel : Type := FrameBuffer × Int × Int

/-- The pixels that a call affects, and whether it paints them coloured. -/
def PaintCall.stroke : PaintCall → Stroke PlanePixel Bool
  | .paintClear buffer colored => ⟨fun p => p.1 = buffer, colored ≠ 0⟩
  | .paintDrawAbsolutePixel buffer x y colored => ⟨fun p => p = (buffer, x, y), colored ≠ 0⟩
  | .paintDrawPixel buffer x y colored => ⟨fun p => p = (buffer, x, y), colored ≠ 0⟩

/-- The call has coordinates, and they lie outside of the panel. -/
def PaintCall.Outside : PaintCall → Prop
  | .paintClear _ _ => False
  | .paintDrawAbsolutePixel _ x y _ => ¬OnPanel (x, y)
  | .paintDrawPixel _ x y _ => ¬OnPanel (x, y)

def Frames.pixel (frames : Frames) (p : PlanePixel) : Bool := (frames.get p.1).pixel p.2

theorem paintDrawPixel_rotate0 (image : Image) (x y colored : Int) :
    paintDrawPixel image x y colored .rotate0 = some (image.draw (colored ≠ 0) (x, y)) := by
  by_cases canvas : OnCanvas .rotate0 (x, y)
  · exact paintDrawPixel_inside canvas image colored
  · rw [@paintDrawPixel_outside .rotate0 (x, y) canvas, Image.draw_of_not_onPanel _ _ canvas]

theorem pixel_set_draw (frames : Frames) (buffer : FrameBuffer) (on : Bool) (x y : Int)
    {p : PlanePixel} (panel : OnPanel p.2) :
    (frames.set buffer ((frames.get buffer).draw on (x, y))).pixel p =
      if p = (buffer, x, y) then on else frames.pixel p := by
  obtain ⟨other, q⟩ := p
  simp only [Frames.pixel, Frames.get_set, Prod.mk.injEq]
  by_cases same : other = buffer
  · subst same
    simp [Image.pixel_draw on _ _ panel]
  · simp [same]

/-- Every call returns, and paints exactly its own pixels. -/
theorem paintStep_stroke (frames : Frames) (call : PaintCall) :
    ∃ frames', paintStep frames call = some frames' ∧
      ∀ p : PlanePixel, OnPanel p.2 → frames'.pixel p = call.stroke.paint frames.pixel p := by
  cases call with
  | paintClear buffer colored =>
    obtain ⟨image, cleared⟩ : ∃ image, paintClear (frames.get buffer) colored = some image :=
      ⟨_, paintClear_eq _ _⟩
    refine ⟨_, by rw [paintStep, cleared, Option.map_some], ?_⟩
    rintro ⟨other, q⟩ panel
    simp only [Frames.pixel, Frames.get_set, PaintCall.stroke, Stroke.paint]
    by_cases same : other = buffer
    · simpa [same] using pixel_paintClear cleared panel
    · simp [same]
  | paintDrawAbsolutePixel buffer x y colored =>
    refine ⟨_, by rw [paintStep, paintDrawAbsolutePixel_eq, Option.map_some], ?_⟩
    intro p panel
    simp [pixel_set_draw frames buffer _ x y panel, PaintCall.stroke, Stroke.paint]
  | paintDrawPixel buffer x y colored =>
    refine ⟨_, by rw [paintStep, paintDrawPixel_rotate0, Option.map_some], ?_⟩
    intro p panel
    simp [pixel_set_draw frames buffer _ x y panel, PaintCall.stroke, Stroke.paint]

theorem paintStep_outside (frames : Frames) {call : PaintCall} (outside : call.Outside) :
    paintStep frames call = some frames := by
  cases call with
  | paintClear buffer colored => exact outside.elim
  | paintDrawAbsolutePixel buffer x y colored =>
    rw [paintStep, paintDrawAbsolutePixel_eq, Image.draw_of_not_onPanel _ _ outside]
    simp
  | paintDrawPixel buffer x y colored =>
    rw [paintStep, paintDrawPixel_rotate0, Image.draw_of_not_onPanel _ _ outside]
    simp

/-! ### What the panel makes of a transcript -/

/-- The commands with the data bytes behind each, after the data bytes in front of the first. -/
def groupCommands : List SpiByte → List UInt8 × List (UInt8 × List UInt8)
  | [] => ([], [])
  | byte :: rest =>
    let (data, groups) := groupCommands rest
    if byte.dc then (byte.data :: data, groups) else ([], (byte.data, data) :: groups)

/-- A picture of two planes, row by row. -/
structure PanelPicture where
  width : Nat
  height : Nat
  black : List UInt8
  red : List UInt8

def decodePicture (bytes : List SpiByte) : Option PanelPicture := do
  let groups := (groupCommands bytes).2
  let resolution ← groups.lookup 0x61
  let black ← groups.lookup 0x10
  let red ← groups.lookup 0x13
  match resolution with
  | [widthHigh, widthLow, heightHigh, heightLow] =>
    some ⟨widthHigh.toNat * 256 + widthLow.toNat, heightHigh.toNat * 256 + heightLow.toNat, black, red⟩
  | _ => none

def PanelPicture.plane (picture : PanelPicture) : FrameBuffer → List UInt8
  | .imgBuffer => picture.black
  | .colorBuffer => picture.red

/-- Eight pixels to a byte, the leftmost in the most significant bit. -/
def PanelPicture.pixel (picture : PanelPicture) (buffer : FrameBuffer) (x y : Nat) : Bool :=
  readBit ((picture.plane buffer).getD (y * (picture.width / 8) + x / 8) 0) (x % 8)

theorem groupCommands_data (data : List UInt8) (rest : List SpiByte) :
    groupCommands (data.map (⟨true, ·⟩) ++ rest) =
      (data ++ (groupCommands rest).1, (groupCommands rest).2) := by
  induction data with
  | nil => rfl
  | cons d data ih => simp [groupCommands, ih]

theorem groupCommands_command (command : UInt8) (data : List UInt8) (rest : List SpiByte) :
    groupCommands (⟨false, command⟩ :: data.map (⟨true, ·⟩) ++ rest) =
      ([], (command, data ++ (groupCommands rest).1) :: (groupCommands rest).2) := by
  simp [groupCommands, groupCommands_data]

theorem decodePicture_frameOps (black red : Image) :
    decodePicture (transcript (frameOps black red)) =
      some ⟨176, 264, black.bytes, red.bytes⟩ := by
  have bytes : transcript (frameOps black red) =
      ⟨false, 0x61⟩ :: [(0 : UInt8), 176, 1, 8].map (⟨true, ·⟩) ++
        (⟨false, 0x10⟩ :: black.bytes.map (⟨true, ·⟩) ++
          (⟨false, 0x13⟩ :: red.bytes.map (⟨true, ·⟩) ++ [⟨false, 0x12⟩])) := by
    simp only [frameOps, sendResolution, transcript_append, List.cons_append, List.nil_append,
      List.append_assoc, transcript_command, transcript_data, transcript_map_data, List.map_cons,
      List.map_nil]
    rfl
  rw [decodePicture, bytes, groupCommands_command, groupCommands_command, groupCommands_command]
  simp [groupCommands]
  rfl

/-- The panel's rows of 22 bytes are the rows of the buffers. -/
theorem PanelPicture.pixel_eq (frames : Frames) (buffer : FrameBuffer) {x y : Nat} (column : x < 176) :
    PanelPicture.pixel ⟨176, 264, frames.imgBuffer.bytes, frames.colorBuffer.bytes⟩ buffer x y =
      frames.pixel (buffer, x, y) := by
  have address : ((x : Int) + (y : Int) * 176).toNat = x + y * 176 := by omega
  have byte : y * (176 / 8) + x / 8 = (x + y * 176) / 8 := by omega
  have bit : x % 8 = (x + y * 176) % 8 := by omega
  simp only [PanelPicture.pixel, Frames.pixel, Image.pixel, getBit, address, byte, ← bit]
  cases buffer <;> rfl

/-- After any calls, the idle panel is sent two planes that show for every pixel the last call
that affects it; calls outside of the panel affect nothing. -/
theorem displayed_frame (frames : Frames) :
    (∀ calls : List PaintCall, ∃ frames' ops picture,
      calls.foldlM paintStep frames = some frames' ∧
      einkDisplayFrameFromBufferNonBlocking false (some frames'.imgBuffer)
        (some frames'.colorBuffer) = some (0, ops) ∧
      decodePicture (transcript ops) = some picture ∧
      picture.width = 176 ∧ picture.height = 264 ∧
      (∀ buffer, (picture.plane buffer).length = 5808) ∧
      ∀ buffer (x y : Nat), x < 176 → y < 264 → picture.pixel buffer x y =
        (lastColour (calls.map PaintCall.stroke) (buffer, x, y)).getD
          (frames.pixel (buffer, x, y))) ∧
    ∀ call : PaintCall, call.Outside → paintStep frames call = some frames := by
  constructor
  · intro calls
    obtain ⟨frames', ran, painted⟩ := foldlM_paint Frames.pixel (fun p => OnPanel p.2)
      PaintCall.stroke paintStep_stroke frames calls
    refine ⟨frames', _, _, ran, einkDisplayFrameFromBufferNonBlocking_idle _ _,
      decodePicture_frameOps _ _, rfl, rfl, ?_, ?_⟩
    · intro buffer
      cases buffer with
      | imgBuffer => exact frames'.imgBuffer.size
      | colorBuffer => exact frames'.colorBuffer.size
    · intro buffer x y column row
      have panel : OnPanel ((x : Int), (y : Int)) := by
        simp only [OnPanel]
        omega
      rw [PanelPicture.pixel_eq frames' buffer column]
      exact painted (buffer, x, y) panel
  · intro call outside
    exact paintStep_outside frames outside

end EpaperClock
