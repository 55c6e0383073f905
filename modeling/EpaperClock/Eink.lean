import EpaperClock.Paint
import EpaperClock.UpdateData

/-! The panel functions of `eink_control.c`: what they send and where they wait. -/
namespace EpaperClock

/-- A byte on the SPI bus, with the level of the DC pin: low for a command. -/
structure SpiByte where
  dc : Bool
  data : UInt8
  deriving DecidableEq, Repr

/-- One access to the panel; the delays between them are left out. -/
inductive EinkOp where
  | spiWrite (byte : SpiByte)
  -- poll the BUSY pin until it is high
  | waitUntilIdle
  deriving DecidableEq, Repr

def einkSendCommand (data : UInt8) : EinkOp := .spiWrite ⟨false, data⟩

def einkSendData (data : UInt8) : EinkOp := .spiWrite ⟨true, data⟩

def einkWaitUntilIdle : EinkOp := .waitUntilIdle

abbrev panelSetting : UInt8 := 0x00
abbrev dataStartTransmission1 : UInt8 := 0x10
abbrev displayRefresh : UInt8 := 0x12
abbrev dataStartTransmission2 : UInt8 := 0x13
abbrev lutForVcom : UInt8 := 0x20
abbrev lutWhiteToWhite : UInt8 := 0x21
abbrev lutBlackToWhite : UInt8 := 0x22
abbrev lutWhiteToBlack : UInt8 := 0x23
abbrev lutBlackToBlack : UInt8 := 0x24
abbrev tconResolution : UInt8 := 0x61
abbrev fastRefreshSetting : UInt8 := 0xaf
abbrev fullRefreshSetting : UInt8 := 0x8f

def lutVcomDc : List UInt8 :=
  [0x00, 0x00,
    0x00, 0x1A, 0x1A, 0x00, 0x00, 0x01,
    0x00, 0x0A, 0x0A, 0x00, 0x00, 0x01,
    0x00, 0x0E, 0x01, 0x0E, 0x01, 0x01,
    0x00, 0x0A, 0x0A, 0x00, 0x00, 0x01,
    0x00, 0x04, 0x10, 0x00, 0x00, 0x01,
    0x00, 0x03, 0x0E, 0x00, 0x00, 0x09,
    0x00, 0x23, 0x00, 0x00, 0x00, 0x01]

def lutWw : List UInt8 :=
  [0x90, 0x1A, 0x1A, 0x00, 0x00, 0x01,
    0x40, 0x0A, 0x0A, 0x00, 0x00, 0x01,
    0x84, 0x0E, 0x01, 0x0E, 0x01, 0x01,
    0x80, 0x0A, 0x0A, 0x00, 0x00, 0x01,
    0x00, 0x04, 0x10, 0x00, 0x00, 0x01,
    0x00, 0x03, 0x0E, 0x00, 0x00, 0x09,
    0x00, 0x23, 0x00, 0x00, 0x00, 0x01]

def lutBw : List UInt8 :=
  [0xA0, 0x1A, 0x1A, 0x00, 0x00, 0x01,
    0x00, 0x0A, 0x0A, 0x00, 0x00, 0x01,
    0x84, 0x0E, 0x01, 0x0E, 0x01, 0x01,
    0x90, 0x0A, 0x0A, 0x00, 0x00, 0x01,
    0xB0, 0x04, 0x10, 0x00, 0x00, 0x01,
    0xB0, 0x03, 0x0E, 0x00, 0x00, 0x09,
    0xC0, 0x23, 0x00, 0x00, 0x00, 0x01]

def lutBb : List UInt8 :=
  [0x90, 0x1A, 0x1A, 0x00, 0x00, 0x01,
    0x40, 0x0A, 0x0A, 0x00, 0x00, 0x01,
    0x84, 0x0E, 0x01, 0x0E, 0x01, 0x01,
    0x80, 0x0A, 0x0A, 0x00, 0x00, 0x01,
    0x00, 0x04, 0x10, 0x00, 0x00, 0x01,
    0x00, 0x03, 0x0E, 0x00, 0x00, 0x09,
    0x00, 0x23, 0x00, 0x00, 0x00, 0x01]

def lutWb : List UInt8 :=
  [0x90, 0x1A, 0x1A, 0x00, 0x00, 0x01,
    0x20, 0x0A, 0x0A, 0x00, 0x00, 0x01,
    0x84, 0x0E, 0x01, 0x0E, 0x01, 0x01,
    0x10, 0x0A, 0x0A, 0x00, 0x00, 0x01,
    0x00, 0x04, 0x10, 0x00, 0x00, 0x01,
    0x00, 0x03, 0x0E, 0x00, 0x00, 0x09,
    0x00, 0x23, 0x00, 0x00, 0x00, 0x01]

def einkSetLut : List EinkOp :=
  einkSendCommand lutForVcom :: lutVcomDc.map einkSendData ++
  einkSendCommand lutWhiteToWhite :: lutWw.map einkSendData ++
  einkSendCommand lutBlackToWhite :: lutBw.map einkSendData ++
  einkSendCommand lutWhiteToBlack :: lutBb.map einkSendData ++
  einkSendCommand lutBlackToBlack :: lutWb.map einkSendData

def einkSetRefreshMode : RefreshMode → List EinkOp
  | .fastRefresh => einkSendCommand panelSetting :: einkSendData fastRefreshSetting :: einkSetLut
  | .fullRefresh => [einkSendCommand panelSetting, einkSendData fullRefreshSetting]

/-- `EPD_WIDTH * EPD_HEIGHT / 8`. -/
def frameBytes : Nat := epdWidth * epdHeight / 8

theorem frameBytes_eq : frameBytes = 5808 := rfl

def sendResolution : List EinkOp :=
  [einkSendCommand tconResolution,
    einkSendData (UInt8.ofNat (epdWidth >>> 8)), einkSendData (UInt8.ofNat (epdWidth &&& 0xff)),
    einkSendData (UInt8.ofNat (epdHeight >>> 8)), einkSendData (UInt8.ofNat (epdHeight &&& 0xff))]

def einkClearFrame : List EinkOp :=
  sendResolution ++
  einkSendCommand dataStartTransmission1 ::
    List.replicate frameBytes (einkSendData 0x00) ++
  einkSendCommand dataStartTransmission2 ::
    List.replicate frameBytes (einkSendData 0x00)

/-- The loop over one frame buffer; a NULL pointer skips it. -/
def sendBuffer (command : UInt8) : Option Image → Option (List EinkOp)
  | none => some []
  | some frameBuffer => do
    let bytes ← (List.range frameBytes).mapM fun i => frameBuffer.bytes[i]?
    some (einkSendCommand command :: bytes.map einkSendData)

/-- What the non-blocking function sends. -/
def sendFrame (frameBufferBlack frameBufferRed : Option Image) : Option (List EinkOp) := do
  let black ← sendBuffer dataStartTransmission1 frameBufferBlack
  let red ← sendBuffer dataStartTransmission2 frameBufferRed
  some (sendResolution ++ black ++ red ++ [einkSendCommand displayRefresh])

/-- The result and the accesses, for the level of the BUSY pin that is read first. -/
def einkDisplayFrameFromBufferNonBlocking (isBusy : Bool)
    (frameBufferBlack frameBufferRed : Option Image) : Option (Nat × List EinkOp) :=
  if isBusy then some (1, [])
  else (sendFrame frameBufferBlack frameBufferRed).map fun ops => (0, ops)

/-- The function has a copy of its own of the loops. -/
def einkDisplayFrameFromBufferBlocking (frameBufferBlack frameBufferRed : Option Image) :
    Option (List EinkOp) := do
  let black ← match frameBufferBlack with
    | none => some []
    | some frameBuffer => do
      let data ← (List.range (epdWidth * epdHeight / 8)).mapM fun i =>
        (frameBuffer.bytes[i]?).map einkSendData
      some (einkSendCommand dataStartTransmission1 :: data)
  let red ← match frameBufferRed with
    | none => some []
    | some frameBuffer => do
      let data ← (List.range (epdWidth * epdHeight / 8)).mapM fun i =>
        (frameBuffer.bytes[i]?).map einkSendData
      some (einkSendCommand dataStartTransmission2 :: data)
  some (einkSendCommand tconResolution :: einkSendData (UInt8.ofNat (epdWidth >>> 8)) ::
    einkSendData (UInt8.ofNat (epdWidth &&& 0xff)) :: einkSendData (UInt8.ofNat (epdHeight >>> 8)) ::
    einkSendData (UInt8.ofNat (epdHeight &&& 0xff)) :: black ++ red ++
    [einkSendCommand displayRefresh, einkWaitUntilIdle])

def einkDisplayFrameFromSRAMBlocking : List EinkOp :=
  [einkSendCommand displayRefresh, einkWaitUntilIdle]

/-- The bytes that accesses put on the bus. -/
def transcript (ops : List EinkOp) : List SpiByte :=
  ops.filterMap fun
    | .spiWrite byte => some byte
    | .waitUntilIdle => none

theorem transcript_append (first second : List EinkOp) :
    transcript (first ++ second) = transcript first ++ transcript second :=
  List.filterMap_append

@[simp] theorem transcript_command (command : UInt8) (ops : List EinkOp) :
    transcript (einkSendCommand command :: ops) = ⟨false, command⟩ :: transcript ops := rfl

@[simp] theorem transcript_data (data : UInt8) (ops : List EinkOp) :
    transcript (einkSendData data :: ops) = ⟨true, data⟩ :: transcript ops := rfl

@[simp] theorem transcript_map_data (bytes : List UInt8) :
    transcript (bytes.map einkSendData) = bytes.map (⟨true, ·⟩) := by
  induction bytes with
  | nil => rfl
  | cons b bytes ih => rw [List.map_cons, transcript_data, ih, List.map_cons]

/-! ### Both buffers are read in bounds -/

theorem mapM_map_range {α β : Type} (f : α → β) (bytes : List α) :
    (List.range bytes.length).mapM (fun i => (bytes[i]?).map f) = some (bytes.map f) := by
  induction bytes with
  | nil => rfl
  | cons b bytes ih =>
    have shifted : (fun i => ((b :: bytes)[i]?).map f) ∘ Nat.succ = fun i => (bytes[i]?).map f := rfl
    rw [List.length_cons, List.range_succ_eq_map, List.mapM_cons, List.mapM_map, shifted, ih]
    rfl

theorem sendBuffer_eq (command : UInt8) (image : Image) : sendBuffer command (some image) =
    some (einkSendCommand command :: image.bytes.map einkSendData) := by
  have read := mapM_map_range id image.bytes
  simp only [Option.map_id_fun, id_eq, List.map_id_fun, image.size, ← frameBytes_eq] at read
  rw [sendBuffer, read]
  rfl

/-- A frame as it is sent: resolution, black plane, red plane, refresh. -/
def frameOps (black red : Image) : List EinkOp :=
  sendResolution ++ einkSendCommand dataStartTransmission1 :: black.bytes.map einkSendData ++
    einkSendCommand dataStartTransmission2 :: red.bytes.map einkSendData ++
    [einkSendCommand displayRefresh]

theorem einkDisplayFrameFromBufferNonBlocking_busy (black red : Option Image) :
    einkDisplayFrameFromBufferNonBlocking true black red = some (1, []) := rfl

theorem einkDisplayFrameFromBufferNonBlocking_idle (black red : Image) :
    einkDisplayFrameFromBufferNonBlocking false (some black) (some red) =
      some (0, frameOps black red) := by
  simp only [einkDisplayFrameFromBufferNonBlocking, sendFrame, sendBuffer_eq]
  rfl

/-! ### Refreshes -/

def isRefresh (byte : SpiByte) : Bool := byte = ⟨false, displayRefresh⟩

/-- Writes that start no refresh. -/
def Quiet (ops : List EinkOp) : Prop :=
  ∀ op ∈ ops, ∃ byte, op = .spiWrite byte ∧ isRefresh byte = false

theorem Quiet.append {first second : List EinkOp} (one : Quiet first) (two : Quiet second) :
    Quiet (first ++ second) := by
  intro op member
  rcases List.mem_append.mp member with before | behind
  · exact one op before
  · exact two op behind

theorem quiet_data (bytes : List UInt8) : Quiet (bytes.map einkSendData) := by
  intro op member
  obtain ⟨b, _, rfl⟩ := List.mem_map.mp member
  exact ⟨_, rfl, rfl⟩

theorem quiet_command {command : UInt8} (other : command ≠ displayRefresh) (bytes : List UInt8) :
    Quiet (einkSendCommand command :: bytes.map einkSendData) := by
  intro op member
  rcases List.mem_cons.mp member with rfl | data
  · exact ⟨_, rfl, by simp [isRefresh, other]⟩
  · exact quiet_data bytes op data

theorem quiet_sendResolution : Quiet sendResolution :=
  quiet_command (by decide : tconResolution ≠ displayRefresh)
    [UInt8.ofNat (epdWidth >>> 8), UInt8.ofNat (epdWidth &&& 0xff), UInt8.ofNat (epdHeight >>> 8),
      UInt8.ofNat (epdHeight &&& 0xff)]

theorem quiet_einkSetRefreshMode (refreshMode : RefreshMode) :
    Quiet (einkSetRefreshMode refreshMode) := by
  have setting : panelSetting ≠ displayRefresh := by decide
  cases refreshMode with
  | fullRefresh => exact quiet_command setting [fullRefreshSetting]
  | fastRefresh =>
    have tables : Quiet einkSetLut := by
      refine .append (.append (.append (.append ?_ ?_) ?_) ?_) ?_
      all_goals exact quiet_command (by decide) _
    exact (quiet_command setting [fastRefreshSetting]).append tables

theorem quiet_einkClearFrame : Quiet einkClearFrame := by
  refine .append (.append quiet_sendResolution ?_) ?_
  all_goals
    rw [← List.map_replicate]
    exact quiet_command (by decide) _

theorem quiet_planes (black red : Image) : Quiet (sendResolution ++
    einkSendCommand dataStartTransmission1 :: black.bytes.map einkSendData ++
    einkSendCommand dataStartTransmission2 :: red.bytes.map einkSendData) := by
  refine .append (.append quiet_sendResolution ?_) ?_
  all_goals exact quiet_command (by decide) _

theorem Quiet.isRefresh_eq_false {ops : List EinkOp} (quiet : Quiet ops) {byte : SpiByte}
    (member : .spiWrite byte ∈ ops) : isRefresh byte = false := by
  obtain ⟨written, same, other⟩ := quiet (.spiWrite byte) member
  cases same
  exact other

theorem Quiet.writes {ops : List EinkOp} (quiet : Quiet ops) :
    ∀ op ∈ ops, ∃ byte, op = .spiWrite byte := by
  intro op member
  obtain ⟨byte, write, _⟩ := quiet op member
  exact ⟨byte, write⟩

theorem frameOps_writes (black red : Image) :
    ∀ op ∈ frameOps black red, ∃ byte, op = .spiWrite byte := by
  intro op member
  rcases List.mem_append.mp member with plane | refresh
  · exact (quiet_planes black red).writes op plane
  · exact ⟨_, List.mem_singleton.mp refresh⟩

/-! ### The two frame buffers -/

structure Frames where
  imgBuffer : Image
  colorBuffer : Image
  deriving DecidableEq

namespace Frames

def get (frames : Frames) : FrameBuffer → Image
  | .imgBuffer => frames.imgBuffer
  | .colorBuffer => frames.colorBuffer

def set (frames : Frames) (buffer : FrameBuffer) (image : Image) : Frames :=
  match buffer with
  | .imgBuffer => { frames with imgBuffer := image }
  | .colorBuffer => { frames with colorBuffer := image }

theorem get_set (frames : Frames) (buffer other : FrameBuffer) (image : Image) :
    (frames.set buffer image).get other = if other = buffer then image else frames.get other := by
  cases buffer <;> cases other <;> rfl

@[simp] theorem set_get (frames : Frames) (buffer : FrameBuffer) :
    frames.set buffer (frames.get buffer) = frames := by
  cases buffer <;> rfl

end Frames

end EpaperClock
