import EpaperClock.BusyPanel
import EpaperClock.FrameFidelity

/-! The panel from the start-up on: its bus carries packets, a command with its parameters, and
no packet is left or broken into. -/
namespace EpaperClock

open StepSystem

/-! ### The start-up -/

abbrev powerSetting : UInt8 := 0x01
abbrev powerOn : UInt8 := 0x04
abbrev boosterSoftStart : UInt8 := 0x06
abbrev partialDisplayRefresh : UInt8 := 0x16
abbrev pllControl : UInt8 := 0x30
abbrev vcomAndDataIntervalSetting : UInt8 := 0x50
abbrev vcmDcSettingRegister : UInt8 := 0x82

/-- `einkInit`, behind `einkReset`, which only moves the reset pin. -/
def einkInit : List EinkOp :=
  [einkSendCommand powerOn, einkWaitUntilIdle,
    einkSendCommand panelSetting, einkSendData fullRefreshSetting,
    einkSendCommand pllControl, einkSendData 0x3a,
    einkSendCommand powerSetting, einkSendData 0x03, einkSendData 0x00, einkSendData 0x2b,
    einkSendData 0x2b, einkSendData 0x09,
    einkSendCommand boosterSoftStart, einkSendData 0x07, einkSendData 0x07, einkSendData 0x17,
    -- power optimization
    einkSendCommand 0xF8, einkSendData 0x60, einkSendData 0xA5,
    einkSendCommand 0xF8, einkSendData 0x89, einkSendData 0xA5,
    einkSendCommand 0xF8, einkSendData 0x90, einkSendData 0x00,
    einkSendCommand 0xF8, einkSendData 0x93, einkSendData 0x2A,
    einkSendCommand 0xF8, einkSendData 0x73, einkSendData 0x41,
    einkSendCommand vcmDcSettingRegister, einkSendData 0x12,
    einkSendCommand vcomAndDataIntervalSetting, einkSendData 0x87] ++
  einkSetLut ++ [einkSendCommand partialDisplayRefresh, einkSendData 0x00]

def einkDisplayFrameFromSRAMNonBlocking : List EinkOp := [einkSendCommand displayRefresh]

/-- What `main` sends in front of its last wait for the panel. -/
def mainStartup : List EinkOp := einkInit ++ einkClearFrame ++ einkDisplayFrameFromSRAMNonBlocking

/-! ### Packets -/

/-- A command and its parameters. -/
abbrev Packet : Type := UInt8 × List UInt8

def sendPacket (packet : Packet) : List SpiByte :=
  ⟨false, packet.1⟩ :: packet.2.map (⟨true, ·⟩)

def sendPackets (packets : List Packet) : List SpiByte := packets.flatMap sendPacket

@[simp] theorem sendPackets_nil : sendPackets [] = [] := rfl

@[simp] theorem sendPackets_cons (packet : Packet) (packets : List Packet) :
    sendPackets (packet :: packets) = sendPacket packet ++ sendPackets packets := rfl

@[simp] theorem sendPackets_append (first second : List Packet) :
    sendPackets (first ++ second) = sendPackets first ++ sendPackets second :=
  List.flatMap_append

/-- The panel finds the packets again. -/
theorem groupCommands_sendPackets (packets : List Packet) :
    groupCommands (sendPackets packets) = ([], packets) := by
  induction packets with
  | nil => rfl
  | cons packet packets ih =>
    rw [sendPackets_cons, sendPacket, groupCommands_command, ih, List.append_nil]

/-- Parameters never look like a command. -/
theorem data_split {data : List UInt8} {rest after : List SpiByte} {command : UInt8} :
    ∀ {before : List SpiByte},
      data.map (⟨true, ·⟩) ++ rest = before ++ ⟨false, command⟩ :: after →
      ∃ middle, before = data.map (⟨true, ·⟩) ++ middle ∧ rest = middle ++ ⟨false, command⟩ :: after := by
  induction data with
  | nil => exact fun split => ⟨_, rfl, split⟩
  | cons d data ih =>
    intro before split
    cases before with
    | nil => cases (List.cons.inj split).1
    | cons byte before =>
      obtain ⟨rfl, later⟩ := List.cons.inj split
      obtain ⟨middle, rfl, behind⟩ := ih later
      exact ⟨middle, rfl, behind⟩

/-- A packet ends where the next one begins. -/
theorem sendPackets_split {packets : List Packet} {before after : List SpiByte} {command : UInt8}
    (split : sendPackets packets = before ++ ⟨false, command⟩ :: after) :
    ∃ front data behind, packets = front ++ (command, data) :: behind ∧
      before = sendPackets front := by
  induction packets generalizing before with
  | nil => simp at split
  | cons packet packets ih =>
    rw [sendPackets_cons, sendPacket] at split
    cases before with
    | nil =>
      obtain ⟨same, _⟩ := List.cons.inj split
      obtain rfl : packet.1 = command := congrArg SpiByte.data same
      exact ⟨[], packet.2, packets, rfl, rfl⟩
    | cons byte before =>
      obtain ⟨rfl, later⟩ := List.cons.inj split
      obtain ⟨middle, rfl, rest⟩ := data_split later
      obtain ⟨front, data, behind, rfl, rfl⟩ := ih rest
      exact ⟨packet :: front, data, behind, rfl, rfl⟩

/-! ### What the functions send -/

def resolutionPacket : Packet := (tconResolution, [0, 176, 1, 8])

def lutPackets : List Packet :=
  [(lutForVcom, lutVcomDc), (lutWhiteToWhite, lutWw), (lutBlackToWhite, lutBw),
    (lutWhiteToBlack, lutBb), (lutBlackToBlack, lutWb)]

def refreshModePackets : RefreshMode → List Packet
  | .fastRefresh => (panelSetting, [fastRefreshSetting]) :: lutPackets
  | .fullRefresh => [(panelSetting, [fullRefreshSetting])]

def planePackets (black red : List UInt8) : List Packet :=
  [resolutionPacket, (dataStartTransmission1, black), (dataStartTransmission2, red)]

def blankPlane : List UInt8 := List.replicate frameBytes 0x00

def initPackets : List Packet :=
  [(powerOn, []), (panelSetting, [fullRefreshSetting]), (pllControl, [0x3a]),
    (powerSetting, [0x03, 0x00, 0x2b, 0x2b, 0x09]), (boosterSoftStart, [0x07, 0x07, 0x17]),
    (0xF8, [0x60, 0xA5]), (0xF8, [0x89, 0xA5]), (0xF8, [0x90, 0x00]), (0xF8, [0x93, 0x2A]),
    (0xF8, [0x73, 0x41]), (vcmDcSettingRegister, [0x12]), (vcomAndDataIntervalSetting, [0x87])] ++
  lutPackets ++ [(partialDisplayRefresh, [0x00])]

def startupPackets : List Packet :=
  initPackets ++ planePackets blankPlane blankPlane ++ [(displayRefresh, [])]

@[simp] theorem transcript_wait (ops : List EinkOp) :
    transcript (einkWaitUntilIdle :: ops) = transcript ops := rfl

theorem transcript_einkSetLut : transcript einkSetLut = sendPackets lutPackets := by
  simp only [einkSetLut, transcript_append, transcript_command, transcript_map_data, lutPackets,
    sendPackets_cons, sendPackets_nil, sendPacket, List.append_nil, List.append_assoc]

theorem transcript_einkSetRefreshMode (refreshMode : RefreshMode) :
    transcript (einkSetRefreshMode refreshMode) = sendPackets (refreshModePackets refreshMode) := by
  cases refreshMode with
  | fastRefresh =>
    rw [einkSetRefreshMode, transcript_command, transcript_data, transcript_einkSetLut]
    rfl
  | fullRefresh => rfl

theorem transcript_planes (black red : List UInt8) :
    transcript (sendResolution ++ einkSendCommand dataStartTransmission1 :: black.map einkSendData ++
      einkSendCommand dataStartTransmission2 :: red.map einkSendData) =
      sendPackets (planePackets black red) := by
  have resolution : transcript sendResolution = sendPacket resolutionPacket := rfl
  simp only [transcript_append, transcript_command, transcript_map_data, resolution, planePackets,
    sendPackets_cons, sendPackets_nil, List.append_nil, List.append_assoc]
  rfl

theorem transcript_einkClearFrame :
    transcript einkClearFrame = sendPackets (planePackets blankPlane blankPlane) := by
  rw [← transcript_planes, blankPlane, List.map_replicate]
  rfl

theorem transcript_frameOps (black red : Image) : transcript (frameOps black red) =
    sendPackets (planePackets black.bytes red.bytes ++ [(displayRefresh, [])]) := by
  rw [frameOps, transcript_append, transcript_planes, sendPackets_append]
  rfl

theorem transcript_einkInit : transcript einkInit = sendPackets initPackets := by
  rw [einkInit, transcript_append, transcript_append, transcript_einkSetLut, initPackets,
    sendPackets_append, sendPackets_append]
  rfl

theorem transcript_mainStartup : transcript mainStartup = sendPackets startupPackets := by
  rw [mainStartup, transcript_append, transcript_append, transcript_einkInit,
    transcript_einkClearFrame, startupPackets, sendPackets_append, sendPackets_append]
  rfl

/-! ### The bus -/

/-- The byte that a step writes. -/
def written (t : DisplayTransition) : Option SpiByte :=
  match t.event, t.source.sending with
  | .access, .spiWrite byte :: _ => some byte
  | _, _ => none

theorem written_spiWrite {s s' : Display} {byte : SpiByte} {rest : List EinkOp}
    (sending : s.sending = .spiWrite byte :: rest) : written ⟨s, .access, s'⟩ = some byte := by
  simp only [written, sending]

theorem written_waitUntilIdle {s s' : Display} {rest : List EinkOp}
    (sending : s.sending = .waitUntilIdle :: rest) : written ⟨s, .access, s'⟩ = none := by
  simp only [written, sending]

/-- All bytes from the start-up on. -/
def busBytes (ts : List DisplayTransition) : List SpiByte :=
  transcript mainStartup ++ ts.filterMap written

/-- The packets on the bus, with those of the panel function that is running. -/
def Carried (ts : List DisplayTransition) (s : Display) (packets : List Packet) : Prop :=
  busBytes ts ++ transcript s.sending = sendPackets packets

/-- What an action adds to the bus. -/
inductive Adds : Action → List Packet → Prop where
  | mode (refreshMode : RefreshMode) :
      Adds (.einkSetRefreshMode refreshMode) (refreshModePackets refreshMode)
  | clear : Adds .einkClearFrame (planePackets blankPlane blankPlane)
  | refresh : Adds .einkDisplayFrameFromSRAMBlocking [(displayRefresh, [])]
  | push (black red : Image) : Adds .einkDisplayFrameFromBufferNonBlocking
      (planePackets black.bytes red.bytes ++ [(displayRefresh, [])])
  | nothing {action : Action} (silent : action.ops = []) : Adds action []

variable {icons : IconSet} {flash : Nat → UInt8}

theorem adds_of_beginAction {s s' : Display} {action : Action} (free : s.sending = [])
    (begun : beginAction icons flash s action = some s') :
    ∃ packets, transcript s'.sending = sendPackets packets ∧ Adds action packets := by
  have silent {s' : Display} {action : Action} (none : s'.sending = []) (quiet : action.ops = []) :
      ∃ packets, transcript s'.sending = sendPackets packets ∧ Adds action packets :=
    ⟨[], by rw [none]; rfl, .nothing quiet⟩
  rcases beginAction_cases begun with ⟨sends, rfl⟩ | ⟨_, _, _, rfl, _, _, rfl⟩ | ⟨rfl, _, rfl⟩ |
    ⟨rfl, _, rfl⟩ | ⟨_, rfl, rfl⟩ | ⟨_, rfl, rfl⟩
  · cases action with
    | einkSetRefreshMode refreshMode =>
      exact ⟨_, transcript_einkSetRefreshMode refreshMode, .mode refreshMode⟩
    | einkClearFrame => exact ⟨_, transcript_einkClearFrame, .clear⟩
    | einkDisplayFrameFromSRAMBlocking => exact ⟨_, rfl, .refresh⟩
    | _ => exact absurd rfl sends
  · exact silent free rfl
  · exact silent rfl rfl
  · exact ⟨_, transcript_frameOps _ _, .push _ _⟩
  · exact silent free rfl
  · exact silent free rfl

theorem busBytes_append (ts : List DisplayTransition) (t : DisplayTransition) :
    busBytes (ts ++ [t]) = busBytes ts ++ (written t).toList := by
  rw [busBytes, busBytes, List.filterMap_append, List.append_assoc]
  cases sent : written t <;> simp [sent]

/-- A step begins an action, which adds its packets, or leaves the packets as they are. -/
theorem carried_step {ts : List DisplayTransition} {s s' : Display} {e : DisplayEvent}
    {packets : List Packet} (carried : Carried ts s packets)
    (taken : displayStep icons flash s e = some s') :
    ∃ more, Carried (ts ++ [⟨s, e, s'⟩]) s' (packets ++ more) ∧
      ((more = [] ∧ (s'.todo = s.todo ∨ s.todo = [] ∧ ∃ rtc, s'.todo = updateData rtc)) ∨
        ∃ action, s.todo = action :: s'.todo ∧ Adds action more) := by
  have unchanged (silent : written ⟨s, e, s'⟩ = none)
      (same : transcript s'.sending = transcript s.sending) :
      Carried (ts ++ [⟨s, e, s'⟩]) s' (packets ++ []) := by
    rw [Carried, busBytes_append, silent, same, List.append_nil]
    simpa [Carried] using carried
  rcases displayStep_cases taken with ⟨call, rfl, _, returned, rfl⟩ |
    ⟨action, rest, rfl, free, next, begun⟩ | ⟨byte, rest, rfl, sending, rfl⟩ |
    ⟨rest, rfl, sending, _, rfl⟩ | ⟨rest, rfl, sending, _, rfl⟩ | ⟨_, rfl, rfl⟩
  · exact ⟨[], unchanged rfl rfl, .inl ⟨rfl, .inr ⟨returned, _, rfl⟩⟩⟩
  · obtain ⟨more, sends, adds⟩ := adds_of_beginAction (by simpa using free) begun
    have todo := (beginAction_call begun).1
    refine ⟨more, ?_, .inr ⟨action, by rw [next, todo], adds⟩⟩
    have before : busBytes ts = sendPackets packets := by
      simpa [Carried, free, transcript] using carried
    rw [Carried, busBytes_append, before, sends, sendPackets_append]
    simp [written]
  · refine ⟨[], ?_, .inl ⟨rfl, .inl rfl⟩⟩
    rw [Carried, sending] at carried
    rw [Carried, busBytes_append, written_spiWrite sending, List.append_nil, ← carried]
    simp [transcript]
  · exact ⟨[], unchanged (written_waitUntilIdle sending) rfl, .inl ⟨rfl, .inl rfl⟩⟩
  · refine ⟨[], unchanged (written_waitUntilIdle sending) ?_, .inl ⟨rfl, .inl rfl⟩⟩
    rw [sending]
    rfl
  · exact ⟨[], unchanged rfl rfl, .inl ⟨rfl, .inl rfl⟩⟩

theorem carried_boot (busy : Bool) : Carried [] (displayBoot busy)
    (startupPackets ++ refreshModePackets .fastRefresh) := by
  have sends : transcript (displayBoot busy).sending =
      sendPackets (refreshModePackets .fastRefresh) := transcript_einkSetRefreshMode .fastRefresh
  rw [Carried, busBytes, sends, transcript_mainStartup, sendPackets_append]
  simp

theorem beginAction_sent {s s' : Display} {action : Action}
    (begun : beginAction icons flash s action = some s') : s'.sent = s.sent ∨ s'.sent = [] := by
  rcases beginAction_cases begun with ⟨_, rfl⟩ | ⟨_, _, _, _, _, _, rfl⟩ | ⟨_, _, rfl⟩ | ⟨_, _, rfl⟩ |
    ⟨_, _, rfl⟩ | ⟨_, _, rfl⟩
  · exact .inl rfl
  · exact .inr rfl
  all_goals exact .inl rfl

/-- What has been sent since a frame was composed is the end of what the panel has received. -/
theorem sent_isSuffix {busy : Bool} {ts : List DisplayTransition} {s : Display}
    (run : Run (displayStep icons flash) (displayBoot busy) ts s) : s.sent <:+ busBytes ts := by
  induction run with
  | start => exact List.nil_suffix
  | @next ts s e s' _ taken ih =>
    rw [busBytes_append]
    have silent (none : written ⟨s, e, s'⟩ = none) (same : s'.sent = s.sent) :
        s'.sent <:+ busBytes ts ++ (written ⟨s, e, s'⟩).toList := by
      rwa [none, Option.toList_none, List.append_nil, same]
    rcases displayStep_cases taken with ⟨_, rfl, _, _, rfl⟩ | ⟨action, rest, rfl, _, _, begun⟩ |
      ⟨byte, rest, rfl, sending, rfl⟩ | ⟨_, rfl, sending, _, rfl⟩ | ⟨_, rfl, sending, _, rfl⟩ |
      ⟨_, rfl, rfl⟩
    · exact silent rfl rfl
    · rcases beginAction_sent begun with same | composed
      · exact silent rfl same
      · rw [composed]
        exact List.nil_suffix
    · rw [written_spiWrite sending, Option.toList_some]
      exact List.suffix_append_self_iff.mpr ih
    · exact silent (written_waitUntilIdle sending) rfl
    · exact silent (written_waitUntilIdle sending) rfl
    · exact silent rfl rfl

/-! ### Whole packets -/

/-- The commands that the functions of the driver send, and how many parameters they send behind
each. -/
def paramCounts : List (UInt8 × Nat) :=
  [(panelSetting, 1), (powerSetting, 5), (powerOn, 0), (boosterSoftStart, 3),
    (dataStartTransmission1, frameBytes), (displayRefresh, 0), (dataStartTransmission2, frameBytes),
    (partialDisplayRefresh, 1), (lutForVcom, 44), (lutWhiteToWhite, 42), (lutBlackToWhite, 42),
    (lutWhiteToBlack, 42), (lutBlackToBlack, 42), (pllControl, 1), (vcomAndDataIntervalSetting, 1),
    (tconResolution, 4), (vcmDcSettingRegister, 1), (0xF8, 2)]

def Whole (packet : Packet) : Prop := (packet.1, packet.2.length) ∈ paramCounts

instance : DecidablePred Whole := fun _ => inferInstanceAs (Decidable (_ ∈ _))

theorem whole_planePackets {black red : List UInt8} (blackSize : black.length = frameBytes)
    (redSize : red.length = frameBytes) : ∀ packet ∈ planePackets black red, Whole packet := by
  intro packet member
  simp only [planePackets, List.mem_cons, List.not_mem_nil, or_false] at member
  rcases member with rfl | rfl | rfl
  · decide
  · simp [Whole, blackSize, paramCounts]
  · simp [Whole, redSize, paramCounts]

theorem length_blankPlane : blankPlane.length = frameBytes := List.length_replicate ..

theorem whole_refreshModePackets (refreshMode : RefreshMode) :
    ∀ packet ∈ refreshModePackets refreshMode, Whole packet := by
  cases refreshMode <;> decide

theorem Adds.whole {action : Action} {more : List Packet} (adds : Adds action more) :
    ∀ packet ∈ more, Whole packet := by
  cases adds with
  | mode refreshMode => exact whole_refreshModePackets refreshMode
  | clear => exact whole_planePackets length_blankPlane length_blankPlane
  | refresh => decide
  | push black red =>
    have sizes := whole_planePackets black.size red.size
    intro packet member
    rcases List.mem_append.mp member with plane | last
    · exact sizes packet plane
    · rw [List.mem_singleton.mp last]
      decide
  | nothing => exact fun _ => nofun

theorem whole_startupPackets : ∀ packet ∈ startupPackets, Whole packet := by
  have init : ∀ packet ∈ initPackets, Whole packet := by decide
  intro packet member
  simp only [startupPackets, List.mem_append, List.mem_singleton] at member
  rcases member with (first | plane) | rfl
  · exact init packet first
  · exact whole_planePackets length_blankPlane length_blankPlane packet plane
  · decide

theorem whole_of_run {busy : Bool} {ts : List DisplayTransition} {s : Display}
    (run : Run (displayStep icons flash) (displayBoot busy) ts s) :
    ∃ packets, Carried ts s packets ∧ ∀ packet ∈ packets, Whole packet := by
  induction run with
  | start =>
    refine ⟨_, carried_boot busy, fun packet member => ?_⟩
    rcases List.mem_append.mp member with startup | mode
    · exact whole_startupPackets packet startup
    · exact whole_refreshModePackets _ packet mode
  | next _ taken ih =>
    obtain ⟨packets, carried, whole⟩ := ih
    obtain ⟨more, later, added⟩ := carried_step carried taken
    refine ⟨_, later, fun packet member => ?_⟩
    rcases List.mem_append.mp member with before | new
    · exact whole packet before
    · rcases added with ⟨rfl, _⟩ | ⟨action, _, adds⟩
      · cases new
      · exact adds.whole packet new

/-- From the start-up on, each command has all of its parameters behind it before the next command
begins, however long the panel is busy, and by the time a function returns. -/
theorem bus_whole_packets {busy : Bool} {ts : List DisplayTransition} {s : Display}
    (run : Run (displayStep icons flash) (displayBoot busy) ts s) :
    (∀ before command after, busBytes ts = before ++ ⟨false, command⟩ :: after →
      ∀ packet ∈ (groupCommands before).2, Whole packet) ∧
    (s.sending = [] → ∀ packet ∈ (groupCommands (busBytes ts)).2, Whole packet) := by
  obtain ⟨packets, carried, whole⟩ := whole_of_run run
  constructor
  · intro before command after split packet member
    have longer : sendPackets packets =
        before ++ ⟨false, command⟩ :: (after ++ transcript s.sending) := by
      rw [← carried, split, List.append_assoc, List.cons_append]
    obtain ⟨front, data, behind, rfl, rfl⟩ := sendPackets_split longer
    rw [groupCommands_sendPackets] at member
    exact whole packet (List.mem_append_left _ member)
  · intro returned packet member
    have all : busBytes ts = sendPackets packets := by
      simpa [Carried, returned, transcript] using carried
    rw [all, groupCommands_sendPackets] at member
    exact whole packet member

/-- The first frame, on its way to the panel. -/
theorem bus_whole_packets_tenFiftyEight : ∃ ts s, s.sending = [] ∧
    Run (displayStep blankIcons fun _ => 0) (displayBoot true) ts s ∧
    ∀ packet ∈ (groupCommands (busBytes ts)).2, Whole packet := by
  obtain ⟨_, _, _, started, free, returned, _⟩ := @exists_run_started blankIcons (fun _ => 0) true
  obtain ⟨ts, s, _, run, free, _⟩ := exists_run_minute started free returned
    (displayCall tenFiftyEight clearSky) updateData_tenFiftyEight
  exact ⟨ts, s, free, run, (bus_whole_packets run).2 free⟩

end EpaperClock
