import EpaperClock.PanelPackets

/-! With which settings the panel refreshes. -/
namespace EpaperClock

open StepSystem

/-- What the panel was last sent for each command. -/
abbrev PanelRegisters : Type := UInt8 → Option (List UInt8)

def receive (registers : PanelRegisters) (packets : List Packet) : PanelRegisters :=
  packets.foldl (fun registers packet => Function.update registers packet.1 (some packet.2)) registers

/-- Powered on, and reset. -/
def noRegisters : PanelRegisters := fun _ => none

/-- The tables for the fast refresh are selected, and loaded. -/
structure FastRefresh (registers : PanelRegisters) : Prop where
  setting : registers panelSetting = some [fastRefreshSetting]
  tables : ∀ packet ∈ lutPackets, registers packet.1 = some packet.2

/-- The tables built into the panel are selected. -/
def FullRefresh (registers : PanelRegisters) : Prop :=
  registers panelSetting = some [fullRefreshSetting]

def BlankPlanes (registers : PanelRegisters) : Prop :=
  registers dataStartTransmission1 = some blankPlane ∧
    registers dataStartTransmission2 = some blankPlane

/-- Only blank planes are refreshed with the built-in tables. -/
def Shows (registers : PanelRegisters) : Prop :=
  FastRefresh registers ∨ FullRefresh registers ∧ BlankPlanes registers

/-- Each refresh among the packets. -/
def RefreshesShow (registers : PanelRegisters) (packets : List Packet) : Prop :=
  ∀ front data behind, packets = front ++ (displayRefresh, data) :: behind →
    Shows (receive registers front)

theorem receive_append (registers : PanelRegisters) (first second : List Packet) :
    receive registers (first ++ second) = receive (receive registers first) second :=
  List.foldl_append ..

theorem receive_other {command : UInt8} {packets : List Packet}
    (other : ∀ packet ∈ packets, packet.1 ≠ command) : ∀ registers : PanelRegisters,
      receive registers packets command = registers command := by
  induction packets with
  | nil => exact fun _ => rfl
  | cons packet packets ih =>
    intro registers
    have later := ih (fun p member => other p (List.mem_cons_of_mem _ member))
      (Function.update registers packet.1 (some packet.2))
    have here := other packet List.mem_cons_self
    exact later.trans (Function.update_of_ne (Ne.symm here) ..)

theorem RefreshesShow.append {registers : PanelRegisters} {first second : List Packet}
    (before : RefreshesShow registers first) (after : RefreshesShow (receive registers first) second) :
    RefreshesShow registers (first ++ second) := by
  intro front data behind split
  rcases List.append_eq_append_iff.mp split with ⟨middle, rfl, rest⟩ | ⟨middle, rfl, rest⟩
  · rw [receive_append]
    exact after middle data behind rest
  · cases middle with
    | nil =>
      have none := after [] data behind (by simpa using rest.symm)
      simpa [receive] using none
    | cons packet middle =>
      obtain ⟨rfl, rfl⟩ := List.cons.inj rest
      exact before front data middle rfl

theorem RefreshesShow.of_quiet {registers : PanelRegisters} {packets : List Packet}
    (quiet : ∀ packet ∈ packets, packet.1 ≠ displayRefresh) : RefreshesShow registers packets := by
  rintro front data behind rfl
  exact absurd rfl (quiet _ (List.mem_append_right _ List.mem_cons_self))

theorem RefreshesShow.refresh {registers : PanelRegisters} (shows : Shows registers) :
    RefreshesShow registers [(displayRefresh, [])] := by
  intro front data behind split
  cases front with
  | nil => exact shows
  | cons packet front => cases (List.append_ne_nil_of_right_ne_nil front (by simp)
      (List.cons.inj split).2.symm)

/-! ### The modes of a call -/

/-- Refreshing with the fast tables, with those built in, and with those of blank planes. -/
inductive PanelMode where
  | fast
  | full
  | fullBlank

namespace PanelMode

def Holds : PanelMode → PanelRegisters → Prop
  | fast, registers => FastRefresh registers
  | full, registers => FullRefresh registers
  | fullBlank, registers => FullRefresh registers ∧ BlankPlanes registers

/-- The mode behind an action, unless it would show a frame with the built-in tables. -/
def next : PanelMode → Action → Option PanelMode
  | _, .einkSetRefreshMode .fastRefresh => some fast
  | _, .einkSetRefreshMode .fullRefresh => some full
  | fast, _ => some fast
  | full, .einkClearFrame => some fullBlank
  | fullBlank, .einkDisplayFrameFromSRAMBlocking => some fullBlank
  | _, _ => none

/-- A call begins and ends with the fast tables. -/
theorem foldlM_updateData (rtc : Rtc) : (updateData rtc).foldlM next fast = some fast := by
  unfold updateData
  dsimp only
  split_ifs <;> rfl

end PanelMode

theorem fastRefresh_refreshModePackets (registers : PanelRegisters) :
    FastRefresh (receive registers (refreshModePackets .fastRefresh)) where
  setting := rfl
  tables := by
    intro packet member
    simp only [lutPackets, List.mem_cons, List.not_mem_nil, or_false] at member
    rcases member with rfl | rfl | rfl | rfl | rfl <;> rfl

/-- Packets for other registers keep the mode. -/
theorem FastRefresh.receive {registers : PanelRegisters} (fast : FastRefresh registers)
    {packets : List Packet}
    (other : ∀ packet ∈ packets, packet.1 ∉ panelSetting :: lutPackets.map Prod.fst) :
    FastRefresh (receive registers packets) := by
  have kept {command : UInt8} (command_mem : command ∈ panelSetting :: lutPackets.map Prod.fst) :
      EpaperClock.receive registers packets command = registers command := by
    refine receive_other (fun packet member same => other packet member ?_) registers
    rwa [same]
  constructor
  · rw [kept List.mem_cons_self, fast.setting]
  · intro packet member
    rw [kept (List.mem_cons_of_mem _ (List.mem_map_of_mem member)), fast.tables packet member]

theorem other_planePackets (black red : List UInt8) :
    ∀ packet ∈ planePackets black red ++ [(displayRefresh, [])],
      packet.1 ∉ panelSetting :: lutPackets.map Prod.fst := by
  intro packet member
  simp only [planePackets, List.cons_append, List.nil_append, List.mem_cons, List.not_mem_nil,
    or_false] at member
  rcases member with rfl | rfl | rfl | rfl <;> dsimp only [resolutionPacket] <;> decide

theorem quiet_planePackets (black red : List UInt8) :
    ∀ packet ∈ planePackets black red, packet.1 ≠ displayRefresh := by
  intro packet member
  simp only [planePackets, List.mem_cons, List.not_mem_nil, or_false] at member
  rcases member with rfl | rfl | rfl <;> dsimp only [resolutionPacket] <;> decide

theorem quiet_refreshModePackets (refreshMode : RefreshMode) :
    ∀ packet ∈ refreshModePackets refreshMode, packet.1 ≠ displayRefresh := by
  cases refreshMode <;> decide

theorem Adds.holds {mode mode' : PanelMode} {action : Action} {more : List Packet}
    {registers : PanelRegisters} (adds : Adds action more) (holds : mode.Holds registers)
    (goes : mode.next action = some mode') :
    mode'.Holds (receive registers more) ∧ RefreshesShow registers more := by
  have planes (black red : List UInt8) : ∀ packet ∈ planePackets black red,
      packet.1 ∉ panelSetting :: lutPackets.map Prod.fst := fun packet member =>
    other_planePackets black red packet (List.mem_append_left _ member)
  cases adds with
  | mode refreshMode =>
    refine ⟨?_, .of_quiet (quiet_refreshModePackets refreshMode)⟩
    cases refreshMode with
    | fastRefresh =>
      obtain rfl : .fast = mode' := by cases mode <;> exact Option.some.inj goes
      exact fastRefresh_refreshModePackets registers
    | fullRefresh =>
      obtain rfl : .full = mode' := by cases mode <;> exact Option.some.inj goes
      exact rfl
  | clear =>
    refine ⟨?_, .of_quiet (quiet_planePackets _ _)⟩
    cases mode with
    | fast =>
      cases goes
      exact holds.receive (planes _ _)
    | full =>
      cases goes
      refine ⟨?_, rfl, rfl⟩
      have setting : receive registers (planePackets blankPlane blankPlane) panelSetting =
          registers panelSetting := rfl
      exact setting.trans holds
    | fullBlank => cases goes
  | refresh =>
    cases mode with
    | fast =>
      cases goes
      exact ⟨holds.receive (by decide), .refresh (.inl holds)⟩
    | full => cases goes
    | fullBlank =>
      cases goes
      exact ⟨holds, .refresh (.inr holds)⟩
  | push black red =>
    cases mode with
    | fast =>
      cases goes
      have sent := holds.receive (planes black.bytes red.bytes)
      exact ⟨holds.receive (other_planePackets _ _),
        (RefreshesShow.of_quiet (quiet_planePackets _ _)).append (.refresh (.inl sent))⟩
    | full => cases goes
    | fullBlank => cases goes
  | nothing silent =>
    refine ⟨?_, .of_quiet fun _ => nofun⟩
    cases action with
    | einkSetRefreshMode refreshMode => cases refreshMode <;> cases silent
    | einkClearFrame => cases silent
    | einkDisplayFrameFromSRAMBlocking => cases silent
    | _ =>
      cases mode with
      | fast =>
        cases goes
        exact holds
      | full => cases goes
      | fullBlank => cases goes

/-! ### Runs -/

/-- The packets so far, and the modes that the rest of the call goes through. -/
structure InMode (ts : List DisplayTransition) (s : Display) (packets : List Packet)
    (mode : PanelMode) : Prop where
  carried : Carried ts s packets
  shows : RefreshesShow noRegisters packets
  holds : mode.Holds (receive noRegisters packets)
  ends : s.todo.foldlM PanelMode.next mode = some .fast

variable {icons : IconSet} {flash : Nat → UInt8}

theorem inMode_boot (busy : Bool) : InMode [] (displayBoot busy)
    (startupPackets ++ refreshModePackets .fastRefresh) .fast := by
  have quiet : ∀ packet ∈ initPackets, packet.1 ≠ displayRefresh := by decide
  have full : Shows (receive noRegisters (initPackets ++ planePackets blankPlane blankPlane)) :=
    .inr ⟨rfl, rfl, rfl⟩
  have startup : RefreshesShow noRegisters startupPackets :=
    .append (.append (.of_quiet quiet) (.of_quiet (quiet_planePackets _ _))) (.refresh full)
  constructor
  case carried => exact carried_boot busy
  case shows => exact startup.append (.of_quiet (quiet_refreshModePackets _))
  case holds =>
    rw [receive_append]
    exact fastRefresh_refreshModePackets _
  case ends => rfl

theorem inMode_of_run {busy : Bool} {ts : List DisplayTransition} {s : Display}
    (run : Run (displayStep icons flash) (displayBoot busy) ts s) :
    ∃ packets mode, InMode ts s packets mode := by
  induction run with
  | start => exact ⟨_, _, inMode_boot busy⟩
  | next _ taken ih =>
    obtain ⟨packets, mode, inMode⟩ := ih
    obtain ⟨more, later, ⟨rfl, todo⟩ | ⟨action, todo, adds⟩⟩ := carried_step inMode.carried taken
    · rw [List.append_nil] at later
      refine ⟨packets, mode, later, inMode.shows, inMode.holds, ?_⟩
      rcases todo with same | ⟨returned, rtc, called⟩
      · rw [same, inMode.ends]
      · have ends := inMode.ends
        rw [returned] at ends
        obtain rfl : mode = .fast := Option.some.inj ends
        rw [called, PanelMode.foldlM_updateData]
    · have ends := inMode.ends
      rw [todo, List.foldlM_cons] at ends
      obtain ⟨mode', goes, rest⟩ := Option.bind_eq_some_iff.mp ends
      obtain ⟨holds, shows⟩ := adds.holds inMode.holds goes
      refine ⟨_, mode', later, inMode.shows.append shows, ?_, rest⟩
      rwa [receive_append]

/-- From the start-up on, each refresh is a fast one, with the fast tables loaded, or shows blank
planes: no frame that was composed is ever shown with the slow tables of the panel. -/
theorem refreshes_fast_or_blank {busy : Bool} {ts : List DisplayTransition} {s : Display}
    (run : Run (displayStep icons flash) (displayBoot busy) ts s) {before after : List SpiByte}
    (split : busBytes ts = before ++ ⟨false, displayRefresh⟩ :: after) :
    Shows (receive noRegisters (groupCommands before).2) := by
  obtain ⟨packets, mode, inMode⟩ := inMode_of_run run
  have longer : sendPackets packets =
      before ++ ⟨false, displayRefresh⟩ :: (after ++ transcript s.sending) := by
    rw [← inMode.carried, split, List.append_assoc, List.cons_append]
  obtain ⟨front, data, behind, rfl, rfl⟩ := sendPackets_split longer
  rw [groupCommands_sendPackets]
  exact inMode.shows front data behind rfl

/-- The refresh behind the frame of 10:58. -/
theorem refreshes_fast_or_blank_tenFiftyEight : ∃ ts s frames front,
    Run (displayStep blankIcons fun _ => 0) (displayBoot true) ts s ∧ s.composed = some frames ∧
      (∃ p, OnPanel p ∧ frames.imgBuffer.pixel p = true) ∧
      Shows (receive noRegisters (groupCommands (front ++
        sendPackets (planePackets frames.imgBuffer.bytes frames.colorBuffer.bytes))).2) := by
  obtain ⟨_, _, _, started, free, returned, idle⟩ := @exists_run_started blankIcons (fun _ => 0) true
  obtain ⟨ts, s, frames, run, _, _, _, _, composed, ink, sent⟩ := exists_run_minute started free
    returned (displayCall tenFiftyEight clearSky) updateData_tenFiftyEight
  obtain ⟨front, bus⟩ := sent_isSuffix run
  rw [sent, if_neg (by simp [idle]), transcript_frameOps, sendPackets_append, ← List.append_assoc] at bus
  exact ⟨ts, s, frames, front, run, composed, ink, refreshes_fast_or_blank run bus.symm⟩

end EpaperClock
