import EpaperClock.Display
import EpaperClock.TextRendering

/-! The bytes of `Font12_Table` that the texts of a frame are painted from. -/
namespace EpaperClock

open CString Decimal

/-- `Font12` as it is listed: there is nothing outside of the table. -/
def listedFont12 : SFont := ⟨fun offset => font12Table[offset]?, 7, 12⟩

/-- The characters from the blank to the tilde. -/
def Printable (c : UInt8) : Prop := 32 ≤ c.toNat ∧ c.toNat ≤ 126

instance : DecidablePred Printable := fun _ => inferInstanceAs (Decidable (_ ∧ _))

/-! ### Glyphs -/

theorem Printable.hasGlyph {c : UInt8} (printable : Printable c) : HasGlyph listedFont12 c where
  listed := printable.1
  noOverflow := by
    have byte := c.toNat_lt
    have row : rowBytes 7 = 1 := rfl
    simp only [glyphStart, listedFont12, row]
    omega
  held := by
    obtain ⟨low, high⟩ := printable
    intro k inside
    have row : rowBytes 7 = 1 := rfl
    simp only [glyphBytes, glyphStart, listedFont12, row] at inside ⊢
    rw [List.getElem?_eq_getElem (by rw [length_font12Table]; omega), Option.isSome_some]

/-- A glyph whose first byte cannot be read is not painted. -/
theorem paintGlyph_eq_none {read : Nat → Option UInt8} {ptr : Nat} (absent : read ptr = none)
    (x y colored scale : Int) (width height : Nat) (image : Image) :
    paintGlyph read x y colored scale (width + 1) (height + 1) image ptr = none := by
  rw [paintGlyph, List.range_succ_eq_map, List.foldlM_cons, paintRow, List.range_succ_eq_map,
    List.foldlM_cons, paintBit, absent]
  rfl

/-- Any other character has its offset behind the table: one in front of the blank, because
the difference wraps. -/
theorem charOffset_outside {c : UInt8} (unlisted : ¬Printable c) :
    font12Table.length ≤ charOffset c listedFont12 := by
  have byte := c.toNat_lt
  have row : rowBytes 7 = 1 := rfl
  simp only [Printable, not_and_or, not_le] at unlisted
  simp only [charOffset, listedFont12, row, length_font12Table]
  rcases unlisted with low | high
  · have wraps : ((c.toNat : Int) - 32) * (12 : Nat) * (1 : Nat) % 2 ^ 32 =
        ((c.toNat : Int) - 32) * 12 + 2 ^ 32 := by omega
    omega
  · have plain : ((c.toNat : Int) - 32) * (12 : Nat) * (1 : Nat) % 2 ^ 32 =
        ((c.toNat : Int) - 32) * 12 := by omega
    omega

theorem paintDrawChar_eq_none {c : UInt8} (unlisted : ¬Printable c) (image : Image)
    (x y colored scale : Int) : paintDrawChar image x y c listedFont12 colored scale = none :=
  paintGlyph_eq_none (List.getElem?_eq_none (charOffset_outside unlisted)) x y colored scale 6 11 image

/-! ### Texts -/

theorem paintDrawString_of_printable {text : Bytes} (printable : ∀ c ∈ text, Printable c)
    (image : Image) (x y colored scale : Int) :
    ∃ painted, paintDrawString image x y text listedFont12 colored scale = some painted :=
  ⟨_, paintDrawString_eq_of_reads
    (fun c member _ row _ column => (printable c member).hasGlyph.reads row column)
    image x y colored scale⟩

theorem paintDrawString_isSome_iff (image : Image) (x y colored scale : Int) (text : Bytes) :
    (paintDrawString image x y text listedFont12 colored scale).isSome = true ↔
      ∀ c ∈ text, Printable c := by
  constructor
  · intro painted
    induction text generalizing image x with
    | nil => simp
    | cons c text ih =>
      by_cases printable : Printable c
      · obtain ⟨image', first⟩ := Option.isSome_iff_exists.mp painted
        obtain ⟨next, _, rest⟩ := Option.bind_eq_some_iff.mp first
        exact List.forall_mem_cons.mpr ⟨printable, ih _ _ (Option.isSome_of_mem rest)⟩
      · rw [paintDrawString, paintDrawChar_eq_none printable] at painted
        cases painted
  · intro printable
    obtain ⟨painted, done⟩ := paintDrawString_of_printable printable image x y colored scale
    rw [done, Option.isSome_some]

theorem font12_of_listed {offset : Nat} {byte : UInt8}
    (listed : listedFont12.table offset = some byte) (flash : Nat → UInt8) :
    (font12 flash).table offset = some byte := by
  have held : font12Table[offset]? = some byte := listed
  simp only [font12, List.getD_eq_getElem?_getD, held, Option.getD_some]

/-- What is painted from the table alone does not depend on what lies behind it. -/
theorem paintDrawString_of_listed {image painted : Image} {x y colored scale : Int} {text : Bytes}
    (listed : paintDrawString image x y text listedFont12 colored scale = some painted)
    (flash : Nat → UInt8) :
    paintDrawString image x y text (font12 flash) colored scale = some painted := by
  have printable := (paintDrawString_isSome_iff image x y colored scale text).mp
    (Option.isSome_of_mem listed)
  have reads : ∀ c ∈ text, ∀ j < 12, ∀ i < 7,
      listedFont12.table (charOffset c listedFont12 + j * rowBytes 7 + i / 8) =
        some (listedFont12.byteAt (charOffset c listedFont12 + j * rowBytes 7 + i / 8)) :=
    fun c member _ row _ column => (printable c member).hasGlyph.reads row column
  rw [paintDrawString_eq_of_reads reads] at listed
  rw [← listed, ← @stringPoints_congr (font12 flash) listedFont12 rfl rfl]
  refine paintDrawString_eq_of_reads ?_ image x y colored scale
  intro c member j row i column
  exact font12_of_listed (reads c member j row i column) flash

theorem printable_format (width : Nat) (n : Int) : ∀ c ∈ format width n, Printable c := by
  intro c member
  rcases mem_format member with rfl | digit
  · decide
  · have range := isDigit_spec digit
    exact ⟨by omega, by omega⟩

theorem printable_of_all {s : Bytes} (all : (s.all fun c => decide (Printable c)) = true) :
    ∀ c ∈ s, Printable c := fun c member => of_decide_eq_true (List.all_eq_true.mp all c member)

theorem printable_append {s t : Bytes} (first : ∀ c ∈ s, Printable c)
    (second : ∀ c ∈ t, Printable c) : ∀ c ∈ s ++ t, Printable c :=
  List.forall_mem_append.mpr ⟨first, second⟩

theorem printable_timeText (timeinfo : Tm) : ∀ c ∈ timeText timeinfo, Printable c :=
  printable_append (printable_append (printable_format _ _) (printable_of_all rfl)) (printable_format _ _)

theorem printable_getDayOfWeek (day : Int) : ∀ c ∈ getDayOfWeek day, Printable c := by
  unfold getDayOfWeek
  split <;> exact printable_of_all rfl

theorem printable_getMonth (month : Int) : ∀ c ∈ getMonth month, Printable c := by
  unfold getMonth
  split <;> exact printable_of_all rfl

theorem printable_dateText (timeinfo : Tm) : ∀ c ∈ dateText timeinfo, Printable c := by
  have names := printable_append (printable_append (printable_getDayOfWeek timeinfo.tmWday)
    (@printable_of_all (ascii ", ") rfl)) (printable_getMonth timeinfo.tmMon)
  exact printable_append (printable_append names (printable_of_all rfl)) (printable_format _ _)

theorem printable_temperatureText {temperatureStr text : Bytes}
    (printed : temperatureText temperatureStr = some text) : ∀ c ∈ text, Printable c := by
  obtain ⟨n, _, rfl⟩ := Option.map_eq_some_iff.mp printed
  exact printable_append (printable_format _ _) (printable_of_all rfl)

/-! ### Frames -/

/-- Every other text of a frame is printable, so only the description decides. -/
theorem composeFrame_isSome_iff (icons : IconSet) (timeinfo : Tm) (weather : Weather)
    {temperatureBuf : Bytes} (temperature : ∀ c ∈ temperatureBuf, Printable c) (frames : Frames) :
    (composeFrame icons listedFont12 timeinfo weather temperatureBuf frames).isSome = true ↔
      ∀ c ∈ weather.weatherStr, Printable c := by
  have meridiem : ∀ c ∈ (if timeinfo.tmHour > 11 then ascii "PM" else ascii "AM"), Printable c := by
    split <;> exact printable_of_all rfl
  obtain ⟨image₁, done₁⟩ := paintDrawString_of_printable meridiem frames.imgBuffer
    ((timeText timeinfo).length * 7 * 7 - 9) 25 coloured 2
  obtain ⟨image₂, done₂⟩ := paintDrawString_of_printable (printable_dateText timeinfo) image₁ 4 0
    coloured 2
  obtain ⟨image₃, done₃⟩ := paintDrawString_of_printable (printable_timeText timeinfo) image₂ (-3) 20
    coloured 7
  obtain ⟨image₄, done₄⟩ := paintDrawString_of_printable temperature image₃ 80 93 coloured 5
  obtain ⟨frames₅, done₅, _⟩ := drawWeather_under icons { frames with imgBuffer := image₄ } 0 80
    weather.iconStr
  rw [← paintDrawString_isSome_iff frames₅.imgBuffer 4 150 coloured
    (if weather.weatherStr.length ≤ 18 then 2 else 1)]
  simp only [composeFrame, done₁, done₂, done₃, done₄, done₅, Option.bind_eq_bind, Option.bind_some,
    Option.isSome_bind, Option.isSome_some, Option.any_true]

/-- The frame that is painted from the table alone is the one that is composed. -/
theorem composeFrame_of_listed {icons : IconSet} {timeinfo : Tm} {weather : Weather}
    {temperatureBuf : Bytes} {frames painted : Frames}
    (listed : composeFrame icons listedFont12 timeinfo weather temperatureBuf frames = some painted)
    (flash : Nat → UInt8) :
    composeFrame icons (font12 flash) timeinfo weather temperatureBuf frames = some painted := by
  obtain ⟨image₁, done₁, listed⟩ := Option.bind_eq_some_iff.mp listed
  obtain ⟨image₂, done₂, listed⟩ := Option.bind_eq_some_iff.mp listed
  obtain ⟨image₃, done₃, listed⟩ := Option.bind_eq_some_iff.mp listed
  obtain ⟨image₄, done₄, listed⟩ := Option.bind_eq_some_iff.mp listed
  obtain ⟨frames₅, done₅, listed⟩ := Option.bind_eq_some_iff.mp listed
  obtain ⟨image₆, done₆, listed⟩ := Option.bind_eq_some_iff.mp listed
  obtain rfl := Option.some.inj listed
  simp only [composeFrame, paintDrawString_of_listed done₁, paintDrawString_of_listed done₂,
    paintDrawString_of_listed done₃, paintDrawString_of_listed done₄, done₅,
    paintDrawString_of_listed done₆, Option.bind_eq_bind, Option.bind_some]

/-- Every byte that `updateData` paints the description from lies in the table. -/
def DescriptionInside (v : Bytes) : Prop :=
  ∀ image, (paintDrawString image 4 150 v listedFont12 coloured
    (if v.length ≤ 18 then 2 else 1)).isSome = true

theorem descriptionInside_iff (v : Bytes) : DescriptionInside v ↔ ∀ c ∈ v, Printable c :=
  ⟨fun inside => (paintDrawString_isSome_iff blankImage 4 150 coloured _ v).mp (inside blankImage),
    fun printable image => (paintDrawString_isSome_iff image 4 150 coloured _ v).mpr printable⟩

/-- A stored description is painted from the table, and the frame with it, exactly if all of
its characters are printable. -/
theorem storedDescription_inside_iff (layout : StaticLayout) {mem mem' : StaticMem}
    {p : Option StringPbuf} {v : Bytes} (taken : received .weatherStr p = some v)
    (short : v.length ≤ 44) (step : recvStep layout mem p = some mem') :
    readString mem' (layout.base .weatherStr) 45 = some v ∧
      (DescriptionInside v ↔ ∀ c ∈ v, Printable c) ∧
      ∀ (icons : IconSet) (call : DisplayCall) (frames : Frames) (text : Bytes),
        call.weather.weatherStr = v → temperatureText call.weather.temperatureStr = some text →
        Fits text temperatureBufSize →
        ((composeFrame icons listedFont12 (updateTimeinfo call.rtc) call.weather call.temperatureBuf
          frames).isSome = true ↔ ∀ c ∈ v, Printable c) := by
  refine ⟨?_, descriptionInside_iff v, ?_⟩
  · rw [recvStep_eq, Option.some.injEq] at step
    rw [← step]
    apply readString_eq_some (Nat.lt_succ_of_le short) (zero_notMem_received taken)
    intro i inside
    exact weatherStr_of_received mem taken (Nat.lt_succ_of_le (inside.trans short))
  · rintro icons call frames text rfl printed fits
    rw [call.formatted text printed fits]
    exact composeFrame_isSome_iff icons _ call.weather (printable_temperatureText printed) frames

/-- A response with an accented letter. -/
def accentedDescription : StringPbuf :=
  Pbuf.terminate ⟨ascii "HTTP/1.1 200 OK\r\n\r\n\x7b\"description\":\"" ++ [0xC3, 0xA9] ++
    ascii "\"", []⟩

theorem accentedDescription_outside :
    ¬∀ (layout : StaticLayout) (mem mem' : StaticMem) (p : Option StringPbuf) (v : Bytes),
      received .weatherStr p = some v → v.length ≤ 44 → recvStep layout mem p = some mem' →
        DescriptionInside v := by
  intro claim
  have taken : received .weatherStr (some accentedDescription) = some [0xC3, 0xA9] := by
    decide +kernel
  have inside := claim declaredLayout staticBoot _ _ _ taken (by decide) (recvStep_eq _ _)
  exact absurd ((descriptionInside_iff _).mp inside 0xC3 List.mem_cons_self) (by decide)

theorem storedDescription_inside_iff_accented : ∃ mem',
    recvStep declaredLayout staticBoot (some accentedDescription) = some mem' ∧
      readString mem' 12 45 = some [0xC3, 0xA9] ∧
      (DescriptionInside [0xC3, 0xA9] ↔ ∀ c ∈ ([0xC3, 0xA9] : Bytes), Printable c) := by
  have taken : received .weatherStr (some accentedDescription) = some [0xC3, 0xA9] := by
    decide +kernel
  have stored := storedDescription_inside_iff declaredLayout taken (by decide)
    (recvStep_eq staticBoot _)
  exact ⟨_, recvStep_eq _ _, stored.1, stored.2.1⟩

end EpaperClock
