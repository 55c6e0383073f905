import EpaperClock.Paint

/-! The rotations of `paintDrawPixel` as maps between the canvas and the panel. -/
namespace EpaperClock

theorem rotated_injective (rotate : Rotation) : Function.Injective (rotated rotate) := by
  rintro ⟨x, y⟩ ⟨u, v⟩ same
  cases rotate with
  | rotate0 => exact same
  | _ =>
    simp only [rotated, Prod.mk.injEq] at same ⊢
    omega

/-! ### The pixel that a call sets -/

/-- A call at `p` gives the colour to the panel's pixel `q` and keeps all others. -/
def SetsPixel (rotate : Rotation) (p q : Int × Int) : Prop :=
  OnPanel q ∧ ∀ image colored, ∃ image', paintDrawPixel image p.1 p.2 colored rotate = some image' ∧
    ∀ r, OnPanel r → image'.pixel r = if r = q then decide (colored ≠ 0) else image.pixel r

theorem setsPixel_iff {rotate : Rotation} {p q : Int × Int} :
    SetsPixel rotate p q ↔ OnCanvas rotate p ∧ OnPanel q ∧ q = rotated rotate p := by
  constructor
  · rintro ⟨panel, sets⟩
    obtain ⟨image', done, pixels⟩ := sets blankImage coloured
    -- the colour shows at `q`, so it was painted there
    have on := pixels q panel
    rw [if_pos rfl] at on
    by_cases canvas : OnCanvas rotate p
    · rw [paintDrawPixel_inside canvas, Option.some.injEq] at done
      rw [← done, Image.pixel_draw _ _ _ panel, pixel_blankImage] at on
      split at on
      next same => exact ⟨canvas, panel, same⟩
      next => cases on
    · rw [paintDrawPixel_outside canvas, Option.some.injEq] at done
      rw [← done, pixel_blankImage] at on
      cases on
  · rintro ⟨canvas, panel, rfl⟩
    refine ⟨panel, fun image colored => ⟨_, paintDrawPixel_inside canvas image colored, ?_⟩⟩
    intro r inside
    rw [Image.pixel_draw _ _ _ inside]

/-! ### The edge that is lost -/

/-- A mirrored coordinate is 0, which is mirrored to one behind the last. -/
def MirrorsZero (rotate : Rotation) (p : Int × Int) : Prop :=
  match rotate with
  | .rotate0 => False
  | .rotate90 => p.2 = 0
  | .rotate180 => p.1 = 0 ∨ p.2 = 0
  | .rotate270 => p.1 = 0

/-- A coordinate of the panel that only a point behind the canvas is mirrored to. -/
def UnreachedEdge (rotate : Rotation) (q : Int × Int) : Prop :=
  match rotate with
  | .rotate0 => False
  | .rotate90 => q.1 = 0
  | .rotate180 => q.1 = 0 ∨ q.2 = 0
  | .rotate270 => q.2 = 0

theorem onPanel_rotated_iff {rotate : Rotation} {p : Int × Int} (canvas : OnCanvas rotate p) :
    OnPanel (rotated rotate p) ↔ ¬MirrorsZero rotate p := by
  cases rotate with
  | rotate0 => exact iff_of_true canvas id
  | _ =>
    simp only [OnCanvas, canvasWidth, canvasHeight] at canvas
    simp only [OnPanel, rotated, MirrorsZero]
    omega

/-- Every rotation is undone by the one that turns back. -/
theorem exists_rotated {rotate : Rotation} {q : Int × Int} (panel : OnPanel q)
    (inside : ¬UnreachedEdge rotate q) : ∃ p, OnCanvas rotate p ∧ q = rotated rotate p := by
  obtain ⟨u, v⟩ := q
  simp only [OnPanel] at panel
  cases rotate with
  | rotate0 => exact ⟨(u, v), panel, rfl⟩
  | rotate90 =>
    simp only [UnreachedEdge] at inside
    refine ⟨(v, 176 - u), ?_, ?_⟩
    · simp only [OnCanvas, canvasWidth, canvasHeight]
      omega
    · rw [rotated, Int.sub_sub_self]
  | rotate180 =>
    simp only [UnreachedEdge] at inside
    refine ⟨(176 - u, 264 - v), ?_, ?_⟩
    · simp only [OnCanvas, canvasWidth, canvasHeight]
      omega
    · rw [rotated, Int.sub_sub_self, Int.sub_sub_self]
  | rotate270 =>
    simp only [UnreachedEdge] at inside
    refine ⟨(264 - v, u), ?_, ?_⟩
    · simp only [OnCanvas, canvasWidth, canvasHeight]
      omega
    · rw [rotated, Int.sub_sub_self]

theorem not_unreachedEdge_rotated {rotate : Rotation} {p : Int × Int} (canvas : OnCanvas rotate p) :
    ¬UnreachedEdge rotate (rotated rotate p) := by
  intro edge
  cases rotate with
  | rotate0 => exact edge
  | _ =>
    simp only [OnCanvas, canvasWidth, canvasHeight] at canvas
    simp only [UnreachedEdge, rotated] at edge
    omega

theorem exists_setsPixel_iff {rotate : Rotation} {q : Int × Int} (panel : OnPanel q) :
    (∃ p, OnCanvas rotate p ∧ SetsPixel rotate p q) ↔ ¬UnreachedEdge rotate q := by
  constructor
  · rintro ⟨p, _, sets⟩
    obtain ⟨canvas, _, rfl⟩ := setsPixel_iff.mp sets
    exact not_unreachedEdge_rotated canvas
  · intro inside
    obtain ⟨p, canvas, same⟩ := exists_rotated panel inside
    exact ⟨p, canvas, setsPixel_iff.mpr ⟨canvas, panel, same⟩⟩

/-! ### Bijections -/

/-- A call sets one pixel if its point is on the canvas, and nothing otherwise. -/
def PaintsOnePixel (rotate : Rotation) (p : Int × Int) : Prop :=
  (OnCanvas rotate p → ∃! q, SetsPixel rotate p q) ∧
    (¬OnCanvas rotate p → ∀ image colored, paintDrawPixel image p.1 p.2 colored rotate = some image)

/-- The points of the canvas correspond to the pixels of the panel. -/
structure RotationBijective (rotate : Rotation) : Prop where
  onePixel : ∀ p, PaintsOnePixel rotate p
  injective : ∀ p₁ p₂ q, OnCanvas rotate p₁ → OnCanvas rotate p₂ → SetsPixel rotate p₁ q →
    SetsPixel rotate p₂ q → p₁ = p₂
  surjective : ∀ q, OnPanel q → ∃ p, OnCanvas rotate p ∧ SetsPixel rotate p q

theorem paintsOnePixel_iff (rotate : Rotation) (p : Int × Int) :
    PaintsOnePixel rotate p ↔ ¬(OnCanvas rotate p ∧ MirrorsZero rotate p) := by
  constructor
  · rintro ⟨onePixel, _⟩ ⟨canvas, mirrors⟩
    obtain ⟨q, sets, _⟩ := onePixel canvas
    obtain ⟨_, panel, rfl⟩ := setsPixel_iff.mp sets
    exact (onPanel_rotated_iff canvas).mp panel mirrors
  · intro kept
    constructor
    · intro canvas
      have panel := (onPanel_rotated_iff canvas).mpr fun mirrors => kept ⟨canvas, mirrors⟩
      exact ⟨rotated rotate p, setsPixel_iff.mpr ⟨canvas, panel, rfl⟩,
        fun q sets => (setsPixel_iff.mp sets).2.2⟩
    · exact paintDrawPixel_outside

theorem setsPixel_injective {rotate : Rotation} {p₁ p₂ q : Int × Int}
    (first : SetsPixel rotate p₁ q) (second : SetsPixel rotate p₂ q) : p₁ = p₂ := by
  apply rotated_injective rotate
  rw [← (setsPixel_iff.mp first).2.2, ← (setsPixel_iff.mp second).2.2]

/-- Only the identity is a bijection; a call paints as it should unless its point lies on
the mirrored edge of the canvas, and the opposite edge of the panel is never reached. -/
theorem rotationBijective_iff (rotate : Rotation) :
    (RotationBijective rotate ↔ rotate = .rotate0) ∧
      (∀ p, PaintsOnePixel rotate p ↔ ¬(OnCanvas rotate p ∧ MirrorsZero rotate p)) ∧
      ∀ q, OnPanel q →
        ((∃ p, OnCanvas rotate p ∧ SetsPixel rotate p q) ↔ ¬UnreachedEdge rotate q) := by
  refine ⟨?_, paintsOnePixel_iff rotate, fun q panel => exists_setsPixel_iff panel⟩
  constructor
  · intro bijective
    -- the corner of the canvas is mirrored, except by the identity
    have corner := (paintsOnePixel_iff rotate (0, 0)).mp (bijective.onePixel (0, 0))
    cases rotate with
    | rotate0 => rfl
    | _ => exact absurd ⟨by decide, by simp [MirrorsZero]⟩ corner
  · rintro rfl
    refine ⟨fun p => (paintsOnePixel_iff .rotate0 p).mpr And.right, ?_, ?_⟩
    · intro p₁ p₂ q _ _ first second
      exact setsPixel_injective first second
    · intro q panel
      exact (exists_setsPixel_iff panel).mpr id

/-- No point of the canvas reaches the first row of the panel under `ROTATE_270`. -/
theorem rotationBijective_iff_rotate270 : ¬RotationBijective .rotate270 ∧
    ¬∃ p, OnCanvas .rotate270 p ∧ SetsPixel .rotate270 p (5, 0) := by
  obtain ⟨bijective, _, reached⟩ := rotationBijective_iff .rotate270
  refine ⟨fun claim => absurd (bijective.mp claim) (by decide), fun found => ?_⟩
  exact (reached (5, 0) (by decide)).mp found rfl

/-- The corner of the canvas under `ROTATE_270`. -/
theorem rotate270_not_bijective : ¬∀ rotate, RotationBijective rotate := by
  intro claim
  have corner := (paintsOnePixel_iff .rotate270 (0, 0)).mp ((claim .rotate270).onePixel (0, 0))
  exact corner ⟨by decide, rfl⟩

end EpaperClock
