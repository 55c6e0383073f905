import EpaperClock.Rendering

/-! `font12.cpp`: Courier New 12pt, seven pixels wide. -/
namespace EpaperClock

/-- Twelve rows for each of the characters from the blank to the tilde. -/
def font12Table : List UInt8 :=
  [0x00, 0x00, 0x00, 0x00, 0x00, 0x00, 0x00, 0x00, 0x00, 0x00, 0x00, 0x00,
    0x00, 0x10, 0x10, 0x10, 0x10, 0x10, 0x00, 0x00, 0x10, 0x00, 0x00, 0x00,
    0x00, 0x6C, 0x48, 0x48, 0x00, 0x00, 0x00, 0x00, 0x00, 0x00, 0x00, 0x00,
    0x00, 0x14, 0x14, 0x28, 0x7C, 0x28, 0x7C, 0x28, 0x50, 0x50, 0x00, 0x00,
    0x00, 0x10, 0x38, 0x40, 0x40, 0x38, 0x48, 0x70, 0x10, 0x10, 0x00, 0x00,
    0x00, 0x20, 0x50, 0x20, 0x0C, 0x70, 0x08, 0x14, 0x08, 0x00, 0x00, 0x00,
    0x00, 0x00, 0x00, 0x18, 0x20, 0x20, 0x54, 0x48, 0x34, 0x00, 0x00, 0x00,
    0x00, 0x10, 0x10, 0x10, 0x10, 0x00, 0x00, 0x00, 0x00, 0x00, 0x00, 0x00,
    0x00, 0x08, 0x08, 0x10, 0x10, 0x10, 0x10, 0x10, 0x10, 0x08, 0x08, 0x00,
    0x00, 0x20, 0x20, 0x10, 0x10, 0x10, 0x10, 0x10, 0x10, 0x20, 0x20, 0x00,
    0x00, 0x10, 0x7C, 0x10, 0x28, 0x28, 0x00, 0x00, 0x00, 0x00, 0x00, 0x00,
    0x00, 0x00, 0x10, 0x10, 0x10, 0xFE, 0x10, 0x10, 0x10, 0x00, 0x00, 0x00,
    0x00, 0x00, 0x00, 0x00, 0x00, 0x00, 0x00, 0x18, 0x10, 0x30, 0x20, 0x00,
    0x00, 0x00, 0x00, 0x00, 0x00, 0x7C, 0x00, 0x00, 0x00, 0x00, 0x00, 0x00,
    0x00, 0x00, 0x00, 0x00, 0x00, 0x00, 0x00, 0x30, 0x30, 0x00, 0x00, 0x00,
    0x00, 0x04, 0x04, 0x08, 0x08, 0x10, 0x10, 0x20, 0x20, 0x40, 0x00, 0x00,
    0x00, 0x38, 0x44, 0x44, 0x44, 0x44, 0x44, 0x44, 0x38, 0x00, 0x00, 0x00,
    0x00, 0x30, 0x10, 0x10, 0x10, 0x10, 0x10, 0x10, 0x7C, 0x00, 0x00, 0x00,
    0x00, 0x38, 0x44, 0x04, 0x08, 0x10, 0x20, 0x44, 0x7C, 0x00, 0x00, 0x00,
    0x00, 0x38, 0x44, 0x04, 0x18, 0x04, 0x04, 0x44, 0x38, 0x00, 0x00, 0x00,
    0x00, 0x0C, 0x14, 0x14, 0x24, 0x44, 0x7E, 0x04, 0x0E, 0x00, 0x00, 0x00,
    0x00, 0x3C, 0x20, 0x20, 0x38, 0x04, 0x04, 0x44, 0x38, 0x00, 0x00, 0x00,
    0x00, 0x1C, 0x20, 0x40, 0x78, 0x44, 0x44, 0x44, 0x38, 0x00, 0x00, 0x00,
    0x00, 0x7C, 0x44, 0x04, 0x08, 0x08, 0x08, 0x10, 0x10, 0x00, 0x00, 0x00,
    0x00, 0x38, 0x44, 0x44, 0x38, 0x44, 0x44, 0x44, 0x38, 0x00, 0x00, 0x00,
    0x00, 0x38, 0x44, 0x44, 0x44, 0x3C, 0x04, 0x08, 0x70, 0x00, 0x00, 0x00,
    0x00, 0x00, 0x00, 0x30, 0x30, 0x00, 0x00, 0x30, 0x30, 0x00, 0x00, 0x00,
    0x00, 0x00, 0x00, 0x18, 0x18, 0x00, 0x00, 0x18, 0x30, 0x20, 0x00, 0x00,
    0x00, 0x00, 0x0C, 0x10, 0x60, 0x80, 0x60, 0x10, 0x0C, 0x00, 0x00, 0x00,
    0x00, 0x00, 0x00, 0x00, 0x7C, 0x00, 0x7C, 0x00, 0x00, 0x00, 0x00, 0x00,
    0x00, 0x00, 0xC0, 0x20, 0x18, 0x04, 0x18, 0x20, 0xC0, 0x00, 0x00, 0x00,
    0x00, 0x00, 0x18, 0x24, 0x04, 0x08, 0x10, 0x00, 0x30, 0x00, 0x00, 0x00,
    0x38, 0x44, 0x44, 0x4C, 0x54, 0x54, 0x4C, 0x40, 0x44, 0x38, 0x00, 0x00,
    0x00, 0x30, 0x10, 0x28, 0x28, 0x28, 0x7C, 0x44, 0xEE, 0x00, 0x00, 0x00,
    0x00, 0xF8, 0x44, 0x44, 0x78, 0x44, 0x44, 0x44, 0xF8, 0x00, 0x00, 0x00,
    0x00, 0x3C, 0x44, 0x40, 0x40, 0x40, 0x40, 0x44, 0x38, 0x00, 0x00, 0x00,
    0x00, 0xF0, 0x48, 0x44, 0x44, 0x44, 0x44, 0x48, 0xF0, 0x00, 0x00, 0x00,
    0x00, 0xFC, 0x44, 0x50, 0x70, 0x50, 0x40, 0x44, 0xFC, 0x00, 0x00, 0x00,
    0x00, 0x7E, 0x22, 0x28, 0x38, 0x28, 0x20, 0x20, 0x70, 0x00, 0x00, 0x00,
    0x00, 0x3C, 0x44, 0x40, 0x40, 0x4E, 0x44, 0x44, 0x38, 0x00, 0x00, 0x00,
    0x00, 0xEE, 0x44, 0x44, 0x7C, 0x44, 0x44, 0x44, 0xEE, 0x00, 0x00, 0x00,
    0x00, 0x7C, 0x10, 0x10, 0x10, 0x10, 0x10, 0x10, 0x7C, 0x00, 0x00, 0x00,
    0x00, 0x3C, 0x08, 0x08, 0x08, 0x48, 0x48, 0x48, 0x30, 0x00, 0x00, 0x00,
    0x00, 0xEE, 0x44, 0x48, 0x50, 0x70, 0x48, 0x44, 0xE6, 0x00, 0x00, 0x00,
    0x00, 0x70, 0x20, 0x20, 0x20, 0x20, 0x24, 0x24, 0x7C, 0x00, 0x00, 0x00,
    0x00, 0xEE, 0x6C, 0x6C, 0x54, 0x54, 0x44, 0x44, 0xEE, 0x00, 0x00, 0x00,
    0x00, 0xEE, 0x64, 0x64, 0x54, 0x54, 0x54, 0x4C, 0xEC, 0x00, 0x00, 0x00,
    0x00, 0x38, 0x44, 0x44, 0x44, 0x44, 0x44, 0x44, 0x38, 0x00, 0x00, 0x00,
    0x00, 0x78, 0x24, 0x24, 0x24, 0x38, 0x20, 0x20, 0x70, 0x00, 0x00, 0x00,
    0x00, 0x38, 0x44, 0x44, 0x44, 0x44, 0x44, 0x44, 0x38, 0x1C, 0x00, 0x00,
    0x00, 0xF8, 0x44, 0x44, 0x44, 0x78, 0x48, 0x44, 0xE2, 0x00, 0x00, 0x00,
    0x00, 0x34, 0x4C, 0x40, 0x38, 0x04, 0x04, 0x64, 0x58, 0x00, 0x00, 0x00,
    0x00, 0xFE, 0x92, 0x10, 0x10, 0x10, 0x10, 0x10, 0x38, 0x00, 0x00, 0x00,
    0x00, 0xEE, 0x44, 0x44, 0x44, 0x44, 0x44, 0x44, 0x38, 0x00, 0x00, 0x00,
    0x00, 0xEE, 0x44, 0x44, 0x28, 0x28, 0x28, 0x10, 0x10, 0x00, 0x00, 0x00,
    0x00, 0xEE, 0x44, 0x44, 0x54, 0x54, 0x54, 0x54, 0x28, 0x00, 0x00, 0x00,
    0x00, 0xC6, 0x44, 0x28, 0x10, 0x10, 0x28, 0x44, 0xC6, 0x00, 0x00, 0x00,
    0x00, 0xEE, 0x44, 0x28, 0x28, 0x10, 0x10, 0x10, 0x38, 0x00, 0x00, 0x00,
    0x00, 0x7C, 0x44, 0x08, 0x10, 0x10, 0x20, 0x44, 0x7C, 0x00, 0x00, 0x00,
    0x00, 0x38, 0x20, 0x20, 0x20, 0x20, 0x20, 0x20, 0x20, 0x20, 0x38, 0x00,
    0x00, 0x40, 0x20, 0x20, 0x20, 0x10, 0x10, 0x08, 0x08, 0x08, 0x00, 0x00,
    0x00, 0x38, 0x08, 0x08, 0x08, 0x08, 0x08, 0x08, 0x08, 0x08, 0x38, 0x00,
    0x00, 0x10, 0x10, 0x28, 0x44, 0x00, 0x00, 0x00, 0x00, 0x00, 0x00, 0x00,
    0x00, 0x00, 0x00, 0x00, 0x00, 0x00, 0x00, 0x00, 0x00, 0x00, 0x00, 0xFE,
    0x00, 0x10, 0x08, 0x00, 0x00, 0x00, 0x00, 0x00, 0x00, 0x00, 0x00, 0x00,
    0x00, 0x00, 0x00, 0x38, 0x44, 0x3C, 0x44, 0x44, 0x3E, 0x00, 0x00, 0x00,
    0x00, 0xC0, 0x40, 0x58, 0x64, 0x44, 0x44, 0x44, 0xF8, 0x00, 0x00, 0x00,
    0x00, 0x00, 0x00, 0x3C, 0x44, 0x40, 0x40, 0x44, 0x38, 0x00, 0x00, 0x00,
    0x00, 0x0C, 0x04, 0x34, 0x4C, 0x44, 0x44, 0x44, 0x3E, 0x00, 0x00, 0x00,
    0x00, 0x00, 0x00, 0x38, 0x44, 0x7C, 0x40, 0x40, 0x3C, 0x00, 0x00, 0x00,
    0x00, 0x1C, 0x20, 0x7C, 0x20, 0x20, 0x20, 0x20, 0x7C, 0x00, 0x00, 0x00,
    0x00, 0x00, 0x00, 0x36, 0x4C, 0x44, 0x44, 0x44, 0x3C, 0x04, 0x38, 0x00,
    0x00, 0xC0, 0x40, 0x58, 0x64, 0x44, 0x44, 0x44, 0xEE, 0x00, 0x00, 0x00,
    0x00, 0x10, 0x00, 0x70, 0x10, 0x10, 0x10, 0x10, 0x7C, 0x00, 0x00, 0x00,
    0x00, 0x10, 0x00, 0x78, 0x08, 0x08, 0x08, 0x08, 0x08, 0x08, 0x70, 0x00,
    0x00, 0xC0, 0x40, 0x5C, 0x48, 0x70, 0x50, 0x48, 0xDC, 0x00, 0x00, 0x00,
    0x00, 0x30, 0x10, 0x10, 0x10, 0x10, 0x10, 0x10, 0x7C, 0x00, 0x00, 0x00,
    0x00, 0x00, 0x00, 0xE8, 0x54, 0x54, 0x54, 0x54, 0xFE, 0x00, 0x00, 0x00,
    0x00, 0x00, 0x00, 0xD8, 0x64, 0x44, 0x44, 0x44, 0xEE, 0x00, 0x00, 0x00,
    0x00, 0x00, 0x00, 0x38, 0x44, 0x44, 0x44, 0x44, 0x38, 0x00, 0x00, 0x00,
    0x00, 0x00, 0x00, 0xD8, 0x64, 0x44, 0x44, 0x44, 0x78, 0x40, 0xE0, 0x00,
    0x00, 0x00, 0x00, 0x36, 0x4C, 0x44, 0x44, 0x44, 0x3C, 0x04, 0x0E, 0x00,
    0x00, 0x00, 0x00, 0x6C, 0x30, 0x20, 0x20, 0x20, 0x7C, 0x00, 0x00, 0x00,
    0x00, 0x00, 0x00, 0x3C, 0x44, 0x38, 0x04, 0x44, 0x78, 0x00, 0x00, 0x00,
    0x00, 0x00, 0x20, 0x7C, 0x20, 0x20, 0x20, 0x22, 0x1C, 0x00, 0x00, 0x00,
    0x00, 0x00, 0x00, 0xCC, 0x44, 0x44, 0x44, 0x4C, 0x36, 0x00, 0x00, 0x00,
    0x00, 0x00, 0x00, 0xEE, 0x44, 0x44, 0x28, 0x28, 0x10, 0x00, 0x00, 0x00,
    0x00, 0x00, 0x00, 0xEE, 0x44, 0x54, 0x54, 0x54, 0x28, 0x00, 0x00, 0x00,
    0x00, 0x00, 0x00, 0xCC, 0x48, 0x30, 0x30, 0x48, 0xCC, 0x00, 0x00, 0x00,
    0x00, 0x00, 0x00, 0xEE, 0x44, 0x24, 0x28, 0x18, 0x10, 0x10, 0x78, 0x00,
    0x00, 0x00, 0x00, 0x7C, 0x48, 0x10, 0x20, 0x44, 0x7C, 0x00, 0x00, 0x00,
    0x00, 0x08, 0x10, 0x10, 0x10, 0x10, 0x20, 0x10, 0x10, 0x10, 0x08, 0x00,
    0x00, 0x10, 0x10, 0x10, 0x10, 0x10, 0x10, 0x10, 0x10, 0x10, 0x00, 0x00,
    0x00, 0x20, 0x10, 0x10, 0x10, 0x10, 0x08, 0x10, 0x10, 0x10, 0x20, 0x00,
    0x00, 0x00, 0x00, 0x00, 0x00, 0x24, 0x58, 0x00, 0x00, 0x00, 0x00, 0x00]

theorem length_font12Table : font12Table.length = 95 * 12 := by decide +kernel

/-- `Font12`; what lies behind the table in memory is left open. -/
def font12 (flash : Nat → UInt8) : SFont := ⟨fun offset => some (font12Table.getD offset (flash offset)), 7, 12⟩

end EpaperClock
