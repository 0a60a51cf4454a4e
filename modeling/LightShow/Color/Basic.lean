import LightShow.Level

/-! Colors of single pixels: three levels, blended channel by channel. -/

namespace LightShow

structure Color where
  red : Level
  green : Level
  blue : Level
deriving DecidableEq

namespace Color

/-- All channels off. -/
def black : Color := ⟨0, 0, 0⟩

/-- The blend of two colors; weight 0 gives the first, 255 the second. -/
def blend (first second : Color) (weight : Level) : Color :=
  ⟨Level.blend first.red second.red weight,
    Level.blend first.green second.green weight,
    Level.blend first.blue second.blue weight⟩

/-- The color written `0xrrggbb`; higher bits are dropped. -/
def ofCode (code : UInt32) : Color :=
  ⟨(code >>> 16).toUInt8, (code >>> 8).toUInt8, code.toUInt8⟩

theorem blend_zero (first second : Color) : blend first second 0 = first := by
  simp only [blend, Level.blend_zero]

theorem blend_full (first second : Color) : blend first second 255 = second := by
  simp only [blend, Level.blend_full]

theorem blend_self (color : Color) (weight : Level) : blend color color weight = color := by
  simp only [blend, Level.blend_self]

/-- A color none of whose channels is outside of those of two others. -/
structure Between (first second color : Color) : Prop where
  red : Level.Between first.red second.red color.red
  green : Level.Between first.green second.green color.green
  blue : Level.Between first.blue second.blue color.blue

theorem between_blend (first second : Color) (weight : Level) :
    Between first second (blend first second weight) where
  red := Level.between_blend first.red second.red weight
  green := Level.between_blend first.green second.green weight
  blue := Level.between_blend first.blue second.blue weight

theorem between_blend_of_le (first second : Color) {early late : Level}
    (later : early.toNat ≤ late.toNat) :
    Between (blend first second early) second (blend first second late) where
  red := Level.between_blend_of_le first.red second.red later
  green := Level.between_blend_of_le first.green second.green later
  blue := Level.between_blend_of_le first.blue second.blue later

end Color

end LightShow
