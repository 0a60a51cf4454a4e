/-! The natural logarithm of one plus a number, in single precision. The argument is written as
`2 ^ k * (1 + f)` with `1 + f` between the square roots of one half and of two; the logarithm of
`1 + f` is an odd series in `f / (2 + f)`. What rounding `1 + x` has lost is added back. -/

namespace LightShow

namespace Logarithm

/-- The logarithm of two, as a single. -/
def two : Float32 := Float32.ofBits 0x3f317218

/-- The logarithm of two, split into a part with few bits and the rest. -/
private def twoHigh : Float32 := Float32.ofBits 0x3f317180

private def twoLow : Float32 := Float32.ofBits 0x3717f7d1

private def series₁ : Float32 := Float32.ofBits 0x3f2aaaaa

private def series₂ : Float32 := Float32.ofBits 0x3eccce13

private def series₃ : Float32 := Float32.ofBits 0x3e91e9ee

private def series₄ : Float32 := Float32.ofBits 0x3e789e26

/-- The logarithm of `2 ^ power * (1 + offset)`, with `lost` added to it. -/
def assemble (power offset lost : Float32) : Float32 :=
  let ratio := offset / (2.0 + offset)
  let square := ratio * ratio
  let fourth := square * square
  let even := fourth * (series₂ + fourth * series₄)
  let odd := square * (series₁ + fourth * series₃)
  let half := 0.5 * offset * offset
  ratio * (half + (odd + even)) + (power * twoLow + lost) - half + offset + power * twoHigh

/-- The logarithm of `1 + x` for an `x` that is not negative. -/
def onePlus (x : Float32) : Float32 :=
  let bits := x.toBits
  if bits < 0x33800000 then x
  else if bits < 0x3ed413d0 then assemble 0.0 x 0.0
  else if 0x7f800000 ≤ bits then x
  else
    let sum := 1.0 + x
    let shifted := sum.toBits + (0x3f800000 - 0x3f3504f3)
    let power := (shifted >>> 23).toNat - 127
    let lost :=
      if 25 ≤ power then 0.0
      else (if 2 ≤ power then 1.0 - (sum - x) else x - (sum - 1.0)) / sum
    let offset := Float32.ofBits ((shifted &&& 0x007fffff) + 0x3f3504f3) - 1.0
    assemble (Float32.ofNat power) offset lost

end Logarithm

end LightShow
