import LightShow.Preview.Animation

/-! The octets of a picture that moves, in the GIF format. Pixels are sent as they are: every code
stands for one pixel, and the table of the decompressor is cleared before its codes grow. -/

namespace LightShow

namespace Gif

/-- Two octets, the lower one first. -/
def word (value : Nat) : List UInt8 := [UInt8.ofNat value, UInt8.ofNat (value / 256)]

def codeWidth : Nat := 9

/-- The code that clears the table. -/
def clear : Nat := 256

/-- The code that ends the pixels. -/
def finish : Nat := 257

/-- How many pixels are sent between two clearings; the codes would grow with the 256th. -/
def stretch : Nat := 250

/-- Pixel codes with a clearing before every stretch. -/
def codesFrom : (left : Nat) → List Nat → List Nat
  | _, [] => [finish]
  | 0, index :: rest => clear :: index :: codesFrom (stretch - 1) rest
  | left + 1, index :: rest => index :: codesFrom left rest

/-- Codes packed into octets, the lowest bit first. `held` are the bits that fill no octet yet. -/
def pack : (held count : Nat) → List Nat → List UInt8
  | _, 0, [] => []
  | held, _ + 1, [] => [UInt8.ofNat held]
  | held, count, code :: rest =>
      let bits := held + code * Nat.pow 2 count
      let total := count + codeWidth
      if total < 16 then UInt8.ofNat bits :: pack (bits / 256) (total - 8) rest
      else
        UInt8.ofNat bits :: UInt8.ofNat (bits / 256) :: pack (bits / 65536) (total - 16) rest

/-- Octets in blocks of 255 at most, each behind its size, and an empty block. -/
def blocks : (steps : Nat) → List UInt8 → List UInt8
  | 0, _ => [0]
  | _, [] => [0]
  | steps + 1, octets =>
      let block := octets.take 255
      UInt8.ofNat block.length :: block ++ blocks steps (octets.drop 255)

/-- The different colors of a strip, in the order in which they occur. -/
def distinct (strip : Strip) : List Color :=
  (strip.foldl (fun seen color => if color ∈ seen then seen else color :: seen) []).reverse

/-- A color with fewer levels, of which there are 252 in all. -/
def coarse (color : Color) : Color :=
  let level := fun (value : UInt8) (steps : Nat) =>
    UInt8.ofNat ((value.toNat * steps + 127) / 255 * 255 / steps)
  ⟨level color.red 5, level color.green 6, level color.blue 5⟩

/-- A strip of 256 colors at most. -/
def reduced (strip : Strip) : Strip :=
  if (distinct strip).length ≤ 256 then strip else strip.map coarse

def tableOctets (table : List Color) : List UInt8 :=
  let octets := table.flatMap fun color => [color.red, color.green, color.blue]
  octets ++ List.replicate (768 - octets.length) 0

/-- One frame: its delay, its place, its colors and its pixels. -/
def frame (width delay : Nat) (strip : Strip) : List UInt8 :=
  let pixels := reduced strip
  let table := distinct pixels
  let codes := codesFrom 0 (pixels.map fun color => table.idxOf color)
  let data := pack 0 0 codes
  [0x21, 0xf9, 4, 0] ++ word delay ++ [0, 0] ++
    [0x2c] ++ word 0 ++ word 0 ++ word width ++ word 1 ++ [0x87] ++ tableOctets table ++
    8 :: blocks data.length data

/-- The header, and the extension that repeats the picture forever. -/
def header (width : Nat) : List UInt8 :=
  [0x47, 0x49, 0x46, 0x38, 0x39, 0x61] ++ word width ++ word 1 ++ [0, 0, 0] ++
    [0x21, 0xff, 11] ++ "NETSCAPE2.0".toUTF8.toList ++ [3, 1, 0, 0, 0]

/-- The whole picture; a picture without frames has no octets. -/
def encode (animation : Animation) : List UInt8 :=
  if animation.frames.isEmpty then []
  else
    header animation.width ++
      animation.frames.flatMap (frame animation.width animation.delay) ++ [0x3b]

end Gif

end LightShow
