import LightShow.Strip

/-! Sums of light. Each layer adds its pixels times its weight; only the sum is rounded and held
within the levels of a pixel. -/

namespace LightShow

structure Light where
  red : Float32
  green : Float32
  blue : Float32

namespace Light

def none : Light := ⟨0.0, 0.0, 0.0⟩

def add (light : Light) (color : Color) (weight : Float32) : Light :=
  ⟨light.red + color.red.toFloat32 * weight,
    light.green + color.green.toFloat32 * weight,
    light.blue + color.blue.toFloat32 * weight⟩

def color (light : Light) : Color :=
  ⟨Level.ofSum light.red, Level.ofSum light.green, Level.ofSum light.blue⟩

/-- The light of some layers on `length` pixels, one layer after the other. -/
def sum (length : Nat) (layers : List (Strip × Float32)) : List Light :=
  layers.foldl
    (fun lights (pixels, weight) =>
      List.zipWith (fun light pixel => light.add pixel weight) lights pixels)
    (List.replicate length none)

def mixture (length : Nat) (layers : List (Strip × Float32)) : Strip :=
  (sum length layers).map color

end Light

end LightShow
