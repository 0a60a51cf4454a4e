import LightShow.Color.Basic

/-! The visible spectrum. Between a few anchor wavelengths every channel runs along a straight
line, rounded toward zero; both ends taper towards black, and outside the range nothing shines. -/

namespace LightShow

namespace Spectrum

/-- The first wavelength, in nanometres, that is seen. -/
def first : Int := 380

/-- The first wavelength past the visible range. -/
def past : Int := 781

private def level (value : Int) : Level := UInt8.ofNat value.toNat

/-- The color of light of the wavelength `nm`, in nanometres. -/
def color (nm : Int) : Color :=
  if nm < first then .black
  else if nm < 420 then
    ⟨level (196 - 170 * (440 - nm) / 60), 0, level (26 + 229 * (nm - 380) / 40)⟩
  else if nm < 440 then ⟨level (137 * (440 - nm) / 20), 0, 255⟩
  else if nm < 490 then ⟨0, level (255 * (nm - 440) / 50), 255⟩
  else if nm < 510 then ⟨0, 255, level (255 * (510 - nm) / 20)⟩
  else if nm < 580 then ⟨level (255 * (nm - 510) / 70), 255, 0⟩
  else if nm < 645 then ⟨255, level (255 * (645 - nm) / 65), 0⟩
  else if nm < 700 then ⟨255, 0, 0⟩
  else if nm < past then ⟨level (26 + 229 * (780 - nm) / 80), 0, 0⟩
  else .black

end Spectrum

end LightShow
