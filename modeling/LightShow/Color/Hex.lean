import LightShow.Color.Basic

/-! The text of a color, `rrggbb`: two hexadecimal digits per channel. Writing uses lower case,
reading takes either case and accepts nothing but six digits. -/

namespace LightShow

namespace Hex

/-- The lower-case digit of a value below 16. -/
def digit (value : Nat) : Char :=
  if value < 10 then Char.ofNat (48 + value) else Char.ofNat (87 + value)

/-- The value of a digit of either case. -/
def value? (char : Char) : Option Nat :=
  if 48 ≤ char.toNat ∧ char.toNat ≤ 57 then some (char.toNat - 48)
  else if 97 ≤ char.toNat ∧ char.toNat ≤ 102 then some (char.toNat - 87)
  else if 65 ≤ char.toNat ∧ char.toNat ≤ 70 then some (char.toNat - 55)
  else none

def ofByte (byte : UInt8) : List Char :=
  [digit (byte.toNat / 16), digit (byte.toNat % 16)]

def byte? (high low : Char) : Option UInt8 := do
  let upper ← value? high
  let lower ← value? low
  return UInt8.ofNat (16 * upper + lower)

theorem value?_digit : ∀ value, value < 16 → value? (digit value) = some value := by decide

theorem byte?_ofByte (byte : UInt8) :
    byte? (digit (byte.toNat / 16)) (digit (byte.toNat % 16)) = some byte := by
  have bound := byte.toNat_lt
  have upper := value?_digit (byte.toNat / 16) (by omega)
  have lower := value?_digit (byte.toNat % 16) (by omega)
  have whole : 16 * (byte.toNat / 16) + byte.toNat % 16 = byte.toNat := by omega
  rw [byte?, upper, lower]
  change some (UInt8.ofNat (16 * (byte.toNat / 16) + byte.toNat % 16)) = some byte
  rw [whole, UInt8.ofNat_toNat]

end Hex

namespace Color

/-- Six lower-case digits. -/
def toHex (color : Color) : List Char :=
  Hex.ofByte color.red ++ Hex.ofByte color.green ++ Hex.ofByte color.blue

/-- The color of exactly six digits, of either case. -/
def ofHex? : List Char → Option Color
  | [r₁, r₂, g₁, g₂, b₁, b₂] => do
    let red ← Hex.byte? r₁ r₂
    let green ← Hex.byte? g₁ g₂
    let blue ← Hex.byte? b₁ b₂
    return ⟨red, green, blue⟩
  | _ => none

theorem ofHex?_toHex (color : Color) : ofHex? color.toHex = some color := by
  simp [toHex, Hex.ofByte, ofHex?, Hex.byte?_ofByte]

end Color

end LightShow
