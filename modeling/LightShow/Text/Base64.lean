/-! Octets as text that may stand in a link: six bits per symbol, from letters, digits, `-` and
`_`, filled up with `=` to whole groups of four. Every octet string has exactly one text. -/

namespace LightShow

namespace Base64

inductive Fault where
  | symbol (octet : UInt8) (offset : Nat)
  | length (count : Nat)
  | lastSymbol (octet : UInt8) (offset : Nat)
  | padding
deriving DecidableEq

def Fault.message : Fault → String
  | .symbol octet offset => s!"Invalid symbol {octet.toNat}, offset {offset}."
  | .length count => s!"Invalid input length: {count}"
  | .lastSymbol octet offset => s!"Invalid last symbol {octet.toNat}, offset {offset}."
  | .padding => "Invalid padding"

/-- The symbol of a value below 64. -/
def symbol (value : Nat) : UInt8 :=
  UInt8.ofNat <|
    if value < 26 then 65 + value
    else if value < 52 then 71 + value
    else if value < 62 then value - 4
    else if value = 62 then 45
    else 95

/-- The value of a symbol. -/
def value? (octet : UInt8) : Option Nat :=
  let code := octet.toNat
  if 65 ≤ code ∧ code ≤ 90 then some (code - 65)
  else if 97 ≤ code ∧ code ≤ 122 then some (code - 71)
  else if 48 ≤ code ∧ code ≤ 57 then some (code + 4)
  else if code = 45 then some 62
  else if code = 95 then some 63
  else none

/-- The mark that fills up the last group, `=`. -/
def filler : UInt8 := 61

def encode : List UInt8 → List UInt8
  | [] => []
  | [a] =>
      let bits := a.toNat * 16
      [symbol (bits / 64), symbol (bits % 64), filler, filler]
  | [a, b] =>
      let bits := (a.toNat * 256 + b.toNat) * 4
      [symbol (bits / 4096), symbol (bits / 64 % 64), symbol (bits % 64), filler]
  | a :: b :: c :: rest =>
      let bits := (a.toNat * 256 + b.toNat) * 256 + c.toNat
      symbol (bits / 262144) :: symbol (bits / 4096 % 64) :: symbol (bits / 64 % 64) ::
        symbol (bits % 64) :: encode rest

/-- The symbols of the last group and the number of fillers behind them. A filler may stand only
behind two symbols, and no symbol behind a filler. -/
def lastGroup (offset : Nat) : (seen : List (UInt8 × Nat)) → (fillers : Nat) → List UInt8 →
    Except Fault (List (UInt8 × Nat) × Nat)
  | seen, fillers, [] => .ok (seen, fillers)
  | seen, fillers, octet :: rest =>
      let here := offset + seen.length + fillers
      if octet = filler then
        if here < offset + 2 then .error (.symbol filler here)
        else lastGroup offset seen (fillers + 1) rest
      else if 0 < fillers then .error (.symbol filler (offset + seen.length))
      else match value? octet with
      | none => .error (.symbol octet here)
      | some value => lastGroup offset (seen ++ [(octet, value)]) fillers rest

/-- The octets of the last group. It holds no symbol at all only if the whole text is empty, and
the bits that do not fill an octet are zero. -/
def decodeLast (offset : Nat) (octets : List UInt8) : Except Fault (List UInt8) := do
  let (symbols, fillers) ← lastGroup offset [] 0 octets
  if octets.isEmpty then return []
  if symbols.length < 2 then throw (.length (offset + symbols.length))
  if (symbols.length + fillers) % 4 ≠ 0 then throw .padding
  match symbols with
  | [(_, a), (second, b)] =>
      if b % 16 ≠ 0 then throw (.lastSymbol second (offset + 1))
      return [UInt8.ofNat ((a * 64 + b) / 16)]
  | [(_, a), (_, b), (third, c)] =>
      if c % 4 ≠ 0 then throw (.lastSymbol third (offset + 2))
      let bits := ((a * 64 + b) * 64 + c) / 4
      return [UInt8.ofNat (bits / 256), UInt8.ofNat (bits % 256)]
  | [(_, a), (_, b), (_, c), (_, d)] =>
      let bits := ((a * 64 + b) * 64 + c) * 64 + d
      return [UInt8.ofNat (bits / 65536), UInt8.ofNat (bits / 256 % 256), UInt8.ofNat (bits % 256)]
  | _ => throw .padding

def digit (offset : Nat) (octet : UInt8) : Except Fault Nat :=
  match value? octet with
  | some value => .ok value
  | none => .error (.symbol octet offset)

/-- Reads group after group; the last one, whole or not, has rules of its own. -/
def decodeFrom (offset : Nat) : List UInt8 → Except Fault (List UInt8)
  | a :: b :: c :: d :: e :: rest => do
      let first ← digit offset a
      let second ← digit (offset + 1) b
      let third ← digit (offset + 2) c
      let fourth ← digit (offset + 3) d
      let bits := ((first * 64 + second) * 64 + third) * 64 + fourth
      let octets ← decodeFrom (offset + 4) (e :: rest)
      return UInt8.ofNat (bits / 65536) :: UInt8.ofNat (bits / 256 % 256) ::
        UInt8.ofNat (bits % 256) :: octets
  | short => decodeLast offset short

/-- A single octet behind the last whole group that is neither symbol nor filler, such as a line
break, is reported before anything else. -/
def strayEnd? (octets : List UInt8) : Option Fault :=
  if octets.length % 4 = 1 then
    match octets.getLast? with
    | some last =>
        if last ≠ filler ∧ value? last = none then some (.symbol last (octets.length - 1))
        else none
    | none => none
  else none

/-- Reads what `encode` writes and nothing else. -/
def decode (octets : List UInt8) : Except Fault (List UInt8) :=
  match strayEnd? octets with
  | some fault => .error fault
  | none => decodeFrom 0 octets

end Base64

end LightShow
