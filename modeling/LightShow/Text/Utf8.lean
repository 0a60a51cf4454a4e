/-! Text as octets. Decoding takes the shortest form of every code point alone and refuses
surrogates; a refusal says how many octets of good text stand before the first bad one. -/

namespace LightShow

namespace Utf8

def encode (text : List Char) : List UInt8 := text.flatMap String.utf8EncodeChar

private def isTail (octet : UInt8) : Bool := 128 ≤ octet && octet < 192

private def tail (octet : UInt8) : Nat := octet.toNat - 128

/-- The first character and the number of octets it takes. -/
def first? : List UInt8 → Option (Char × Nat)
  | [] => none
  | a :: rest =>
      if a < 128 then some (Char.ofNat a.toNat, 1)
      else match rest with
      | [] => none
      | b :: rest =>
          if !isTail b then none
          else if 194 ≤ a && a < 224 then
            some (Char.ofNat ((a.toNat - 192) * 64 + tail b), 2)
          else match rest with
          | [] => none
          | c :: rest =>
              if !isTail c then none
              else if 224 ≤ a && a < 240 then
                if (a == 224 && b < 160) || (a == 237 && 160 ≤ b) then none
                else some (Char.ofNat ((a.toNat - 224) * 4096 + tail b * 64 + tail c), 3)
              else match rest with
              | [] => none
              | d :: _ =>
                  if !isTail d || a < 240 || 245 ≤ a || (a == 240 && b < 144)
                    || (a == 244 && 144 ≤ b) then none
                  else
                    some (Char.ofNat ((a.toNat - 240) * 262144 + tail b * 4096 + tail c * 64
                      + tail d), 4)

/-- Decodes with at most one step per octet; `position` octets have been read before. -/
def decodeFrom : (steps : Nat) → (position : Nat) → List UInt8 → Except Nat (List Char)
  | _, _, [] => .ok []
  | 0, position, _ :: _ => .error position
  | steps + 1, position, octets =>
      match first? octets with
      | none => .error position
      | some (char, width) => do
          let rest ← decodeFrom steps (position + width) (octets.drop width)
          return char :: rest

/-- The text, or the number of octets before the first that does not belong to any. -/
def decode (octets : List UInt8) : Except Nat (List Char) := decodeFrom octets.length 0 octets

end Utf8

end LightShow
