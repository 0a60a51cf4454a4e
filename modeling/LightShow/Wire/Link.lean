import LightShow.Failure
import LightShow.Text.Utf8

/-! Octets as a text that may stand in a link. -/

namespace LightShow

namespace Link

def wrap (octets : List UInt8) : String :=
  String.ofList ((Base64.encode octets).map fun octet => Char.ofNat octet.toNat)

def unwrap (text : String) : Except Failure (List UInt8) :=
  (Base64.decode (Utf8.encode text.toList)).mapError .base64

end Link

end LightShow
