import LightShow.Json.Record
import LightShow.Strip

/-! The text of a strip as a JSON string. -/

namespace LightShow

namespace Json

private def stripOf (text : String) : Except Fault Strip :=
  match Strip.ofText? text.toList with
  | some strip => .ok strip
  | none => .error (.invalidValue (.string text) "L followed by rrggbb pixels")

def toStrip (value : Json) : Except Fault Strip := do
  let text ← value.toText
  stripOf text

theorem toStrip_toText (strip : Strip) :
    toStrip (.string (String.ofList strip.toText)) = .ok strip := by
  simp only [toStrip, toText, stripOf, bind, Except.bind, String.toList_ofList,
    Strip.ofText?_toText]

theorem exists_toStrip_ok {value : Json} :
    (∃ strip, toStrip value = .ok strip) ↔ ∃ digits,
      value = .string (String.ofList ('L' :: digits)) ∧ (Strip.ofHex? digits).isSome := by
  constructor
  · rintro ⟨strip, read⟩
    cases value with
    | string text =>
        change stripOf text = .ok strip at read
        unfold stripOf Strip.ofText? at read
        split at read
        · next shown found =>
            split at found
            · next digits chars =>
                exact ⟨digits, by rw [← chars, String.ofList_toList],
                  Option.isSome_of_eq_some found⟩
            · cases found
        · cases read
    | _ => cases read
  · rintro ⟨digits, rfl, found⟩
    obtain ⟨strip, found⟩ := Option.isSome_iff_exists.mp found
    refine ⟨strip, ?_⟩
    simp only [toStrip, toText, stripOf, bind, Except.bind, String.toList_ofList, Strip.ofText?,
      found]

/-- Reads a text that holds one such string. A string that is no strip has no place in the text,
and is told before anything that stands behind it. -/
def readStrip (text : Octets) : Except Error Strip := do
  let (value, rest) ← (Scan.text "a string" text).mapError (·.locate text)
  let strip ← (stripOf value).mapError fun fault => ⟨fault, none⟩
  (Scan.finish rest).mapError (·.locate text)
  return strip

end Json

end LightShow
