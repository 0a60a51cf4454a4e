import LightShow.Json.Fault
import LightShow.Pattern.Validate
import LightShow.Text.Base64

/-! Everything that can go wrong with a document or a request, by its cause, and its wording. -/

namespace LightShow

/-- Why a value is no pattern. -/
inductive Misfit where
  | noKind
  | kindNotText (value : Json)
  | notPattern (value : Json)
  | badColor (text : String)
  | badFrame (text : String)
  | badText (text : String)
  /-- A field of a pattern of some kind does not hold what it should. -/
  | field (kind name : String) (fault : Json.Fault)
  | noColor (kind name : String)
  | notColor (kind name : String) (value : Json)
  | notList (kind name : String) (value : Json)
  | other (reason : String)

def Misfit.message : Misfit → String
  | .noKind => "missing _type"
  | .kindNotText value => s!"_type must be a string, got {value.text}"
  | .notPattern value => s!"expected a pattern object or string, got {value.text}"
  | .badColor text => s!"invalid color {Quoted.text text}"
  | .badFrame text => s!"invalid frame {Quoted.text text}"
  | .badText text => s!"unrecognized pattern string {Quoted.text text}"
  | .field kind name fault => s!"{kind}.{name}: {fault.message}"
  | .noColor kind name => s!"{kind}.{name}: missing color"
  | .notColor kind name value => s!"{kind}.{name}: expected #rrggbb, got {value.text}"
  | .notList kind name value => s!"{kind}.{name}: expected a list, got {value.text}"
  | .other reason => reason

inductive Failure where
  | misfit (cause : Misfit)
  | unknownKind (name : String)
  | refused (cause : Refusal)
  | json (error : Json.Error)
  | base64 (fault : Base64.Fault)
  /-- A picture wider or higher than its format can say. -/
  | pictureSize

namespace Failure

/-- The cause without the class of failure in front of it. -/
def pictureText : String := "The Image's dimensions are either too small or too large"

def message : Failure → String
  | .misfit cause => s!"decode error: {cause.message}"
  | .unknownKind name => s!"unknown pattern: {name}"
  | .refused cause => s!"validation error: {cause.message}"
  | .json error => error.message
  | .base64 fault => fault.message
  | .pictureSize => s!"image error: {pictureText}"

end Failure

end LightShow
