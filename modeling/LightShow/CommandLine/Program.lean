import LightShow.CommandLine.Help
import LightShow.CommandLine.Playing
import LightShow.Preview.Gallery
import LightShow.Wire.Link

/-! The program behind the command line. It reads a document, does what is asked for, and ends
with an exit code and its two outputs; only playing a show is left to the caller. What it needs
from the machine it asks of a host. -/

namespace LightShow

namespace CommandLine

/-- What the program needs from the machine. What cannot be done is told by a text. -/
structure Host (Machine : Type → Type) where
  input : Machine Json.Octets
  fetch : String → Machine (Except String Json.Octets)
  makeFolder : String → Machine (Except String Unit)
  save : String → Animation → Machine (Except String Unit)

/-- The path of the folder that holds a file; empty for a file that is named alone. -/
def folderOf (path : String) : String :=
  let file := path.toList.reverse.dropWhile (· = '/')
  let behind := file.dropWhile (· ≠ '/')
  let folder := behind.dropWhile (· = '/')
  if folder.isEmpty then String.ofList (behind.take 1) else String.ofList folder.reverse

/-- What is told when a request fails: what was tried, and what stood in its way. -/
structure Trouble where
  message : String
  cause : Option String

namespace Trouble

/-- Lines after the first are indented like the first. -/
private def indent (text : String) : String :=
  String.intercalate "\n    " (text.splitOn "\n")

def text (trouble : Trouble) : String :=
  match trouble.cause with
  | none => s!"Error: {trouble.message}\n"
  | some cause => s!"Error: {trouble.message}\n\nCaused by:\n    {indent cause}\n"

/-- A failure told by itself. A picture that cannot be is told with its own cause. -/
def ofFailure (failure : Failure) : Trouble :=
  match failure with
  | .pictureSize => ⟨failure.message, some Failure.pictureText⟩
  | _ => ⟨failure.message, none⟩

end Trouble

inductive Outcome where
  | done (code : UInt32) (output error : String)
  | play (playing : Playing)

namespace Outcome

def printed (output : String) : Outcome := .done 0 output ""

def failed (trouble : Trouble) : Outcome := .done 1 "" trouble.text

def misused (misuse : Misuse) : Outcome :=
  .done 2 "" s!"error: {misuse.message}\n\n{usageText}\nFor more information, try '--help'.\n"

end Outcome

/-- One line for each frame: its time, in at least eight columns, and its pixels. -/
def frameLines (step : UInt64) : (count : Nat) → (time : UInt64) → Live → Strip → List String
  | 0, _, _, _ => []
  | count + 1, time, live, strip =>
      let (strip, live) := live.render (.ofWord time) strip
      let shown := toString time.toNat
      let margin := String.ofList (List.replicate (8 - shown.length) ' ')
      (margin ++ shown ++ " " ++ String.ofList strip.toText ++ "\n") ::
        frameLines step count (time + step) live strip

section
variable {Machine : Type → Type} [Monad Machine]

/-- Reads a file, or the standard input for `-`. -/
def readDocument (host : Host Machine) (path : String) :
    Machine (Except Trouble Json.Octets) := do
  if path = "-" then return .ok (← host.input)
  return (← host.fetch path).mapError fun text => ⟨s!"read pattern '{path}'", some text⟩

/-- Reads a pattern and goes on with it. -/
def withPattern (host : Host Machine) (path : String) (next : Pattern → Outcome) :
    Machine Outcome := do
  match ← readDocument host path with
  | .error trouble => return .failed trouble
  | .ok document =>
      match Catalog.builtin.decode document with
      | .error failure => return .failed ⟨s!"decode pattern '{path}'", some failure.message⟩
      | .ok pattern => return next pattern

/-- Draws a preview and saves it, in a folder that is made if need be. -/
def makeThumbnail (host : Host Machine) (input output : String) (settings : PreviewSettings) :
    Machine Outcome := do
  match ← readDocument host input with
  | .error trouble => return .failed trouble
  | .ok document =>
      match (Gallery.empty Catalog.builtin settings).request document with
      | (.error failure, _) => return .failed (.ofFailure failure)
      | (.ok exhibit, _) =>
          let folder := folderOf output
          match ← host.makeFolder folder with
          | .error text => return .failed ⟨s!"create output dir '{folder}'", some text⟩
          | .ok () =>
              match ← host.save output exhibit.animation with
              | .error text => return .failed ⟨s!"write gif '{output}'", some text⟩
              | .ok () => return .done 0 "" s!"wrote {output} ({settings.frameCount} frames)\n"

def perform (host : Host Machine) : Request → Machine Outcome
  | .frames input pixels start step count =>
      withPattern host input fun pattern =>
        let dark := Strip.dark pixels
        .printed (String.join (frameLines (.ofNat step) count (.ofNat start) (.start pattern) dark))
  | .thumbnail input output settings => makeThumbnail host input output settings
  | .canonical input wrapped =>
      withPattern host input fun pattern =>
        let text := if wrapped then Link.wrap pattern.encode else pattern.canonical
        .printed (text ++ "\n")
  | .validate input pixels =>
      withPattern host input fun pattern =>
        match pattern.validate pixels with
        | .ok () => .printed s!"ok: {pattern.kind.name} on {pixels} LEDs\n"
        | .error refusal => .failed (.ofFailure (.refused refusal))
  | .play input pixels rate seconds fade =>
      withPattern host input fun pattern => .play (.start pattern pixels rate seconds fade)
  | .help topic => return .printed (helpText topic)
  | .version => return .printed versionText

def run (host : Host Machine) (arguments : List String) : Machine Outcome :=
  match parse arguments with
  | .ok request => perform host request
  | .error misuse => return .misused misuse

end

end CommandLine

end LightShow
