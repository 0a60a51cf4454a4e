import LightShow.CommandLine.Request

/-! The texts that explain the command line. -/

namespace LightShow

namespace CommandLine

def programName : String := "pattern-composer-preview"

def versionText : String := programName ++ " 0.0.0\n"

def Topic.summary : Topic → String
  | .frames => "Print rendered frames as `L` + hex lines"
  | .thumbnail => "Write a looping GIF thumbnail"
  | .canonical => "Print the canonical encoding"
  | .validate => "Check the pattern tree for structural problems"
  | .play => "Play the pattern in the terminal"

private def inputLine : String × String :=
  ("    --in <IN_PATH>", "Input pattern JSON (`-` for stdin)")

private def verboseLine : String × String :=
  ("-v, --verbose", "Log decoding and cache activity to stderr")

private def helpLine : String × String := ("-h, --help", "Print help")

/-- The options of a command: how they are written, and what they are for. -/
def Topic.lines : Topic → List (String × String)
  | .frames =>
      [("    --leds <LEDS>", "Number of LEDs [default: 30]"),
        ("    --start-ms <START_MS>", "Time of the first frame, in milliseconds [default: 0]"),
        ("    --step-ms <STEP_MS>", "Time between frames, in milliseconds [default: 100]"),
        ("    --count <COUNT>", "Number of frames [default: 10]")]
  | .thumbnail =>
      [("    --out <OUT>", "Output GIF path"),
        ("    --leds <LEDS>", "Number of LEDs (image width)"),
        ("    --hz <HZ>", "Frames per second"),
        ("    --seconds <SECONDS>", "Animation length in seconds")]
  | .canonical => [("    --base64", "Wrap the output in URL-safe base64")]
  | .validate => [("    --leds <LEDS>", "Number of LEDs [default: 100]")]
  | .play =>
      [("    --leds <LEDS>", "Number of LEDs [default: 60]"),
        ("    --fps <FPS>", "Frames per second [default: 30]"),
        ("    --seconds <SECONDS>", "Stop after this many seconds [default: 10]"),
        ("    --fade", "Fade in from black instead of cutting")]

/-- Two columns, the second one two blanks right of the longest entry of the first. -/
def columns (entries : List (String × String)) : String :=
  let width := entries.foldl (fun width entry => max width entry.1.length) 0
  String.join (entries.map fun (left, right) =>
    "  " ++ left ++ String.ofList (List.replicate (width - left.length + 2) ' ') ++ right ++ "\n")

def Topic.needs : Topic → String
  | .thumbnail => "--in <IN_PATH> --out <OUT>"
  | _ => "--in <IN_PATH>"

def usageText : String := "Usage: " ++ programName ++ " [OPTIONS] <COMMAND>\n"

def helpText : Option Topic → String
  | none =>
      usageText ++ "\nCommands:\n" ++
        columns ((Topic.all.map fun topic => (topic.name, topic.summary)) ++
          [("help", "Print this message or the help of the given subcommand(s)")]) ++
        "\nOptions:\n" ++
        columns [verboseLine, helpLine, ("-V, --version", "Print version")]
  | some topic =>
      topic.summary ++ "\n\nUsage: " ++ programName ++ " " ++ topic.name ++ " [OPTIONS] " ++
        topic.needs ++ "\n\nOptions:\n" ++
        columns (inputLine :: verboseLine :: topic.lines ++ [helpLine])

end CommandLine

end LightShow
