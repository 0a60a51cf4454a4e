import LightShow.Settings

/-! What is asked for on the command line. A command has options; each is given once at most, as
`--name value` or `--name=value`, and some have to be given. Arguments are read from left to
right, and the first fault or call for help decides. -/

namespace LightShow

namespace CommandLine

inductive Topic where
  | frames
  | thumbnail
  | canonical
  | validate
  | play
deriving DecidableEq

def Topic.all : List Topic := [.frames, .thumbnail, .canonical, .validate, .play]

def Topic.name : Topic → String
  | .frames => "frames"
  | .thumbnail => "thumbnail"
  | .canonical => "canonical"
  | .validate => "validate"
  | .play => "play"

inductive Request where
  /-- Prints `count` frames, the first one at `start` and one each `step` milliseconds. -/
  | frames (input : String) (pixels start step count : Nat)
  /-- Writes a preview. -/
  | thumbnail (input output : String) (settings : PreviewSettings)
  /-- Prints the canonical document, as it is or wrapped for a link. -/
  | canonical (input : String) (wrapped : Bool)
  /-- Checks a pattern for a length of strip. -/
  | validate (input : String) (pixels : Nat)
  /-- Plays a pattern on the terminal. -/
  | play (input : String) (pixels rate seconds : Nat) (fade : Bool)
  | help (topic : Option Topic)
  | version

/-- Why a command line is not understood. -/
inductive Misuse where
  | noCommand
  | unknownCommand (text : String)
  | unexpected (argument : String)
  | repeated (name : String)
  | noValue (name : String)
  | notWhole (name value : String)
  | missing (name : String)

def Misuse.message : Misuse → String
  | .noCommand => "a command is required"
  | .unknownCommand text => s!"unrecognized subcommand '{text}'"
  | .unexpected argument => s!"unexpected argument '{argument}' found"
  | .repeated name => s!"the argument '--{name}' cannot be used multiple times"
  | .noValue name => s!"a value is required for '--{name}' but none was supplied"
  | .notWhole name value => s!"invalid value '{value}' for '--{name}'"
  | .missing name => s!"the required argument '--{name}' was not provided"

/-- The values that an option takes. -/
inductive Form where
  | flag
  | path
  /-- A whole number up to `most`. A signed form takes a zero with a minus sign too. -/
  | whole (most : Nat) (signed : Bool)

structure Switch where
  name : String
  form : Form

/-- Options as they were given. -/
abbrev Given := List (String × String)

def digitsValue? (digits : List Char) : Option Nat :=
  if digits.isEmpty || !digits.all Char.isDigit then none
  else some (digits.foldl (fun total digit => total * 10 + (digit.toNat - 48)) 0)

/-- A whole number up to `most`, with or without a plus sign. -/
def whole? (most : Nat) (signed : Bool) (text : String) : Option Nat :=
  match text.toList with
  | '-' :: digits => if signed then (digitsValue? digits).filter (· = 0) else none
  | '+' :: digits => (digitsValue? digits).filter (· ≤ most)
  | digits => (digitsValue? digits).filter (· ≤ most)

/-- A value is not taken from an argument that starts like an option. -/
def isValue (argument : String) : Bool :=
  match argument.toList with
  | '-' :: _ :: _ => false
  | _ => true

/-- Adds an option with a value that fits its form. -/
def accept (switch : Switch) (value : String) (given : Given) : Except Misuse Given :=
  if given.any (·.1 = switch.name) then .error (.repeated switch.name)
  else
    match switch.form with
    | .flag => .ok ((switch.name, value) :: given)
    | .path =>
        if value.isEmpty then .error (.noValue switch.name)
        else .ok ((switch.name, value) :: given)
    | .whole most signed =>
        match whole? most signed value with
        | some _ => .ok ((switch.name, value) :: given)
        | none => .error (.notWhole switch.name value)

/-- Where reading the arguments has come to. -/
inductive Step where
  | given (options : Given)
  | help
  | version

/-- The flags of one argument behind a single dash. -/
def shortFlags (given : Given) : List Char → Except Misuse Step
  | [] => .ok (.given given)
  | 'v' :: rest => do
      let given ← accept ⟨"verbose", .flag⟩ "" given
      shortFlags given rest
  | 'h' :: _ => .ok .help
  | 'V' :: _ => .ok .version
  | other :: _ => .error (.unexpected (String.ofList ['-', other]))

/-- The option that a long argument names, with its value if that stands in the argument. -/
def splitLong (body : List Char) : String × Option String :=
  let name := String.ofList (body.takeWhile (· != '='))
  match body.dropWhile (· != '=') with
  | _ :: value => (name, some (String.ofList value))
  | [] => (name, none)

/-- Reads the arguments of a command to their end. -/
def collect (switches : List Switch) : (steps : Nat) → Given → List String → Except Misuse Step
  | _, given, [] => .ok (.given given)
  | 0, given, _ => .ok (.given given)
  | steps + 1, given, argument :: rest =>
      match argument.toList with
      | ['-', '-'] =>
          match rest with
          | [] => .ok (.given given)
          | extra :: _ => .error (.unexpected extra)
      | '-' :: '-' :: body =>
          let (name, attached) := splitLong body
          if name = "help" && attached.isNone then .ok .help
          else
            match switches.find? (·.name = name) with
            | none => .error (.unexpected argument)
            | some switch =>
                match switch.form, attached with
                | .flag, some _ => .error (.unexpected argument)
                | .flag, none => do
                    let given ← accept switch "" given
                    collect switches steps given rest
                | _, some value => do
                    let given ← accept switch value given
                    collect switches steps given rest
                | _, none =>
                    match rest with
                    | [] => .error (.noValue name)
                    | value :: rest =>
                        if isValue value then do
                          let given ← accept switch value given
                          collect switches steps given rest
                        else .error (.noValue name)
      | '-' :: first :: letters => do
          match ← shortFlags given (first :: letters) with
          | .given given => collect switches steps given rest
          | .help => return .help
          | .version => throw (.unexpected argument)
      | _ => .error (.unexpected argument)

def mostWord : Nat := UInt64.size - 1

private def word (name : String) : Switch := ⟨name, .whole mostWord false⟩

def Topic.switches : Topic → List Switch
  | .frames => [word "leds", word "start-ms", word "step-ms", word "count"]
  | .thumbnail =>
      [⟨"out", .path⟩, word "leds", ⟨"hz", .whole (UInt32.size - 1) true⟩, word "seconds"]
  | .canonical => [⟨"base64", .flag⟩]
  | .validate => [word "leds"]
  | .play => [word "leds", word "fps", word "seconds", ⟨"fade", .flag⟩]

private def valueOf? (given : Given) (name : String) : Option String :=
  (given.find? (·.1 = name)).map (·.2)

private def require (given : Given) (name : String) : Except Misuse String :=
  match valueOf? given name with
  | some value => .ok value
  | none => .error (.missing name)

private def wholeOr (given : Given) (name : String) (usual : Nat) : Nat :=
  ((valueOf? given name).bind (whole? mostWord true)).getD usual

private def has (given : Given) (name : String) : Bool := (valueOf? given name).isSome

/-- The request of a command with its options. -/
def Topic.request (topic : Topic) (given : Given) : Except Misuse Request := do
  let input ← require given "in"
  match topic with
  | .frames =>
      return .frames input (wholeOr given "leds" 30) (wholeOr given "start-ms" 0)
        (wholeOr given "step-ms" 100) (wholeOr given "count" 10)
  | .thumbnail =>
      let output ← require given "out"
      let usual := PreviewSettings.usual
      let pixels := wholeOr given "leds" usual.pixels.toNat
      let rate := wholeOr given "hz" usual.rate.toNat
      let duration := match valueOf? given "seconds" with
        | some _ => Time.ofSeconds (.ofNat (wholeOr given "seconds" 0))
        | none => usual.duration
      return .thumbnail input output ⟨UInt64.ofNat pixels, UInt32.ofNat rate, duration⟩
  | .canonical => return .canonical input (has given "base64")
  | .validate => return .validate input (wholeOr given "leds" 100)
  | .play =>
      return .play input (wholeOr given "leds" 60) (wholeOr given "fps" 30)
        (wholeOr given "seconds" 10) (has given "fade")

/-- Reads the arguments behind the name of a command. -/
def Topic.parse (topic : Topic) (arguments : List String) : Except Misuse Request := do
  let common : List Switch := [⟨"in", .path⟩, ⟨"verbose", .flag⟩]
  match ← collect (common ++ topic.switches) arguments.length [] arguments with
  | .given given => topic.request given
  | .help | .version => return .help (some topic)

def topicNamed? (name : String) : Option Topic := Topic.all.find? (·.name = name)

/-- Reads the arguments up to the name of a command, and then those of the command. -/
def parseFrom (given : Given) : List String → Except Misuse Request
  | [] => .error .noCommand
  | argument :: rest =>
      match argument.toList with
      | '-' :: '-' :: body =>
          match String.ofList body with
          | "help" => .ok (.help none)
          | "version" => .ok .version
          | "verbose" => do
              let given ← accept ⟨"verbose", .flag⟩ "" given
              parseFrom given rest
          | "" => .error .noCommand
          | _ => .error (.unexpected argument)
      | '-' :: first :: letters => do
          match ← shortFlags given (first :: letters) with
          | .given given => parseFrom given rest
          | .help => return .help none
          | .version => return .version
      | _ =>
          if argument = "help" then
            match rest with
            | [] => .ok (.help none)
            | [name] =>
                match topicNamed? name with
                | some topic => .ok (.help (some topic))
                | none => if name = "help" then .ok (.help none) else .error (.unknownCommand name)
            | _ :: extra :: _ => .error (.unexpected extra)
          else
            match topicNamed? argument with
            | some topic => topic.parse rest
            | none => .error (.unknownCommand argument)

def parse (arguments : List String) : Except Misuse Request := parseFrom [] arguments

end CommandLine

end LightShow
