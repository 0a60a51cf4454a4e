import LightShow.CommandLine.Program
import LightShow.Preview.Gif

/-! The program on a real machine: files, the clock and the terminal. -/

namespace LightShow

namespace CommandLine

/-- The system's number of a fault; some calls count it downwards from zero. -/
def faultNumber (code : UInt32) : Nat :=
  if code < 0x80000000 then code.toNat else (0 - code).toNat

/-- The system's words for a fault with a file, behind which its number stands. -/
def faultText (words : String) (code : UInt32) : String :=
  s!"{words} (os error {faultNumber code})"

/-- The machine's words for what went wrong with a file. -/
def machineText : IO.Error → String
  | .noFileOrDirectory _ code _ => faultText "No such file or directory" code
  | .permissionDenied _ code _ => faultText "Permission denied" code
  | .inappropriateType _ code _ =>
      faultText (if faultNumber code = 21 then "Is a directory" else "Not a directory") code
  | .alreadyExists _ code _ => faultText "File exists" code
  | other => toString other

private def attempt {Result : Type} (action : IO Result) : IO (Except String Result) := do
  try
    return .ok (← action)
  catch fault =>
    return .error (machineText fault)

private partial def drainInput (stream : IO.FS.Stream) (read : List UInt8) : IO (List UInt8) := do
  let chunk ← stream.read 65536
  if chunk.isEmpty then return read
  drainInput stream (read ++ chunk.toList)

def machine : Host IO where
  input := do drainInput (← IO.getStdin) []
  fetch := fun path => do
    return (← attempt (IO.FS.readBinFile path)).map (·.toList)
  makeFolder := fun path => do
    if path.isEmpty then return .ok ()
    attempt (IO.FS.createDirAll path)
  save := fun path animation =>
    attempt (IO.FS.writeBinFile path (ByteArray.mk (Gif.encode animation).toArray))

/-- Plays row after row until the show is over or breaks off. The clock starts at zero. -/
partial def playOn (origin : Nat) (playing : Playing) : IO UInt32 := do
  let output ← IO.getStdout
  let now ← IO.monoNanosNow
  match playing.next? ⟨(now - origin) / 1000⟩ with
  | none =>
      output.putStr Playing.closing
      return 0
  | some (row, later?) =>
      output.putStr row
      output.flush
      match later? with
      | none => return Playing.brokenOff
      | some (sleep, playing) =>
          IO.sleep (UInt32.ofNat sleep.millis)
          playOn origin playing

end CommandLine

end LightShow

def main (arguments : List String) : IO UInt32 := do
  match ← LightShow.CommandLine.run LightShow.CommandLine.machine arguments with
  | .done code output error =>
      (← IO.getStdout).putStr output
      (← IO.getStderr).putStr error
      return code
  | .play playing => LightShow.CommandLine.playOn (← IO.monoNanosNow) playing
