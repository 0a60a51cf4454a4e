import LightShow.Curve.Basic
import LightShow.Json.Record

/-! Settings of the player and of previews, and their documents. Stretches of time are written in
whole milliseconds; every field may be left out. -/

namespace LightShow

private def field (name : String) (value : Nat) : String × Json :=
  (name, .number (.natural (UInt64.ofNat value)))

private def wholeEntry {Target : Type} (name : String) (most : Nat) (kind : String)
    (put : Target → UInt64 → Target) : Json.Entry Target where
  name := name
  read := fun target text => do
    let (value, rest) ← Json.Scan.wholeUpTo most kind text
    return (put target value, rest)

private def mostWord : Nat := UInt64.size - 1

structure PreviewSettings where
  pixels : UInt64
  /-- Frames in a second. -/
  rate : UInt32
  duration : Time
deriving DecidableEq

namespace PreviewSettings

def usual : PreviewSettings := ⟨100, 10, .ofMillis 10000⟩

/-- How many frames fall into the duration. Their number comes out of a product of words, which
wraps. -/
def frameCount (settings : PreviewSettings) : UInt64 :=
  UInt64.ofNat settings.duration.millis * settings.rate.toUInt64 / 1000

/-- The time between two frames, in whole milliseconds. -/
def frameDelay (settings : PreviewSettings) : Time :=
  .ofMillis (1000 / max settings.rate.toNat 1)

def json (settings : PreviewSettings) : Json :=
  .object [field "num_leds" settings.pixels.toNat, field "hz" settings.rate.toNat,
    field "duration_ms" settings.duration.millis]

def record : Json.Record PreviewSettings where
  name := "ThumbnailConfig"
  entries :=
    [wholeEntry "num_leds" mostWord "usize" fun settings value => { settings with pixels := value },
      wholeEntry "hz" (UInt32.size - 1) "u32" fun settings value =>
        { settings with rate := value.toUInt32 },
      wholeEntry "duration_ms" mostWord "u64" fun settings value =>
        { settings with duration := .ofWord value }]
  start := usual
  lenient := true

def read (text : Json.Octets) : Except Json.Error PreviewSettings :=
  Json.readWith record.scan text

end PreviewSettings

structure PlayerSettings where
  pixels : UInt64
  /-- How long one pattern fades into the next. -/
  fade : Time
  curve : Curve
deriving DecidableEq

namespace PlayerSettings

def usual : PlayerSettings := ⟨100, .ofMillis 500, .easeOut⟩

def json (settings : PlayerSettings) : Json :=
  .object [field "num_leds" settings.pixels.toNat, field "transition_ms" settings.fade.millis,
    ("curve", .string settings.curve.name)]

private def curveEntry : Json.Entry PlayerSettings where
  name := "curve"
  read := fun settings text => do
    let (curve, rest) ← Json.Scan.choice Curve.names text
    return ({ settings with curve := curve }, rest)

def record : Json.Record PlayerSettings where
  name := "PainterConfig"
  entries :=
    [wholeEntry "num_leds" mostWord "usize" fun settings value => { settings with pixels := value },
      wholeEntry "transition_ms" mostWord "u64" fun settings value =>
        { settings with fade := .ofWord value },
      curveEntry]
  start := usual
  lenient := true

def read (text : Json.Octets) : Except Json.Error PlayerSettings :=
  Json.readWith record.scan text

end PlayerSettings

end LightShow
