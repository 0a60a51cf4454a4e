import LightShow.Color.Basic
import LightShow.Color.Hex
import LightShow.Color.Spectrum
import LightShow.CommandLine.Help
import LightShow.CommandLine.Playing
import LightShow.CommandLine.Program
import LightShow.CommandLine.Request
import LightShow.Curve.Basic
import LightShow.Curve.Bezier
import LightShow.Decimal
import LightShow.Exact
import LightShow.Failure
import LightShow.Json.Basic
import LightShow.Json.Convert
import LightShow.Json.Fault
import LightShow.Json.Numeral
import LightShow.Json.Printer
import LightShow.Json.Reader
import LightShow.Json.Record
import LightShow.Json.Scan
import LightShow.Level
import LightShow.Logarithm
import LightShow.Main
import LightShow.Pattern.Basic
import LightShow.Pattern.Blend
import LightShow.Pattern.Canonical
import LightShow.Pattern.Clock
import LightShow.Pattern.Light
import LightShow.Pattern.Motion
import LightShow.Pattern.Rainbow
import LightShow.Pattern.Render
import LightShow.Pattern.Scratch
import LightShow.Pattern.Validate
import LightShow.Preview.Animation
import LightShow.Preview.Gallery
import LightShow.Preview.Gif
import LightShow.Progress
import LightShow.Proofs.Accepted
import LightShow.Proofs.Accounts
import LightShow.Proofs.Crossfade
import LightShow.Proofs.Delivery
import LightShow.Proofs.Digits
import LightShow.Proofs.Drawing
import LightShow.Proofs.Dropped
import LightShow.Proofs.Echo
import LightShow.Proofs.Extent
import LightShow.Proofs.Faults
import LightShow.Proofs.Finite
import LightShow.Proofs.Follows
import LightShow.Proofs.Given
import LightShow.Proofs.Grammar
import LightShow.Proofs.Guarded
import LightShow.Proofs.Legible
import LightShow.Proofs.Logged
import LightShow.Proofs.Lookup
import LightShow.Proofs.Numerals
import LightShow.Proofs.Pacing
import LightShow.Proofs.Parts
import LightShow.Proofs.Picture
import LightShow.Proofs.PlainText
import LightShow.Proofs.Previewed
import LightShow.Proofs.Redrawn
import LightShow.Proofs.Remembered
import LightShow.Proofs.Repeatable
import LightShow.Proofs.Reread
import LightShow.Proofs.Resampled
import LightShow.Proofs.Residue
import LightShow.Proofs.Restored
import LightShow.Proofs.RoundTrip
import LightShow.Proofs.Scalars
import LightShow.Proofs.Settled
import LightShow.Proofs.Slips
import LightShow.Proofs.Stable
import LightShow.Proofs.Steady
import LightShow.Proofs.Steps
import LightShow.Proofs.Supplied
import LightShow.Proofs.SureSteps
import LightShow.Proofs.Timeline
import LightShow.Proofs.TooDeep
import LightShow.Proofs.Trace
import LightShow.Proofs.Trail
import LightShow.Proofs.Tree
import LightShow.Proofs.Unfailing
import LightShow.Proofs.Wrapped
import LightShow.Sampling
import LightShow.Segment
import LightShow.Settings
import LightShow.Show.Live
import LightShow.Show.Mailbox
import LightShow.Show.Pacer
import LightShow.Show.Player
import LightShow.Strip
import LightShow.Text.Base64
import LightShow.Text.Extending
import LightShow.Text.Invisible
import LightShow.Text.Quoted
import LightShow.Text.Ranges
import LightShow.Text.Utf8
import LightShow.Time
import LightShow.Wire.Catalog
import LightShow.Wire.Decoders
import LightShow.Wire.Fields
import LightShow.Wire.Link
import LightShow.Wire.StripText
import LightShow.Proofs.Composed
import LightShow.Proofs.Enlarged
import LightShow.Proofs.Solo
import LightShow.Proofs.OneWay
import LightShow.Proofs.Palette
import LightShow.Proofs.Across
import LightShow.Proofs.Confined
import LightShow.Proofs.Hands
import LightShow.Proofs.Turning
import LightShow.Proofs.Longer
import LightShow.Proofs.Edited
import LightShow.Proofs.Registered
import LightShow.Proofs.OctetSlices
import LightShow.Proofs.StripTexts
import LightShow.Proofs.Symbols
import LightShow.Proofs.Links
