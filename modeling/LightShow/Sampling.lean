import LightShow.Strip

/-! Drawing one strip at the length of another. Pixel `i` of `m` looks at place
`i * (n - 1) / (m - 1)` of the `n` pixels of the source, so that both ends line up. -/

namespace LightShow

inductive Sampling where
  | nearest
  | linear
deriving DecidableEq

namespace Sampling

def name : Sampling → String
  | .nearest => "nearest"
  | .linear => "linear"

/-- The method used where none is named. -/
def usual : Sampling := .linear

/-- The names that are read. -/
def names : List (String × Sampling) := [("nearest", .nearest), ("linear", .linear)]

/-- A place between the pixels of a source, in 256ths of a pixel, rounded down. -/
def place (index span steps : Nat) : Nat := index * span * 256 / steps

/-- The pixel seen at a place. The nearest pixel is the next one from one half on; a linear
sample blends the two neighbours by the fraction between them. -/
def sample (method : Sampling) (source : Array Color) (first : Color) (place : Nat) : Color :=
  let index := place / 256
  let fraction := place % 256
  let here := source.getD index first
  match method with
  | .nearest => if 128 ≤ fraction then source.getD (index + 1) first else here
  | .linear =>
    match source[index + 1]? with
    | some next => if fraction = 0 then here else here.blend next (UInt8.ofNat fraction)
    | none => here

/-- The source drawn over the target, at the target's length. An empty source leaves the target
alone, a single pixel of either strip takes the first pixel of the source. -/
def resample (method : Sampling) (source target : Strip) : Strip :=
  match source with
  | [] => target
  | first :: _ =>
    if source.length = target.length then source
    else if source.length = 1 ∨ target.length = 1 then target.fill first
    else
      let pixels := source.toArray
      (List.range target.length).map fun index =>
        method.sample pixels first (place index (source.length - 1) (target.length - 1))

theorem length_resample (method : Sampling) (source target : Strip) :
    (method.resample source target).length = target.length := by
  cases source with
  | nil => rfl
  | cons first rest =>
      simp only [resample]
      by_cases same : (first :: rest).length = target.length
      · rw [if_pos same, same]
      · rw [if_neg same]
        by_cases single : (first :: rest).length = 1 ∨ target.length = 1
        · rw [if_pos single, Strip.length_fill]
        · rw [if_neg single]
          simp

theorem resample_of_length (method : Sampling) {source target : Strip}
    (same : source.length = target.length) : method.resample source target = source := by
  cases source with
  | nil => exact List.eq_nil_of_length_eq_zero same.symm
  | cons first rest => exact if_pos same

end Sampling

end LightShow
