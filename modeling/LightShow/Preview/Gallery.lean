import LightShow.Preview.Animation
import LightShow.Wire.Decoders

/-! A gallery of previews. The preview of a document is made once and kept in a slot of its own. The
slot is set up before it is known whether there will be a preview; a document that cannot be shown
gives it back, and leaves nothing behind. -/

namespace LightShow

/-- A preview and its place in the order of all previews made, which tells it from others. -/
structure Preview where
  number : Nat
  animation : Animation
deriving DecidableEq

structure Gallery where
  catalog : Catalog
  settings : PreviewSettings
  /-- Documents with the slots that are set up for them. -/
  entries : List (Json.Octets × Nat)
  /-- Every slot that was ever set up, with the preview that it holds. -/
  slots : List (Option Preview)
  /-- How often a preview has been made. -/
  made : Nat

/-- What a request gives. -/
structure Exhibit extends Preview where
  isNew : Bool
deriving DecidableEq

namespace Gallery

def empty (catalog : Catalog) (settings : PreviewSettings) : Gallery :=
  ⟨catalog, settings, [], [], 0⟩

/-- The number of documents that have a slot. -/
def size (gallery : Gallery) : Nat := gallery.entries.length

/-- Reads, checks and draws a document. -/
def make (gallery : Gallery) (document : Json.Octets) : Except Failure Animation := do
  let pattern ← gallery.catalog.decode document
  (pattern.validate gallery.settings.pixels.toNat).mapError .refused
  Animation.ofPattern gallery.settings pattern

/-- The slot of a document. -/
def slot? (gallery : Gallery) (document : Json.Octets) : Option Nat :=
  gallery.entries.lookup document

/-- The preview in a slot. -/
def held? (gallery : Gallery) (slot : Nat) : Option Preview := gallery.slots[slot]?.join

/-- The slot of a document, which is set up if there is none. -/
def reserve (gallery : Gallery) (document : Json.Octets) : Nat × Gallery :=
  match gallery.slot? document with
  | some slot => (slot, gallery)
  | none =>
      let slot := gallery.slots.length
      (slot,
        { gallery with
          entries := gallery.entries ++ [(document, slot)]
          slots := gallery.slots ++ [none] })

/-- Puts a new preview into a slot. -/
def fill (gallery : Gallery) (slot : Nat) (animation : Animation) : Gallery :=
  { gallery with
    slots := gallery.slots.set slot (some ⟨gallery.made, animation⟩)
    made := gallery.made + 1 }

/-- Gives the slot of a document back, unless another one is set up for it or it holds a preview. -/
def forget (gallery : Gallery) (document : Json.Octets) (slot : Nat) : Gallery :=
  match gallery.slot? document with
  | none => gallery
  | some current =>
      if current = slot ∧ gallery.held? current = none then
        { gallery with entries := gallery.entries.filter (·.1 ≠ document) }
      else gallery

/-- The preview of a document, made if it is not there yet. -/
def request (gallery : Gallery) (document : Json.Octets) : Except Failure Exhibit × Gallery :=
  let (slot, gallery) := gallery.reserve document
  match gallery.held? slot with
  | some preview => (.ok ⟨preview, false⟩, gallery)
  | none =>
      match gallery.make document with
      | .error failure => (.error failure, gallery.forget document slot)
      | .ok animation => (.ok ⟨⟨gallery.made, animation⟩, true⟩, gallery.fill slot animation)

end Gallery

end LightShow
