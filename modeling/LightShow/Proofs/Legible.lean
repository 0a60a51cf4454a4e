import LightShow.Json.Reader
import LightShow.Proofs.PlainText

/-! Values as they are written and read again: what comes of each of them, how deep it nests, and
which of them can be read at all. -/

namespace LightShow

namespace Json

/-- A property of all values, proved for a container from the same property of what it holds. -/
@[elab_as_elim]
theorem induct {motive : Json → Prop} (null : motive .null) (bool : ∀ value, motive (.bool value))
    (number : ∀ value, motive (.number value)) (string : ∀ text, motive (.string text))
    (array : ∀ items, (∀ item ∈ items, motive item) → motive (.array items))
    (object : ∀ fields, (∀ field ∈ fields, motive field.2) → motive (.object fields))
    (written : Json) : motive written := by
  refine @Json.rec motive (fun items => ∀ item ∈ items, motive item)
    (fun fields => ∀ field ∈ fields, motive field.2) (fun field => motive field.2)
    null bool number string array object ?_ ?_ ?_ ?_ ?_ written
  · intro item present
    cases present
  · intro head tail headHolds tailHolds item present
    rcases List.mem_cons.mp present with rfl | later
    · exact headHolds
    · exact tailHolds item later
  · intro field present
    cases present
  · intro head tail headHolds tailHolds field present
    rcases List.mem_cons.mp present with rfl | later
    · exact headHolds
    · exact tailHolds field later
  · intro name value holds
    exact holds

/-- The octets of a number, as it is written. -/
def numberOctets (number : Number) : Octets := Utf8.encode (numberChars number)

mutual

/-- What comes of a value that is written and read again: floats in the width of the reader, and
fields in the order of names. -/
def reread : Json → Json
  | .number (.natural value) => .number (.natural value)
  | .number value =>
      match Json.read (numberOctets value) with
      | .ok read => read
      | .error _ => .null
  | .array items => .array (rereadItems items)
  | .object fields => ofMembers (rereadFields fields)
  | other => other

def rereadItems : List Json → List Json
  | [] => []
  | item :: rest => reread item :: rereadItems rest

def rereadFields : List (String × Json) → List (String × Json)
  | [] => []
  | (name, value) :: rest => (name, reread value) :: rereadFields rest

end

mutual

/-- How many containers stand around the innermost value. -/
def depth : Json → Nat
  | .array items => depthOfItems items + 1
  | .object fields => depthOfFields fields + 1
  | _ => 0

def depthOfItems : List Json → Nat
  | [] => 0
  | item :: rest => max (depth item) (depthOfItems rest)

def depthOfFields : List (String × Json) → Nat
  | [] => 0
  | (_, value) :: rest => max (depth value) (depthOfFields rest)

end

mutual

/-- Every string is plain, and every number but the whole ones is read back as some number, or is
written as `null`. -/
def Legible : Json → Prop
  | .number (.natural _) => True
  | .number value => numberChars value = chars .null ∨
      ∃ read, Json.read (numberOctets value) = .ok (.number read)
  | .string text => Plain text
  | .array items => LegibleItems items
  | .object fields => LegibleFields fields
  | _ => True

def LegibleItems : List Json → Prop
  | [] => True
  | item :: rest => Legible item ∧ LegibleItems rest

def LegibleFields : List (String × Json) → Prop
  | [] => True
  | (name, value) :: rest => Plain name ∧ Legible value ∧ LegibleFields rest

end

theorem read_of_null {value : Number} (null : numberChars value = chars .null) :
    Json.read (numberOctets value) = .ok .null := by
  rw [numberOctets, null]
  rfl

theorem reread_of_null {value : Number} (fraction : ∀ natural, value ≠ .natural natural)
    (null : numberChars value = chars .null) : reread (.number value) = .null := by
  rw [reread, read_of_null null]
  exact fraction

theorem number_cases {value : Number} (legible : Legible (.number value)) :
    (∃ natural, value = .natural natural) ∨
      (numberChars value = chars .null ∧ reread (.number value) = .null) ∨
      ∃ read, Json.read (numberOctets value) = .ok (.number read) ∧
        reread (.number value) = .number read := by
  cases value with
  | natural natural => exact .inl ⟨natural, rfl⟩
  | _ =>
      rcases legible with null | ⟨read, alone⟩
      · exact .inr (.inl ⟨null, reread_of_null nofun null⟩)
      · exact .inr (.inr ⟨read, alone, by simp only [reread, alone]⟩)

theorem LegibleItems.of_mem {items : List Json} (legible : LegibleItems items) {item : Json}
    (present : item ∈ items) : item.Legible := by
  induction items with
  | nil => cases present
  | cons head tail ih =>
      rcases List.mem_cons.mp present with rfl | later
      · exact legible.1
      · exact ih legible.2 later

theorem LegibleFields.of_mem {fields : List (String × Json)} (legible : LegibleFields fields)
    {field : String × Json} (present : field ∈ fields) : Plain field.1 ∧ field.2.Legible := by
  induction fields with
  | nil => cases present
  | cons head tail ih =>
      rcases List.mem_cons.mp present with rfl | later
      · exact ⟨legible.1, legible.2.1⟩
      · exact ih legible.2.2 later

theorem LegibleFields.append {left right : List (String × Json)} (first : LegibleFields left)
    (second : LegibleFields right) : LegibleFields (left ++ right) := by
  induction left with
  | nil => exact second
  | cons field rest ih => exact ⟨first.1, first.2.1, ih first.2.2⟩

theorem depth_le_of_mem {items : List Json} {item : Json} (present : item ∈ items) :
    item.depth ≤ depthOfItems items := by
  induction items with
  | nil => cases present
  | cons head tail ih =>
      rw [depthOfItems]
      rcases List.mem_cons.mp present with rfl | later
      · exact Nat.le_max_left _ _
      · exact Nat.le_trans (ih later) (Nat.le_max_right _ _)

theorem depth_le_of_mem_fields {fields : List (String × Json)} {field : String × Json}
    (present : field ∈ fields) : field.2.depth ≤ depthOfFields fields := by
  induction fields with
  | nil => cases present
  | cons head tail ih =>
      rw [depthOfFields]
      rcases List.mem_cons.mp present with rfl | later
      · exact Nat.le_max_left _ _
      · exact Nat.le_trans (ih later) (Nat.le_max_right _ _)

end Json

end LightShow
