import LightShow.Proofs.Reread
import LightShow.Wire.Decoders

/-! What decoders find in a document. Of the members of an object only the last one of each name
counts, whatever their order; a decoder sees each of them with the pattern that it stands for. -/

namespace LightShow

namespace Json

/-- The fields of an object of some members, in the order of names. -/
def sorted (members : List (String × Json)) : List (String × Json) :=
  members.foldl (fun fields member => insertField member.1 member.2 fields) []

theorem ofMembers_eq (members : List (String × Json)) :
    ofMembers members = .object (sorted members) := rfl

theorem field?_insertField (sought name : String) (value : Json) (fields : List (String × Json)) :
    field? sought (insertField name value fields) =
      if name = sought then some value else field? sought fields := by
  induction fields with
  | nil => rfl
  | cons field rest ih =>
      obtain ⟨key, other⟩ := field
      rw [insertField]
      split
      · next same =>
          subst same
          rw [field?, field?]
          split <;> rfl
      split
      · rfl
      · next differs _ =>
          rw [field?, field?, ih]
          split
          · next found =>
              rw [if_neg fun same => differs (same.trans found.symm)]
          · rfl

theorem field?_append (sought : String) (left right : List (String × Json)) :
    field? sought (left ++ right) = (field? sought left).or (field? sought right) := by
  induction left with
  | nil => rfl
  | cons field rest ih =>
      rw [List.cons_append, field?, field?, ih]
      split <;> rfl

/-- The last member of a name counts. -/
theorem field?_sorted (sought : String) (members : List (String × Json)) :
    field? sought (sorted members) = field? sought members.reverse := by
  -- The fold starts from fields that are there already, which later members overrule.
  have onto : ∀ fields, field? sought (members.foldl (fun fields member =>
      insertField member.1 member.2 fields) fields) =
        (field? sought members.reverse).or (field? sought fields) := by
    induction members with
    | nil => intro fields; rfl
    | cons member rest ih =>
        intro fields
        rw [List.foldl_cons, ih, field?_insertField, List.reverse_cons, field?_append,
          Option.or_assoc, field?, field?]
        split <;> rfl
  exact (onto []).trans (Option.or_none)

theorem rereadFields_eq_map (fields : List (String × Json)) :
    rereadFields fields = fields.map fun field => (field.1, field.2.reread) := by
  induction fields with
  | nil => rfl
  | cons field rest ih => rw [rereadFields, ih, List.map_cons]

theorem field?_map (sought : String) (change : Json → Json) (fields : List (String × Json)) :
    field? sought (fields.map fun field => (field.1, change field.2)) =
      (field? sought fields).map change := by
  induction fields with
  | nil => rfl
  | cons field rest ih =>
      rw [List.map_cons, field?, field?, ih]
      split <;> rfl

theorem field?_filter {sought name : String} (other : sought ≠ name)
    (fields : List (String × Json)) :
    field? sought (fields.filter fun field => field.1 ≠ name) = field? sought fields := by
  induction fields with
  | nil => rfl
  | cons field rest ih =>
      obtain ⟨key, value⟩ := field
      rw [List.filter_cons]
      split
      · rw [field?, field?, ih]
      · next dropped =>
          have named : key = name := by simpa using dropped
          rw [ih, field?, if_neg fun found => other (found.symm.trans named)]

end Json

namespace Catalog

/-- A value as a decoder sees it. -/
def reading (catalog : Catalog) (value : Json) : Reading :=
  ⟨value, catalog.decodeValue value, catalog.decodeItems value⟩

theorem readings_eq_map (catalog : Catalog) (fields : List (String × Json)) :
    catalog.readings fields = (fields.filter fun field => field.1 ≠ Pattern.kindField).map
      fun field => (field.1, catalog.reading field.2) := by
  induction fields with
  | nil => rfl
  | cons field rest ih =>
      rw [readings, ih, List.filter_cons]
      split
      · next named => rw [if_neg (by simpa using named)]
      · next other => rw [if_pos (by simpa using other), List.map_cons, reading]

theorem find?_builtin (kind : Kind) : builtin.find? kind.name = some kind.decoder := by
  cases kind <;> rfl

theorem find?_readings (catalog : Catalog) (kind : String) (fields : List (String × Json))
    {name : String} (other : name ≠ Pattern.kindField) :
    (Fields.mk kind (catalog.readings fields)).find? name =
      ((Json.field? name fields).map catalog.reading).filter
        fun reading => !reading.value.isNull := by
  rw [readings_eq_map, Fields.find?_map, Json.field?_filter other]

/-- Values other than `null` are not passed over. -/
theorem filter_reading (catalog : Catalog) {value : Json} (visible : value.isNull = false) :
    (some (catalog.reading value)).filter (fun reading => !reading.value.isNull) =
      some (catalog.reading value) :=
  Option.filter_some_pos (by simp only [reading, visible, Bool.not_false])

end Catalog

end LightShow
