import LightShow.Proofs.Accepted
import Mathlib.Data.List.Nodup
import Mathlib.Logic.Relation

/-! Documents that say the same. A field that its kind does not read may hold anything or be left
out, and one that is read is as good as left out if it holds `null`: in a document or anywhere in
it where a pattern stands, both are the same pattern, or fail in the same way. -/

namespace LightShow

theorem Kind.nodup_parts (kind : Kind) : (kind.parts.map (·.1)).Nodup := by
  cases kind <;> decide

theorem Kind.form_unique {kind : Kind} {name : String} {form other : Form}
    (first : (name, form) ∈ kind.parts) (second : (name, other) ∈ kind.parts) : form = other :=
  congrArg Prod.snd (List.inj_on_of_nodup_map kind.nodup_parts first second rfl)

namespace Fields

/-- A part of a document is the same pattern, or list of patterns, in both, or the same value. -/
def Agree (fields others : Fields) (name : String) : Form → Prop
  | .child => fields.pattern name = others.pattern name
  | .children => fields.patterns name = others.patterns name
  | _ => fields.find? name = others.find? name

variable {fields others : Fields} {name : String}

theorem value_congr {Value : Type} {read : Json → Except Json.Fault Value} {absent : Value}
    (kind : fields.kind = others.kind) (found : fields.find? name = others.find? name) :
    fields.value read absent name = others.value read absent name := by
  rw [value, value, found, kind]

theorem color_congr (kind : fields.kind = others.kind)
    (found : fields.find? name = others.find? name) : fields.color name = others.color name := by
  rw [color, color, found, kind]

theorem agree_of_find? (found : fields.find? name = others.find? name)
    (kind : fields.kind = others.kind) (form : Form) : fields.Agree others name form := by
  cases form with
  | child => rw [Agree, pattern, pattern, found]
  | children => rw [Agree, patterns, patterns, found, kind]
  | _ => exact found

end Fields

/-- A decoder looks at nothing but the parts of its kind. -/
theorem Kind.decoder_congr (kind : Kind) {fields others : Fields}
    (label : fields.kind = others.kind)
    (agree : ∀ part ∈ kind.parts, fields.Agree others part.1 part.2) :
    kind.decoder fields = kind.decoder others := by
  cases kind <;>
    simp only [parts, List.forall_mem_cons, Fields.Agree, Form.curve, Form.sampling] at agree <;>
    simp only [decoder, Fields.strip, Fields.millis, Fields.length, Fields.single, Fields.singles,
      Fields.curve, Fields.sampling, Fields.value_congr label, Fields.color_congr label, agree]

namespace Json

/-- Objects that hold the same under every name but one. -/
def SameBut (name : String) (fields others : List (String × Json)) : Prop :=
  ∀ key, key ≠ name → field? key others = field? key fields

/-- Nothing that counts. -/
def Idle (held : Option Json) : Prop := held = none ∨ held = some .null

/-- One change to an object of some kind that stands for a pattern: to a field that the kind does
not read, or between `null` and nothing, or a change of that sort in a child. -/
inductive Edit : Json → Json → Prop
  | unread {kind : Kind} {name : String} {fields others : List (String × Json)}
      (named : field? Pattern.kindField fields = some (.string kind.name))
      (rest : SameBut name fields others) (free : name ≠ Pattern.kindField)
      (unread : name ∉ kind.parts.map (·.1)) : Edit (.object fields) (.object others)
  | null {kind : Kind} {name : String} {fields others : List (String × Json)}
      (named : field? Pattern.kindField fields = some (.string kind.name))
      (rest : SameBut name fields others) (read : name ∈ kind.parts.map (·.1))
      (before : Idle (field? name fields)) (after : Idle (field? name others)) :
      Edit (.object fields) (.object others)
  | child {kind : Kind} {name : String} {fields others : List (String × Json)} {value other : Json}
      (named : field? Pattern.kindField fields = some (.string kind.name))
      (rest : SameBut name fields others) (part : (name, .child) ∈ kind.parts)
      (before : field? name fields = some value) (after : field? name others = some other)
      (inner : Edit value other) : Edit (.object fields) (.object others)
  | item {kind : Kind} {name : String} {fields others : List (String × Json)}
      {front back : List Json} {value other : Json}
      (named : field? Pattern.kindField fields = some (.string kind.name))
      (rest : SameBut name fields others) (part : (name, .children) ∈ kind.parts)
      (before : field? name fields = some (.array (front ++ value :: back)))
      (after : field? name others = some (.array (front ++ other :: back)))
      (inner : Edit value other) : Edit (.object fields) (.object others)

theorem sameBut_insertField (name : String) (value : Json) (fields : List (String × Json)) :
    SameBut name fields (insertField name value fields) := by
  intro key differs
  rw [field?_insertField, if_neg (Ne.symm differs)]

end Json

namespace Catalog

open Json

theorem find?_readings_of_idle {fields : List (String × Json)} {name : String}
    (other : name ≠ Pattern.kindField) (idle : Idle (field? name fields)) (kind : String) :
    (Fields.mk kind (builtin.readings fields)).find? name = none := by
  rw [find?_readings _ _ _ other]
  rcases idle with none | null
  · rw [none]
    rfl
  · rw [null]
    rfl

theorem find?_readings_of_visible {fields : List (String × Json)} {name : String} {value : Json}
    (other : name ≠ Pattern.kindField) (held : field? name fields = some value)
    (visible : value.isNull = false) (kind : String) :
    (Fields.mk kind (builtin.readings fields)).find? name = some (builtin.reading value) := by
  rw [find?_readings _ _ _ other, held]
  exact builtin.filter_reading visible

/-- An object is decoded as another one of its kind if the parts that are not the same give the
same. -/
theorem decodeValue_sameBut {kind : Kind} {name : String} {fields others : List (String × Json)}
    (named : field? Pattern.kindField fields = some (.string kind.name))
    (rest : SameBut name fields others) (free : name ≠ Pattern.kindField)
    (agree : ∀ form, (name, form) ∈ kind.parts →
      (Fields.mk kind.name (builtin.readings fields)).Agree
        ⟨kind.name, builtin.readings others⟩ name form) :
    builtin.decodeValue (.object fields) = builtin.decodeValue (.object others) := by
  have still : field? Pattern.kindField others = some (.string kind.name) :=
    (rest _ (Ne.symm free)).trans named
  rw [decodeValue_named named, decodeValue_named still]
  refine kind.decoder_congr rfl fun part here => ?_
  obtain ⟨key, form⟩ := part
  by_cases same : key = name
  · subst same
    exact agree form here
  · have found : (Fields.mk kind.name (builtin.readings fields)).find? key =
        (Fields.mk kind.name (builtin.readings others)).find? key := by
      have read := kind.ne_kindField (List.mem_map_of_mem here)
      rw [find?_readings _ _ _ read, find?_readings _ _ _ read, rest key same]
    exact Fields.agree_of_find? found rfl form

theorem isNull_of_edit {value other : Json} (edit : Edit value other) :
    value.isNull = false ∧ other.isNull = false := by
  cases edit <;> exact ⟨rfl, rfl⟩

/-- What is edited decodes as before, to the same pattern or to the same failure. -/
theorem decodeValue_of_edit {value other : Json} (edit : Edit value other) :
    builtin.decodeValue value = builtin.decodeValue other := by
  induction edit with
  | unread named rest free unread =>
      refine decodeValue_sameBut named rest free fun form part => ?_
      exact absurd (List.mem_map_of_mem part) unread
  | @null kind name fields others named rest read before after =>
      have free := kind.ne_kindField read
      refine decodeValue_sameBut named rest free fun form _ => ?_
      have found : (Fields.mk kind.name (builtin.readings fields)).find? name =
          (Fields.mk kind.name (builtin.readings others)).find? name := by
        rw [find?_readings_of_idle free before, find?_readings_of_idle free after]
      exact Fields.agree_of_find? found rfl form
  | @child kind name fields others value other named rest part before after inner ih =>
      have free := kind.ne_kindField (List.mem_map_of_mem part)
      refine decodeValue_sameBut named rest free fun form here => ?_
      obtain rfl := Kind.form_unique part here
      obtain ⟨shown, visible⟩ := isNull_of_edit inner
      simp only [Fields.Agree, Fields.pattern, find?_readings_of_visible free before shown,
        find?_readings_of_visible free after visible, reading, ih]
  | @item kind name fields others front back value other named rest part before after inner ih =>
      have free := kind.ne_kindField (List.mem_map_of_mem part)
      refine decodeValue_sameBut named rest free fun form here => ?_
      obtain rfl := Kind.form_unique part here
      simp only [Fields.Agree, Fields.patterns, find?_readings_of_visible free before rfl,
        find?_readings_of_visible free after rfl, reading, decodeItems, decodeEach_eq_map,
        List.map_append, List.map_cons, ih]

/-- However often a value is edited, it decodes to the same pattern, or to the same failure. -/
theorem decodeValue_of_edits {value other : Json} (edits : Relation.ReflTransGen Edit value other) :
    builtin.decodeValue value = builtin.decodeValue other := by
  induction edits with
  | refl => rfl
  | tail _ edit ih => exact ih.trans (decodeValue_of_edit edit)

/-- A field that a rainbow has no use for and a start of `null` leave a crop at its fault. -/
theorem decodeValue_of_edits_crop :
    let rainbow := [("_type", .string "Rainbow")]
    let colored := insertField "color" (.object []) rainbow
    let crop (child : Json) := [("_type", .string "Crop"), ("child", child), ("length", .bool true)]
    let other := insertField "start" .null (crop (.object colored))
    let failure := Failure.misfit (.field "Crop" "length" (.invalidType (.bool true) "usize"))
    Relation.ReflTransGen Edit (.object (crop (.object rainbow))) (.object other) ∧
      builtin.decodeValue (.object (crop (.object rainbow))) = .error failure ∧
      builtin.decodeValue (.object other) = .error failure := by
  intro rainbow colored crop other failure
  have tagged : field? Pattern.kindField rainbow = some (.string Kind.rainbow.name) := rfl
  have cropped (child : Json) :
      field? Pattern.kindField (crop child) = some (.string Kind.crop.name) := rfl
  have inner : Edit (.object rainbow) (.object colored) :=
    .unread tagged (sameBut_insertField _ _ _) (by decide) (by decide)
  have elsewhere : SameBut "child" (crop (.object rainbow)) (crop (.object colored)) := by
    intro key differs
    simp [crop, field?, Ne.symm differs]
  have outer : Edit (.object (crop (.object rainbow))) (.object (crop (.object colored))) :=
    .child (cropped _) elsewhere List.mem_cons_self rfl rfl inner
  have blank : Edit (.object (crop (.object colored))) (.object other) :=
    .null (cropped _) (sameBut_insertField _ _ _) (by decide) (.inl rfl) (.inr rfl)
  have edits := (Relation.ReflTransGen.single outer).tail blank
  exact ⟨edits, rfl, (decodeValue_of_edits edits).symm.trans rfl⟩

end Catalog

end LightShow
