import LightShow.Proofs.Lookup
import LightShow.Proofs.Supplied

/-! What is accepted as the document of a pattern: with all kinds known, the values that stand for
patterns are those of the grammar, and no others. -/

namespace LightShow

theorem Json.mem_of_field? {name : String} {value : Json} {fields : List (String × Json)}
    (held : field? name fields = some value) : (name, value) ∈ fields := by
  induction fields with
  | nil => cases held
  | cons field rest ih =>
      obtain ⟨key, other⟩ := field
      rw [field?] at held
      split at held
      · next same =>
          cases held
          rw [same]
          exact List.mem_cons_self
      · exact List.mem_cons_of_mem _ (ih held)

namespace Holds

variable {form : Form} {value : Json}

theorem none_iff : Holds form none ↔ form ≠ .color :=
  ⟨fun | .absent optional => optional, .absent⟩

theorem null_iff : Holds form (some .null) ↔ form ≠ .color := by
  refine ⟨fun holds => ?_, .null⟩
  cases holds with
  | null optional => exact optional
  | plain admitted => rintro rfl; obtain ⟨_, other, _⟩ := admitted; cases other
  | child inner => nofun

theorem some_iff (visible : value.isNull = false) :
    Holds form (some value) ↔ match form with
      | .child => Document value
      | .children => ∃ items, value = .array items ∧ ∀ item ∈ items, Document item
      | form => form.Admits value := by
  constructor
  · intro holds
    cases holds with
    | null optional => cases visible
    | plain admitted =>
        cases form with
        | child => exact admitted.elim
        | children => exact admitted.elim
        | _ => exact admitted
    | child inner => exact inner
    | @children items each => exact ⟨items, rfl, each⟩
  · intro right
    cases form with
    | child => exact .child right
    | children =>
        obtain ⟨items, rfl, each⟩ := right
        exact .children each
    | _ => exact .plain right

end Holds

/-- A document is the text of a color or a strip, or an object of some kind. -/
theorem document_iff {value : Json} : Document value ↔ match value with
    | .string text => Form.color.Admits (.string text) ∨ Form.strip.Admits (.string text)
    | .object fields =>
        ∃ kind : Kind, Json.field? Pattern.kindField fields = some (.string kind.name) ∧
          ∀ part ∈ kind.parts, Holds part.2 (Json.field? part.1 fields)
    | _ => False := by
  constructor
  · intro document
    cases document with
    | color shown =>
        obtain ⟨digits, rfl, plain⟩ := shown
        exact .inl ⟨digits, rfl, plain⟩
    | strip shown =>
        obtain ⟨digits, rfl, plain⟩ := shown
        exact .inr ⟨digits, rfl, plain⟩
    | tagged kind named each => exact ⟨kind, named, each⟩
  · intro shape
    cases value with
    | string text => exact shape.elim .color .strip
    | object fields =>
        obtain ⟨kind, named, each⟩ := shape
        exact .tagged kind named each
    | _ => exact shape.elim

namespace Catalog

/-- Values that are decoded are documents, and documents are decoded. -/
def Agrees (value : Json) : Prop :=
  (∃ pattern, builtin.decodeValue value = .ok pattern) ↔ Document value

theorem exists_ofText_ok {text : String} : (∃ pattern, ofText text = .ok pattern) ↔
    Form.color.Admits (.string text) ∨ Form.strip.Admits (.string text) := by
  have holds : ∀ chars, Json.string text = .string (String.ofList chars) ↔ text.toList = chars := by
    intro chars
    rw [Json.string.injEq, ← String.toList_inj, String.toList_ofList]
  have refused {failure : Failure} :
      ¬ ∃ pattern, (.error failure : Except Failure Pattern) = .ok pattern := by
    rintro ⟨_, ⟨⟩⟩
  simp only [Form.Admits, holds, ← Color.isSome_ofHex?, ← Strip.isSome_ofHex?, ofText]
  split
  · next digits chars =>
      simp only [chars, List.cons.injEq, true_and, exists_eq_left', Char.reduceEq, false_and,
        exists_false, or_false]
      cases Color.ofHex? digits with
      | none => exact iff_of_false refused Bool.false_ne_true
      | some ink => exact iff_of_true ⟨.color ink, rfl⟩ rfl
  · next digits chars =>
      simp only [chars, List.cons.injEq, true_and, exists_eq_left', Char.reduceEq, false_and,
        exists_false, false_or]
      cases Strip.ofHex? digits with
      | none => exact iff_of_false refused Bool.false_ne_true
      | some pixels => exact iff_of_true ⟨.frame pixels, rfl⟩ rfl
  · next noColor noStrip =>
      refine iff_of_false refused ?_
      rintro (⟨digits, chars, -⟩ | ⟨digits, chars, -⟩)
      · exact noColor digits chars
      · exact noStrip digits chars

theorem decodeEach_eq_map (catalog : Catalog) (items : List Json) :
    catalog.decodeEach items = items.map catalog.decodeValue := by
  induction items with
  | nil => rfl
  | cons item rest ih => rw [decodeEach, ih, List.map_cons]

/-- A part is supplied exactly if it holds what it should. -/
theorem supplies_readings {kind : String} {members : List (String × Json)}
    (each : ∀ member ∈ members, Agrees member.2 ∧
      ∀ items, member.2 = .array items → ∀ item ∈ items, Agrees item)
    {name : String} (other : name ≠ Pattern.kindField) (form : Form) :
    (Fields.mk kind (builtin.readings members)).Supplies name form ↔
      Holds form (Json.field? name members) := by
  have found := find?_readings builtin kind members other
  cases held : Json.field? name members with
  | none =>
      rw [held] at found
      rw [Fields.supplies_of_none found, Holds.none_iff]
  | some value =>
      rw [held, Option.map_some] at found
      obtain ⟨agrees, items⟩ := each (name, value) (Json.mem_of_field? held)
      cases value with
      | null => rw [Fields.supplies_of_none found, Holds.null_iff]
      | array values =>
          have all : (∀ item ∈ builtin.decodeEach values, ∃ pattern, item = .ok pattern) ↔
              ∀ item ∈ values, Document item := by
            rw [decodeEach_eq_map, List.forall_mem_map]
            exact forall₂_congr fun item present => items values rfl item present
          rw [Fields.supplies_of_some found, Holds.some_iff rfl]
          cases form with
          | child => exact agrees
          | children =>
              exact ⟨fun ⟨_, decoded⟩ => ⟨values, rfl, all.mp decoded⟩,
                fun ⟨_, rfl, documents⟩ => ⟨⟨values, rfl⟩, all.mpr documents⟩⟩
          | _ => exact Iff.rfl
      | _ =>
          rw [Fields.supplies_of_some found, Holds.some_iff rfl]
          cases form with
          | child => exact agrees
          | children => simp [reading]
          | _ => exact Iff.rfl

/-- No kind is known but those that every show knows. -/
theorem exists_kind_of_find? {name : String} {decoder : Decoder}
    (found : builtin.find? name = some decoder) :
    ∃ kind : Kind, name = kind.name ∧ decoder = kind.decoder := by
  have known : ∀ (kinds : List Kind) (catalog : Catalog),
      (kinds.foldl (fun catalog kind => catalog.register kind.name kind.decoder) catalog).find?
        name = some decoder →
      (∃ kind : Kind, name = kind.name ∧ decoder = kind.decoder) ∨
        catalog.find? name = some decoder := by
    intro kinds
    induction kinds with
    | nil => exact fun catalog found => .inr found
    | cons kind rest ih =>
        intro catalog found
        rcases ih _ found with later | earlier
        · exact .inl later
        · rw [find?_register] at earlier
          split at earlier
          · next same =>
              cases earlier
              exact .inl ⟨kind, same.symm, rfl⟩
          · exact .inr earlier
  exact (known Kind.all empty found).resolve_right nofun

/-- An object is decoded by the decoder of the kind that it names. -/
theorem decodeValue_named {kind : Kind} {fields : List (String × Json)}
    (named : Json.field? Pattern.kindField fields = some (.string kind.name)) :
    builtin.decodeValue (.object fields) = kind.decoder ⟨kind.name, builtin.readings fields⟩ := by
  rw [decodeValue, named]
  dsimp only
  rw [find?_builtin]

/-- An object is decoded by the decoder of its kind, and by none if it has no kind that is known. -/
theorem exists_object_ok {fields : List (String × Json)} :
    (∃ pattern, builtin.decodeValue (.object fields) = .ok pattern) ↔
      ∃ kind : Kind, Json.field? Pattern.kindField fields = some (.string kind.name) ∧
        ∃ pattern, kind.decoder ⟨kind.name, builtin.readings fields⟩ = .ok pattern := by
  constructor
  · rintro ⟨pattern, decoded⟩
    rw [decodeValue] at decoded
    split at decoded
    · cases decoded
    · next name named =>
        split at decoded
        · cases decoded
        · next decoder found =>
            obtain ⟨kind, rfl, rfl⟩ := exists_kind_of_find? found
            exact ⟨kind, named, pattern, decoded⟩
    · cases decoded
  · rintro ⟨kind, named, pattern, decoded⟩
    exact ⟨pattern, (decodeValue_named named).trans decoded⟩

/-- The values that stand for patterns are the documents of the grammar. -/
theorem decodeValue_iff_document (value : Json) :
    (∃ pattern, builtin.decodeValue value = .ok pattern) ↔ Document value := by
  -- Lists are no patterns, so that what is said of their items has to be carried along.
  have agrees : Agrees value ∧ ∀ items, value = .array items → ∀ item ∈ items, Agrees item := by
    induction value using Json.induct with
    | null => exact ⟨iff_of_false nofun document_iff.mp, nofun⟩
    | bool value => exact ⟨iff_of_false nofun document_iff.mp, nofun⟩
    | number value => exact ⟨iff_of_false nofun document_iff.mp, nofun⟩
    | string text =>
        refine ⟨?_, nofun⟩
        rw [Agrees, decodeValue, exists_ofText_ok, document_iff]
    | array items each =>
        refine ⟨iff_of_false nofun document_iff.mp, ?_⟩
        rintro _ ⟨⟩ item present
        exact (each item present).1
    | object fields each =>
        refine ⟨?_, nofun⟩
        rw [Agrees, exists_object_ok, document_iff]
        refine exists_congr fun kind => and_congr_right fun named => ?_
        rw [Kind.exists_decoder_ok]
        refine forall₂_congr fun part here => ?_
        exact supplies_readings each (kind.ne_kindField (List.mem_map_of_mem here)) part.2
  exact agrees.1

end Catalog

end LightShow
