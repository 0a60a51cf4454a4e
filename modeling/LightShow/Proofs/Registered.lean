import LightShow.Proofs.Accepted

/-! Kinds that are registered. A catalog is asked for nothing but the kinds that the objects of a
document name, so that documents which do not name a kind are the same patterns, or fail in the
same way, whatever is registered for it. -/

namespace LightShow

namespace Json

/-- The kind that an object of some fields says it is of. -/
def kind? (fields : List (String × Json)) : Option String :=
  match field? Pattern.kindField fields with
  | some (.string kind) => some kind
  | _ => none

mutual

/-- The kinds named by the objects in a value, at any depth. -/
def kinds : Json → List String
  | .array items => kindsOfItems items
  | .object fields => (kind? fields).toList ++ kindsOfFields fields
  | _ => []

def kindsOfItems : List Json → List String
  | [] => []
  | item :: rest => kinds item ++ kindsOfItems rest

def kindsOfFields : List (String × Json) → List String
  | [] => []
  | (_, value) :: rest => kinds value ++ kindsOfFields rest

end

theorem kindsOfItems_eq_flatMap (items : List Json) : kindsOfItems items = items.flatMap kinds := by
  induction items with
  | nil => rfl
  | cons item rest ih => rw [kindsOfItems, ih, List.flatMap_cons]

theorem kindsOfFields_eq_flatMap (fields : List (String × Json)) :
    kindsOfFields fields = fields.flatMap fun field => field.2.kinds := by
  induction fields with
  | nil => rfl
  | cons field rest ih => rw [kindsOfFields, ih, List.flatMap_cons]

theorem mem_kinds_item {items : List Json} {item : Json} (present : item ∈ items) {kind : String}
    (named : kind ∈ item.kinds) : kind ∈ (Json.array items).kinds := by
  rw [kinds, kindsOfItems_eq_flatMap]
  exact List.mem_flatMap.mpr ⟨item, present, named⟩

theorem mem_kinds_field {fields : List (String × Json)} {field : String × Json}
    (present : field ∈ fields) {kind : String} (named : kind ∈ field.2.kinds) :
    kind ∈ (Json.object fields).kinds := by
  rw [kinds, kindsOfFields_eq_flatMap]
  exact List.mem_append_right _ (List.mem_flatMap.mpr ⟨field, present, named⟩)

theorem mem_kinds {fields : List (String × Json)} {kind : String}
    (tag : field? Pattern.kindField fields = some (.string kind)) :
    kind ∈ (Json.object fields).kinds := by
  simp [kinds, kind?, tag]

end Json

namespace Catalog

/-- Decoders registered one after the other. -/
def registerAll (catalog : Catalog) (entries : List (String × Decoder)) : Catalog :=
  entries.foldl (fun catalog entry => catalog.register entry.1 entry.2) catalog

/-- Of the decoders registered for a kind the last one counts. -/
theorem find?_registerAll (catalog : Catalog) (entries : List (String × Decoder)) (name : String) :
    (catalog.registerAll entries).find? name =
      (entries.reverse.lookup name).or (catalog.find? name) := by
  induction entries generalizing catalog with
  | nil => rfl
  | cons entry rest ih =>
      obtain ⟨key, decoder⟩ := entry
      have alone : ([(key, decoder)].lookup name).or (catalog.find? name) =
          (catalog.register key decoder).find? name := by
        rw [find?_register]
        by_cases same : key = name
        · simp [same]
        · have other : (name == key) = false := beq_false_of_ne (Ne.symm same)
          simp [List.lookup_cons, same, other]
      rw [List.reverse_cons, List.lookup_append, Option.or_assoc, alone]
      exact ih (catalog.register key decoder)

/-- Catalogs that agree on all kinds that a value names see the same in it. -/
theorem reading_congr {first second : Catalog} {value : Json}
    (agree : ∀ kind, kind ∈ value.kinds → first.find? kind = second.find? kind) :
    first.reading value = second.reading value := by
  induction value using Json.induct with
  | null | bool | number | string => rfl
  | array items each =>
      have items : items.map first.decodeValue = items.map second.decodeValue :=
        List.map_congr_left fun item present => congrArg Reading.pattern <|
          each item present fun kind named => agree kind (Json.mem_kinds_item present named)
      simp only [reading, decodeValue, decodeItems, decodeEach_eq_map, items]
  | object fields each =>
      have same : first.readings fields = second.readings fields := by
        rw [readings_eq_map, readings_eq_map]
        refine List.map_congr_left fun field present => ?_
        have held := (List.mem_filter.mp present).1
        rw [each field held fun kind named => agree kind (Json.mem_kinds_field held named)]
      simp only [reading, decodeItems, decodeValue, same]
      cases tag : Json.field? Pattern.kindField fields with
      | none => rfl
      | some value =>
          cases value with
          | string kind => simp only [agree kind (Json.mem_kinds tag)]
          | _ => rfl

theorem find?_registerAll_of_foreign {entries : List (String × Decoder)} {name : String}
    (foreign : ∀ entry ∈ entries, entry.1 ≠ name) (catalog : Catalog) :
    (catalog.registerAll entries).find? name = catalog.find? name := by
  have none : entries.reverse.lookup name = none := by
    refine List.lookup_eq_none_iff.mpr fun entry present => bne_iff_ne.mpr ?_
    exact Ne.symm (foreign entry (List.mem_reverse.mp present))
  rw [find?_registerAll, none, Option.none_or]

/-- Whatever is registered, a value that names none of the kinds registered is decoded as before;
and a text is the same under all catalogs. -/
theorem decodeValue_registerAll (entries : List (String × Decoder)) {value : Json}
    (foreign : ∀ entry ∈ entries, entry.1 ∉ value.kinds) :
    (builtin.registerAll entries).decodeValue value = builtin.decodeValue value ∧
      ∀ (catalog other : Catalog) (text : String),
        catalog.decodeValue (.string text) = other.decodeValue (.string text) := by
  have agree : ∀ kind, kind ∈ value.kinds →
      (builtin.registerAll entries).find? kind = builtin.find? kind := by
    intro kind named
    refine find?_registerAll_of_foreign (fun entry present same => ?_) builtin
    exact foreign entry present (same ▸ named)
  exact ⟨congrArg Reading.pattern (reading_congr agree), fun _ _ _ => rfl⟩

/-- Another rainbow and a kind that is new leave a document alone that names neither, next to one
that does. -/
theorem decodeValue_registerAll_rainbow :
    let entries : List (String × Decoder) :=
      [("Rainbow", fun _ => .ok (.color .black)), ("Blink", fun _ => .ok .rainbow),
        ("Rainbow", fun fields => .error (.unknownKind fields.kind))]
    let rainbow := Json.object [("_type", .string "Rainbow")]
    let value := Json.object [("_type", .string "Cycle"), ("frames", .array
      [.string "#ff0000", .object [("_type", .string "Rotate"), ("child", .string "L")]])]
    (∀ entry ∈ entries, entry.1 ∉ value.kinds) ∧
      (builtin.registerAll entries).decodeValue rainbow = .error (.unknownKind "Rainbow") ∧
      (builtin.registerAll entries).decodeValue value =
        .ok (.cycle [.color ⟨255, 0, 0⟩, .rotate (some (.frame [])) 0.0] 0) := by
  intro entries rainbow value
  have foreign : ∀ entry ∈ entries, entry.1 ∉ value.kinds := by decide
  exact ⟨foreign, rfl, (decodeValue_registerAll entries foreign).1.trans rfl⟩

end Catalog

end LightShow
