import LightShow.Proofs.Grammar

/-! What a decoder needs. Whether a field can be read hangs on its form alone, and a decoder gives a
pattern if and only if every part of its kind is supplied, whatever else there is. -/

namespace LightShow

section Success

variable {Cause Source Target : Type}

theorem exists_bind_ok {first : Except Cause Source} {next : Source → Except Cause Target} :
    (∃ target, first >>= next = .ok target) ↔
      ∃ source, first = .ok source ∧ ∃ target, next source = .ok target := by
  cases first with
  | error cause => exact iff_of_false nofun nofun
  | ok source =>
      constructor
      · exact fun result => ⟨source, rfl, result⟩
      · rintro ⟨_, ⟨⟩, result⟩
        exact result

theorem exists_pure_ok {target : Target} :
    ∃ other, (pure target : Except Cause Target) = .ok other := ⟨target, rfl⟩

theorem exists_mapM_ok {read : Source → Except Cause Target} {items : List Source} :
    (∃ targets, items.mapM read = .ok targets) ↔
      ∀ item ∈ items, ∃ target, read item = .ok target := by
  induction items with
  | nil => exact iff_of_true exists_pure_ok (by simp)
  | cons item rest ih =>
      simp only [List.mapM_cons, exists_bind_ok, exists_pure_ok, and_true, exists_and_right,
        List.forall_mem_cons, ih]

end Success

namespace Json

theorem exists_toWhole_ok {unit : String} {value : Json} :
    (∃ word, toWhole (UInt64.size - 1) unit value = .ok word) ↔ Form.word.Admits value := by
  constructor
  · rintro ⟨word, read⟩
    cases value with
    | number number =>
        cases number with
        | natural value => exact ⟨value, rfl⟩
        | negative value => cases read
        | double value => cases read
        | single value => cases read
    | _ => cases read
  · rintro ⟨word, rfl⟩
    exact ⟨word, if_pos (Nat.le_pred_of_lt word.toNat_lt)⟩

theorem exists_toSingle_ok {value : Json} :
    (∃ real, toSingle value = .ok real) ↔ Form.real.Admits value := by
  constructor
  · rintro ⟨real, read⟩
    cases value with
    | number number => exact ⟨number, rfl⟩
    | _ => cases read
  · rintro ⟨number, rfl⟩
    exact ⟨number.toSingle, rfl⟩

theorem exists_toSingles_ok {value : Json} :
    (∃ reals, toList toSingle value = .ok reals) ↔ Form.reals.Admits value := by
  constructor
  · rintro ⟨reals, read⟩
    cases value with
    | array items =>
        exact ⟨items, rfl, fun item present =>
          exists_toSingle_ok.mp (exists_mapM_ok.mp ⟨reals, read⟩ item present)⟩
    | _ => cases read
  · rintro ⟨items, rfl, each⟩
    exact exists_mapM_ok.mpr fun item present => exists_toSingle_ok.mpr (each item present)

theorem exists_choose_ok {Choice : Type} {known : List (String × Choice)} {name : String} :
    (∃ choice, choose known name = .ok choice) ↔ name ∈ known.map (·.1) := by
  rw [choose, List.mem_map]
  cases found : known.find? (·.1 = name) with
  | none =>
      refine iff_of_false nofun fun ⟨entry, present, same⟩ => ?_
      exact List.find?_eq_none.mp found entry present (decide_eq_true same)
  | some entry =>
      have same : entry.1 = name := by simpa using List.find?_some found
      exact iff_of_true ⟨entry.2, rfl⟩ ⟨entry, List.mem_of_find?_eq_some found, same⟩

theorem exists_toChoice_ok {Choice : Type} {known : List (String × Choice)} {value : Json} :
    (∃ choice, toChoice known value = .ok choice) ↔
      (Form.choice (known.map (·.1))).Admits value := by
  constructor
  · rintro ⟨choice, read⟩
    cases value with
    | string name => exact ⟨name, exists_choose_ok.mp ⟨choice, read⟩, .inl rfl⟩
    | object fields =>
        match fields, read with
        | [(name, value)], read =>
            obtain ⟨chosen, named, _, rest⟩ := exists_bind_ok.mp ⟨choice, read⟩
            cases value with
            | null => exact ⟨name, exists_choose_ok.mp ⟨chosen, named⟩, .inr rfl⟩
            | _ => cases rest
        | [], read => cases read
        | _ :: _ :: _, read => cases read
    | _ => cases read
  · rintro ⟨name, present, rfl | rfl⟩
    · exact exists_choose_ok.mpr present
    · obtain ⟨choice, chosen⟩ := exists_choose_ok.mpr present
      exact exists_bind_ok.mpr ⟨choice, chosen, choice, rfl⟩

end Json

namespace Fields

/-- What a decoder needs of a field of some form. -/
def Supplies (fields : Fields) (name : String) : Form → Prop
  | .color => ∃ reading ∈ fields.find? name, Form.color.Admits reading.value
  | .child => ∀ reading ∈ fields.find? name, ∃ pattern, reading.pattern = .ok pattern
  | .children => ∀ reading ∈ fields.find? name, (∃ items, reading.value = .array items) ∧
      ∀ item ∈ reading.items, ∃ pattern, item = .ok pattern
  | form => ∀ reading ∈ fields.find? name, form.Admits reading.value

variable {fields : Fields} {name : String}

theorem color_supplied : (∃ ink, fields.color name = .ok ink) ↔ fields.Supplies name .color := by
  simp only [exists_color_ok, Color.isSome_ofHex?, Supplies, Form.Admits]

theorem exists_value_ok {Value : Type} {read : Json → Except Json.Fault Value} {absent : Value} :
    (∃ value, fields.value read absent name = .ok value) ↔
      ∀ reading ∈ fields.find? name, ∃ value, read reading.value = .ok value := by
  unfold value
  cases fields.find? name with
  | none => exact iff_of_true ⟨absent, rfl⟩ nofun
  | some reading =>
      simp only [Option.mem_some_iff, forall_eq']
      cases read reading.value with
      | error fault => exact iff_of_false nofun nofun
      | ok value => exact iff_of_true ⟨value, rfl⟩ ⟨value, rfl⟩

theorem strip_supplied :
    (∃ strip, fields.strip name = .ok strip) ↔ fields.Supplies name .strip := by
  simp only [strip, exists_value_ok, Json.exists_toStrip_ok, Strip.isSome_ofHex?, Supplies,
    Form.Admits]

theorem millis_supplied : (∃ word, fields.millis name = .ok word) ↔ fields.Supplies name .word := by
  simp only [millis, exists_value_ok, Json.exists_toWhole_ok, Supplies]

theorem length_supplied : (∃ word, fields.length name = .ok word) ↔ fields.Supplies name .word := by
  simp only [length, exists_value_ok, Json.exists_toWhole_ok, Supplies]

theorem single_supplied : (∃ real, fields.single name = .ok real) ↔ fields.Supplies name .real := by
  simp only [single, exists_value_ok, Json.exists_toSingle_ok, Supplies]

theorem singles_supplied :
    (∃ reals, fields.singles name = .ok reals) ↔ fields.Supplies name .reals := by
  simp only [singles, exists_value_ok, Json.exists_toSingles_ok, Supplies]

theorem curve_supplied :
    (∃ curve, fields.curve name = .ok curve) ↔ fields.Supplies name .curve := by
  simp only [curve, exists_value_ok, Json.exists_toChoice_ok, Supplies, Form.curve]

theorem sampling_supplied :
    (∃ method, fields.sampling name = .ok method) ↔ fields.Supplies name .sampling := by
  simp only [sampling, exists_value_ok, Json.exists_toChoice_ok, Supplies, Form.sampling]

theorem child_supplied :
    (∃ child, fields.pattern name = .ok child) ↔ fields.Supplies name .child := by
  rw [pattern, Supplies]
  cases fields.find? name with
  | none => exact iff_of_true ⟨none, rfl⟩ nofun
  | some reading =>
      simp only [Option.mem_some_iff, forall_eq']
      cases reading.pattern with
      | error failure => exact iff_of_false nofun nofun
      | ok pattern => exact iff_of_true ⟨some pattern, rfl⟩ ⟨pattern, rfl⟩

theorem exists_allOf_ok {items : List (Except Failure Pattern)} :
    (∃ patterns, allOf items = .ok patterns) ↔ ∀ item ∈ items, ∃ pattern, item = .ok pattern := by
  induction items with
  | nil => exact iff_of_true ⟨[], rfl⟩ nofun
  | cons item rest ih =>
      simp only [allOf, exists_bind_ok, exists_pure_ok, and_true, exists_and_right,
        List.forall_mem_cons, ih]

theorem children_supplied :
    (∃ children, fields.patterns name = .ok children) ↔ fields.Supplies name .children := by
  rw [patterns, Supplies]
  cases fields.find? name with
  | none => exact iff_of_true ⟨[], rfl⟩ nofun
  | some reading =>
      simp only [Option.mem_some_iff, forall_eq']
      cases reading.value with
      | array items => simp only [exists_allOf_ok, Json.array.injEq, exists_eq', true_and]
      | _ => exact iff_of_false nofun fun ⟨⟨_, other⟩, _⟩ => by cases other

theorem supplies_of_none {form : Form} (missing : fields.find? name = none) :
    fields.Supplies name form ↔ form ≠ .color := by
  cases form <;> simp [Supplies, missing]

theorem supplies_of_some {form : Form} {reading : Reading}
    (present : fields.find? name = some reading) :
    fields.Supplies name form ↔ match form with
      | .child => ∃ pattern, reading.pattern = .ok pattern
      | .children => (∃ items, reading.value = .array items) ∧
          ∀ item ∈ reading.items, ∃ pattern, item = .ok pattern
      | form => form.Admits reading.value := by
  cases form <;> simp only [Supplies, present, Option.mem_some_iff, forall_eq', exists_eq_left']

end Fields

/-- A decoder gives a pattern exactly if it is supplied with every part of its kind. -/
theorem Kind.exists_decoder_ok (kind : Kind) (fields : Fields) :
    (∃ pattern, kind.decoder fields = .ok pattern) ↔
      ∀ part ∈ kind.parts, fields.Supplies part.1 part.2 := by
  cases kind <;>
    simp only [decoder, parts, exists_bind_ok, exists_pure_ok, and_true, exists_and_right,
      List.forall_mem_cons, List.not_mem_nil, false_implies, implies_true,
      Fields.color_supplied, Fields.strip_supplied, Fields.millis_supplied,
      Fields.length_supplied, Fields.single_supplied, Fields.singles_supplied,
      Fields.curve_supplied, Fields.sampling_supplied, Fields.child_supplied,
      Fields.children_supplied, Except.ok.injEq, exists_eq']

end LightShow
