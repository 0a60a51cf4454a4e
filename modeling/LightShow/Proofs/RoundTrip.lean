import LightShow.Proofs.Restored

/-! Canonical documents are read back. The text of a tree is legible as long as its numbers are, so
that the tree comes back as it was, if its document does not nest too deep. -/

namespace LightShow

namespace Pattern

theorem plain_toHex (ink : Color) : ∀ char ∈ ink.toHex, Json.PlainChar char := by
  have digit : ∀ value, value < 16 → Json.PlainChar (Hex.digit value) := by decide
  have byte : ∀ byte : UInt8, ∀ char ∈ Hex.ofByte byte, Json.PlainChar char := by
    intro byte char present
    have bound := byte.toNat_lt
    rcases List.mem_cons.mp present with rfl | last
    · exact digit _ (by omega)
    · rw [List.mem_singleton.mp last]
      exact digit _ (by omega)
  intro char present
  simp only [Color.toHex, List.mem_append] at present
  rcases present with (red | green) | blue
  · exact byte _ char red
  · exact byte _ char green
  · exact byte _ char blue

theorem legible_strip (pixels : Strip) : (stripText pixels).Legible := by
  change Json.Plain (String.ofList pixels.toText)
  intro char present
  rw [String.toList_ofList] at present
  rcases List.mem_cons.mp present with rfl | digit
  · decide
  · obtain ⟨ink, -, held⟩ := List.mem_flatMap.mp digit
    exact plain_toHex ink char held

theorem legible_color (ink : Color) : (json (.color ink)).Legible := by
  change Json.Plain (String.ofList ('#' :: ink.toHex))
  intro char present
  rw [String.toList_ofList] at present
  rcases List.mem_cons.mp present with rfl | digit
  · decide
  · exact plain_toHex ink char digit

theorem legible_real {value : Float32} (back : ReadsBack value) : (real value).Legible := by
  obtain ⟨number, alone, -⟩ := back
  exact .inr ⟨number, alone⟩

theorem plain_name (kind : Kind) : Json.Plain kind.name := by
  cases kind <;> decide

theorem legible_curve (curve : Curve) : Json.LegibleFields [curveField curve] := by
  have plain : Json.Plain curve.name := by
    cases curve <;> decide
  exact ⟨by decide, plain, trivial⟩

theorem legible_method (method : Sampling) : (Json.string method.name).Legible := by
  have plain : Json.Plain method.name := by
    cases method <;> decide
  exact plain

theorem legible_tagged (kind : Kind) {fields : List (String × Json)}
    (legible : Json.LegibleFields fields) : (tagged kind fields).Legible :=
  ⟨by decide, plain_name kind, legible⟩

theorem legible_childField {name : String} (plain : Json.Plain name) {child : Option Pattern}
    (legible : ∀ inner ∈ child, inner.json.Legible) :
    Json.LegibleFields (childField name child) := by
  cases child with
  | none => trivial
  | some inner => exact ⟨plain, legible inner rfl, trivial⟩

theorem legible_jsonEach {patterns : List Pattern}
    (legible : ∀ child ∈ patterns, child.json.Legible) : Json.LegibleItems (jsonEach patterns) := by
  induction patterns with
  | nil => trivial
  | cons pattern rest ih =>
      exact ⟨legible pattern List.mem_cons_self,
        ih fun child present => legible child (List.mem_cons_of_mem pattern present)⟩

/-- Each of some singles is read back as some number, or is written as `null`. -/
def LegibleReals (values : List Float32) : Prop := ∀ value ∈ values, (real value).Legible

theorem legible_reals {values : List Float32} (each : LegibleReals values) :
    Json.LegibleItems (values.map real) := by
  induction values with
  | nil => trivial
  | cons value rest ih =>
      exact ⟨each value List.mem_cons_self,
        ih fun other present => each other (List.mem_cons_of_mem value present)⟩

/-- The document of a tree is legible if its numbers are. -/
theorem legible_json_of_reals (pattern : Pattern) (legible : LegibleReals pattern.reals) :
    pattern.json.Legible := by
  have child : ∀ {child : Option Pattern},
      (∀ inner ∈ child, LegibleReals inner.reals → inner.json.Legible) →
      LegibleReals (realsOfChild child) → ∀ inner ∈ child, inner.json.Legible :=
    fun each legible inner here =>
      each inner here fun value present => legible value (mem_realsOfChild here present)
  have children : ∀ {patterns : List Pattern},
      (∀ inner ∈ patterns, LegibleReals inner.reals → inner.json.Legible) →
      LegibleReals (realsOfEach patterns) → ∀ inner ∈ patterns, inner.json.Legible :=
    fun each legible inner here =>
      each inner here fun value present => legible value (mem_realsOfEach here present)
  induction pattern using induct with
  | color ink => exact legible_color ink
  | frame pixels => exact legible_strip pixels
  | rainbow => exact legible_tagged .rainbow trivial
  | repeated base => exact legible_tagged .repeated ⟨by decide, legible_strip base, trivial⟩
  | gradient left right curve leftEach rightEach =>
      obtain ⟨leftLegible, rightLegible⟩ := List.forall_mem_append.mp legible
      have leftField : Json.LegibleFields (childField "left" left) :=
        legible_childField (by decide) (child leftEach leftLegible)
      have rightField : Json.LegibleFields (childField "right" right) :=
        legible_childField (by decide) (child rightEach rightLegible)
      exact legible_tagged .gradient ((leftField.append rightField).append (legible_curve curve))
  | transition before after offset duration curve beforeEach afterEach =>
      obtain ⟨beforeLegible, afterLegible⟩ := List.forall_mem_append.mp legible
      have beforeField : Json.LegibleFields (childField "before" before) :=
        legible_childField (by decide) (child beforeEach beforeLegible)
      have afterField : Json.LegibleFields (childField "after" after) :=
        legible_childField (by decide) (child afterEach afterLegible)
      exact legible_tagged .transition ((beforeField.append afterField).append
        ⟨by decide, trivial, by decide, trivial, legible_curve curve⟩)
  | cycle frames duration each =>
      have items := legible_jsonEach (children each legible)
      exact legible_tagged .cycle ⟨by decide, items, by decide, trivial, trivial⟩
  | loop patterns hold fade curve each =>
      have items := legible_jsonEach (children each legible)
      exact legible_tagged .loop
        ⟨by decide, items, by decide, trivial, by decide, trivial, legible_curve curve⟩
  | rotate inner rate each =>
      obtain ⟨rateLegible, innerLegible⟩ := List.forall_mem_cons.mp legible
      have field : Json.LegibleFields (childField "child" inner) :=
        legible_childField (by decide) (child each innerLegible)
      exact legible_tagged .rotate (field.append ⟨by decide, rateLegible, trivial⟩)
  | pingPong inner rate each =>
      obtain ⟨rateLegible, innerLegible⟩ := List.forall_mem_cons.mp legible
      have field : Json.LegibleFields (childField "child" inner) :=
        legible_childField (by decide) (child each innerLegible)
      exact legible_tagged .pingPong (field.append ⟨by decide, rateLegible, trivial⟩)
  | chronometer inner each =>
      exact legible_tagged .chronometer (legible_childField (by decide) (child each legible))
  | crop inner segment each =>
      have field : Json.LegibleFields (childField "child" inner) :=
        legible_childField (by decide) (child each legible)
      exact legible_tagged .crop
        (field.append ⟨by decide, trivial, by decide, trivial, trivial⟩)
  | scale inner method length ratio each =>
      obtain ⟨ratioLegible, innerLegible⟩ := List.forall_mem_cons.mp legible
      have field : Json.LegibleFields (childField "child" inner) :=
        legible_childField (by decide) (child each innerLegible)
      have named := legible_method method
      exact legible_tagged .scale
        (field.append ⟨by decide, named, by decide, trivial, by decide, ratioLegible, trivial⟩)
  | mixer patterns weights each =>
      obtain ⟨weightsLegible, patternsLegible⟩ := List.forall_mem_append.mp legible
      have items := legible_jsonEach (children each patternsLegible)
      have numbers := legible_reals weightsLegible
      exact legible_tagged .mixer ⟨by decide, items, by decide, numbers, trivial⟩

/-- The document of a tree is legible if its numbers are read back. -/
theorem legible_json (pattern : Pattern) (back : ∀ value ∈ pattern.reals, ReadsBack value) :
    pattern.json.Legible :=
  legible_json_of_reals pattern fun value held => legible_real (back value held)

/-- A tree is decoded from its canonical document as it was, in every field of every node. -/
theorem decode_encode {pattern : Pattern} (back : ∀ value ∈ pattern.reals, ReadsBack value)
    (fits : pattern.json.depth ≤ 127) : Catalog.builtin.decode pattern.encode = .ok pattern := by
  have read : Json.read pattern.encode = .ok pattern.json.reread :=
    Json.read_chars (legible_json pattern back) fits
  rw [Catalog.decode, read]
  exact restored pattern back

/-- Numbers with a sign, with a fraction that no float meets, and without a fraction. -/
theorem decode_encode_mixer :
    let turning : Pattern := .rotate (some (.gradient (some .rainbow) none .easeIn)) (-2.5)
    let pattern : Pattern := .mixer [turning, .frame [⟨1, 2, 255⟩]] [0.1, 3]
    pattern.json.depth ≤ 127 ∧ Catalog.builtin.decode pattern.encode = .ok pattern := by
  intro turning pattern
  have fits : pattern.json.depth ≤ 127 := by decide
  have back : ∀ value ∈ pattern.reals, ReadsBack value := by
    intro value held
    simp only [pattern, turning, reals, realsOfEach, realsOfChild, List.cons_append,
      List.nil_append, List.append_nil, List.mem_cons, List.not_mem_nil, or_false] at held
    rcases held with rfl | rfl | rfl
    · exact ⟨.double 0.1, rfl, rfl⟩
    · exact ⟨.double 3, rfl, rfl⟩
    · exact ⟨.double (-2.5), rfl, rfl⟩
  exact ⟨fits, decode_encode back fits⟩

end Pattern

end LightShow
