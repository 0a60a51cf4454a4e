import LightShow.Proofs.Echo
import LightShow.Proofs.Lookup

/-! What a decoder is given of a canonical document: every field in a form that reads as what was
written, as long as the finite numbers of the tree do. -/

namespace LightShow

/-- A number in single precision is read back from its own text. -/
def ReadsBack (value : Float32) : Prop :=
  ∃ number, Json.read (Json.numberOctets (.single value)) = .ok (.number number) ∧
    number.toSingle = value

theorem ReadsBack.isFinite {value : Float32} (back : ReadsBack value) : value.isFinite := by
  refine Classical.byContradiction fun wild => ?_
  obtain ⟨number, read, -⟩ := back
  rw [Json.read_wild wild] at read
  cases read

namespace Pattern

mutual

/-- The numbers in single precision of a tree. -/
def reals : Pattern → List Float32
  | .gradient left right _ => realsOfChild left ++ realsOfChild right
  | .transition before after _ _ _ => realsOfChild before ++ realsOfChild after
  | .cycle frames _ => realsOfEach frames
  | .loop patterns _ _ _ => realsOfEach patterns
  | .rotate child rate => rate :: realsOfChild child
  | .pingPong child rate => rate :: realsOfChild child
  | .chronometer child => realsOfChild child
  | .crop child _ => realsOfChild child
  | .scale child _ _ ratio => ratio :: realsOfChild child
  | .mixer patterns weights => weights ++ realsOfEach patterns
  | _ => []

def realsOfChild : Option Pattern → List Float32
  | none => []
  | some child => reals child

def realsOfEach : List Pattern → List Float32
  | [] => []
  | pattern :: patterns => reals pattern ++ realsOfEach patterns

end

theorem mem_realsOfEach {patterns : List Pattern} {child : Pattern} (present : child ∈ patterns)
    {value : Float32} (held : value ∈ child.reals) : value ∈ realsOfEach patterns := by
  induction patterns with
  | nil => cases present
  | cons pattern rest ih =>
      rw [realsOfEach]
      rcases List.mem_cons.mp present with rfl | later
      · exact List.mem_append_left _ held
      · exact List.mem_append_right _ (ih later)

theorem mem_realsOfChild {child : Option Pattern} {inner : Pattern} (present : inner ∈ child)
    {value : Float32} (held : value ∈ inner.reals) : value ∈ realsOfChild child := by
  rw [Option.mem_def.mp present]
  exact held

/-- The fields of a document, as its decoder finds them after it was written and read again. -/
def given (kind : Kind) (fields : List (String × Json)) : Fields :=
  ⟨kind.name, Catalog.builtin.readings
    (Json.sorted (Json.rereadFields ((kindField, .string kind.name) :: fields)))⟩

/-- A document is decoded by the decoder of its kind. -/
theorem decodeValue_tagged (kind : Kind) {fields : List (String × Json)}
    (untagged : Json.field? kindField fields.reverse = none) :
    Catalog.builtin.decodeValue (tagged kind fields).reread = kind.decoder (given kind fields) := by
  have named : Json.field? kindField
      (Json.sorted (Json.rereadFields ((kindField, .string kind.name) :: fields))) =
        some (.string kind.name) := by
    rw [Json.field?_sorted, Json.rereadFields_eq_map, ← List.map_reverse, Json.field?_map,
      List.reverse_cons, Json.field?_append, untagged]
    rfl
  rw [tagged, Json.reread, Json.ofMembers_eq, Catalog.decodeValue, named]
  dsimp only
  rw [Catalog.find?_builtin]
  rfl

theorem find?_given (kind : Kind) (fields : List (String × Json)) {name : String}
    (other : kindField ≠ name) :
    (given kind fields).find? name =
      ((Json.field? name fields.reverse).map fun value =>
        Catalog.builtin.reading value.reread).filter fun reading => !reading.value.isNull := by
  have tag : Json.field? name [(kindField, .string kind.name)] = none := if_neg other
  rw [given, Catalog.find?_readings _ _ _ (Ne.symm other), Json.field?_sorted,
    Json.rereadFields_eq_map, ← List.map_reverse, Json.field?_map, List.reverse_cons,
    Json.field?_append, tag, Option.or_none, Option.map_map]
  rfl

theorem isNull_reread_json (pattern : Pattern) : pattern.json.reread.isNull = false := by
  cases pattern <;> rfl

section Given

variable {kind : Kind} {fields : List (String × Json)} {name : String}

theorem find?_given_some (other : kindField ≠ name) {written : Json}
    (held : Json.field? name fields.reverse = some written)
    (visible : written.reread.isNull = false) :
    (given kind fields).find? name = some (Catalog.builtin.reading written.reread) := by
  rw [find?_given kind fields other, held]
  exact Catalog.builtin.filter_reading visible

theorem value_given {Value : Type} {read : Json → Except Json.Fault Value} {absent result : Value}
    (other : kindField ≠ name) {written : Json}
    (held : Json.field? name fields.reverse = some written)
    (visible : written.reread.isNull = false) (reads : read written.reread = .ok result) :
    (given kind fields).value read absent name = .ok result := by
  rw [Fields.value, find?_given_some other held visible]
  dsimp only [Catalog.reading]
  rw [reads]
  rfl

theorem pattern_given (other : kindField ≠ name) {child : Option Pattern}
    (held : Json.field? name fields.reverse = child.map json)
    (echoes : ∀ inner ∈ child, Catalog.builtin.decodeValue inner.json.reread = inner.echo) :
    (given kind fields).pattern name = echoChild child := by
  rw [Fields.pattern]
  cases child with
  | none =>
      rw [find?_given kind fields other, held]
      rfl
  | some inner =>
      rw [find?_given_some other held (isNull_reread_json inner)]
      dsimp only [Catalog.reading]
      rw [echoes inner rfl, echoChild]
      cases inner.echo <;> rfl

theorem patterns_given (other : kindField ≠ name) {children : List Pattern}
    (held : Json.field? name fields.reverse = some (.array (jsonEach children)))
    (echoes : ∀ child ∈ children, Catalog.builtin.decodeValue child.json.reread = child.echo) :
    (given kind fields).patterns name = echoEach children := by
  have all : Fields.allOf (Catalog.builtin.decodeEach (Json.rereadItems (jsonEach children))) =
      echoEach children := by
    clear held
    induction children with
    | nil => rfl
    | cons child rest ih =>
        rw [jsonEach, Json.rereadItems, Catalog.decodeEach, Fields.allOf, echoEach,
          echoes child List.mem_cons_self,
          ih fun inner present => echoes inner (List.mem_cons_of_mem child present)]
  rw [Fields.patterns, find?_given_some other held rfl]
  exact all

theorem toWhole_natural (unit : String) (value : UInt64) :
    Json.toWhole (UInt64.size - 1) unit (.number (.natural value)) = .ok value :=
  if_pos (Nat.le_pred_of_lt value.toNat_lt)

theorem millis_given (other : kindField ≠ name) {value : UInt64}
    (held : Json.field? name fields.reverse = some (word value)) :
    (given kind fields).millis name = .ok value :=
  value_given other held rfl (toWhole_natural "u64" value)

theorem length_given (other : kindField ≠ name) {value : UInt64}
    (held : Json.field? name fields.reverse = some (word value)) :
    (given kind fields).length name = .ok value :=
  value_given other held rfl (toWhole_natural "usize" value)

theorem reread_real {value : Float32} (back : ReadsBack value) :
    ∃ number, (real value).reread = .number number ∧ number.toSingle = value := by
  obtain ⟨number, alone, same⟩ := back
  refine ⟨number, ?_, same⟩
  simp only [real, Json.reread, alone]

theorem single_given (other : kindField ≠ name) {value : Float32}
    (back : value.isFinite → ReadsBack value)
    (held : Json.field? name fields.reverse = some (real value)) :
    (given kind fields).single name = .ok (echoReal value) := by
  by_cases finite : value.isFinite
  · obtain ⟨number, shape, same⟩ := reread_real (back finite)
    rw [echoReal_of_finite finite]
    apply value_given other held
    · rw [shape]
      rfl
    · rw [shape, ← same]
      rfl
  · have absent : (real value).reread = .null := Json.reread_wild finite
    rw [Fields.single, Fields.value, find?_given kind fields other, held, echoReal, if_neg finite,
      Option.map_some, absent]
    rfl

theorem mapM_toSingle {values : List Float32}
    (back : ∀ value ∈ values, value.isFinite → ReadsBack value) :
    (Json.rereadItems (values.map real)).mapM Json.toSingle =
      if values.all Float32.isFinite then .ok values else .error (.invalidType .null "f32") := by
  induction values with
  | nil => rfl
  | cons value rest ih =>
      have others := ih fun other present => back other (List.mem_cons_of_mem value present)
      rw [List.map_cons, Json.rereadItems, List.mapM_cons, others, List.all_cons]
      by_cases finite : value.isFinite
      · obtain ⟨number, shape, same⟩ := reread_real (back value List.mem_cons_self finite)
        rw [shape, Json.toSingle, same, finite, Bool.true_and]
        split <;> rfl
      · have absent : (real value).reread = .null := Json.reread_wild finite
        rw [absent, Bool.eq_false_iff.mpr finite]
        rfl

theorem weights_given {fields : List (String × Json)} {weights : List Float32}
    (back : ∀ value ∈ weights, value.isFinite → ReadsBack value)
    (held : Json.field? "weights" fields.reverse = some (.array (weights.map real))) :
    (given .mixer fields).singles "weights" = echoWeights weights := by
  have read : Json.toList Json.toSingle (Json.array (weights.map real)).reread =
      if weights.all Float32.isFinite then .ok weights else .error (.invalidType .null "f32") :=
    mapM_toSingle back
  rw [Fields.singles, Fields.value, find?_given_some (by decide) held rfl]
  dsimp only [Catalog.reading]
  rw [read, echoWeights]
  split <;> rfl

theorem curve_given (other : kindField ≠ name) {curve : Curve}
    (held : Json.field? name fields.reverse = some (.string curve.name)) :
    (given kind fields).curve name = .ok curve := by
  apply value_given other held rfl
  cases curve <;> rfl

theorem sampling_given (other : kindField ≠ name) {method : Sampling}
    (held : Json.field? name fields.reverse = some (.string method.name)) :
    (given kind fields).sampling name = .ok method := by
  apply value_given other held rfl
  cases method <;> rfl

theorem strip_given (other : kindField ≠ name) {pixels : Strip}
    (held : Json.field? name fields.reverse = some (stripText pixels)) :
    (given kind fields).strip name = .ok pixels :=
  value_given other held rfl (Json.toStrip_toText pixels)

end Given

/-- If its finite numbers are read back, what is decoded of the document of a tree is its echo. -/
def Echoes (pattern : Pattern) : Prop :=
  (∀ value ∈ pattern.reals, value.isFinite → ReadsBack value) →
    Catalog.builtin.decodeValue pattern.json.reread = pattern.echo

theorem child_given {kind : Kind} {fields : List (String × Json)} {name : String}
    (other : kindField ≠ name) {child : Option Pattern}
    (held : Json.field? name fields.reverse = child.map json)
    (echoes : ∀ inner ∈ child, Echoes inner)
    (back : ∀ value ∈ realsOfChild child, value.isFinite → ReadsBack value) :
    (given kind fields).pattern name = echoChild child :=
  pattern_given other held fun inner here =>
    echoes inner here fun value present => back value (mem_realsOfChild here present)

theorem children_given {kind : Kind} {fields : List (String × Json)} {name : String}
    (other : kindField ≠ name) {children : List Pattern}
    (held : Json.field? name fields.reverse = some (.array (jsonEach children)))
    (echoes : ∀ child ∈ children, Echoes child)
    (back : ∀ value ∈ realsOfEach children, value.isFinite → ReadsBack value) :
    (given kind fields).patterns name = echoEach children :=
  patterns_given other held fun child here =>
    echoes child here fun value present => back value (mem_realsOfEach here present)

end Pattern

end LightShow
