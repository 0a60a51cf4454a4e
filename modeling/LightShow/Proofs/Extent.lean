import LightShow.Proofs.Restored

/-! How long the document of a tree is, and that of what comes back of it. Where a `null` was
written, a shorter zero comes back; so the document gets shorter unless every number is finite. -/

namespace LightShow

namespace Json

/-- The number of octets of a value as it is written. -/
def extent (value : Json) : Nat := (Utf8.encode value.chars).length

/-- The octets of some fields, each with its quotes and its colon and with a comma or a brace. -/
def fieldsExtent : List (String × Json) → Nat
  | [] => 0
  | (name, value) :: rest =>
      (Utf8.encode (stringChars name)).length + value.extent + 2 + fieldsExtent rest

/-- The octets of what stands behind an item. -/
def itemsExtent (items : List Json) : Nat := (Utf8.encode (moreItems items)).length

@[simp] theorem fieldsExtent_nil : fieldsExtent [] = 0 := rfl

@[simp] theorem fieldsExtent_cons (name : String) (value : Json) (rest : List (String × Json)) :
    fieldsExtent ((name, value) :: rest) =
      (Utf8.encode (stringChars name)).length + value.extent + 2 + fieldsExtent rest := rfl

@[simp] theorem fieldsExtent_append (left right : List (String × Json)) :
    fieldsExtent (left ++ right) = fieldsExtent left + fieldsExtent right := by
  induction left with
  | nil => exact (Nat.zero_add _).symm
  | cons field rest ih => simp only [List.cons_append, fieldsExtent, ih, Nat.add_assoc]

theorem length_encode_cons {char : Char} (ascii : char.toNat < 128) (rest : List Char) :
    (Utf8.encode (char :: rest)).length = (Utf8.encode rest).length + 1 := by
  rw [Utf8.encode_cons_of_ascii ascii, List.length_cons]

theorem length_fieldChars (field : String × Json) (rest : List (String × Json)) :
    (Utf8.encode (fieldChars (field :: rest))).length = fieldsExtent (field :: rest) := by
  have more : ∀ field rest, moreFields (field :: rest) = ',' :: fieldChars (field :: rest) :=
    fun _ _ => rfl
  induction rest generalizing field with
  | nil =>
      rw [fieldChars_cons, Utf8.encode_append, List.length_append,
        length_encode_cons (by decide), Utf8.encode_append, List.length_append]
      rfl
  | cons next others ih =>
      obtain ⟨name, value⟩ := field
      rw [fieldsExtent_cons, ← ih, fieldChars_cons, Utf8.encode_append, List.length_append,
        length_encode_cons (by decide), Utf8.encode_append, List.length_append, more,
        length_encode_cons (by decide), extent]
      omega

theorem extent_object (field : String × Json) (rest : List (String × Json)) :
    extent (.object (field :: rest)) = fieldsExtent (field :: rest) + 1 := by
  rw [extent, chars, length_encode_cons (by decide), length_fieldChars]

theorem itemsExtent_cons (item : Json) (rest : List Json) :
    itemsExtent (item :: rest) = item.extent + itemsExtent rest + 1 := by
  have more : moreItems (item :: rest) = ',' :: itemChars (item :: rest) := rfl
  rw [itemsExtent, more, itemChars_cons, length_encode_cons (by decide), Utf8.encode_append,
    List.length_append]
  rfl

theorem extent_array (items : List Json) :
    extent (.array items) = itemsExtent items + if items.isEmpty then 1 else 0 := by
  cases items with
  | nil => rfl
  | cons item rest =>
      rw [itemsExtent_cons, extent, chars, length_encode_cons (by decide), itemChars_cons,
        Utf8.encode_append, List.length_append]
      rfl

end Json

namespace Pattern

open Json

/-- What comes back is no longer than what was written, and as long only if some singles are
finite. -/
def Fades (written heard : Nat) (reals : List Float32) : Prop :=
  heard ≤ written ∧ (heard = written → ∀ value ∈ reals, value.isFinite)

namespace Fades

variable {written heard longer longerHeard shorter shorterHeard : Nat} {reals others : List Float32}

theorem fixed (length : Nat) : Fades length length [] :=
  ⟨Nat.le_refl _, fun _ => List.forall_mem_nil _⟩

/-- The same with what stands around it. -/
theorem within (fades : Fades shorter shorterHeard reals)
    (around : written + shorterHeard = heard + shorter) : Fades written heard reals :=
  ⟨by have := fades.1; omega, fun same => fades.2 (by omega)⟩

theorem both (first : Fades longer longerHeard reals) (second : Fades shorter shorterHeard others)
    (around : written + longerHeard + shorterHeard = heard + longer + shorter) :
    Fades written heard (reals ++ others) := by
  have one := first.1
  have two := second.1
  refine ⟨by omega, fun same => ?_⟩
  exact List.forall_mem_append.mpr ⟨first.2 (by omega), second.2 (by omega)⟩

end Fades

theorem fades_real (value : Float32) :
    Fades (real value).extent (real (echoReal value)).extent [value] := by
  by_cases finite : value.isFinite
  · rw [echoReal_of_finite finite]
    exact ⟨Nat.le_refl _, fun _ => List.forall_mem_singleton.mpr finite⟩
  · have zero : (real 0.0).extent = 3 := by decide
    have null : (real value).extent = 4 := by
      rw [real, extent, chars_wild finite]
      decide
    rw [echoReal, if_neg finite, zero, null]
    exact ⟨by decide, fun same => absurd same (by decide)⟩

/-- The document of a tree fades, whatever comes back of the tree. -/
def Faded (pattern : Pattern) : Prop :=
  ∀ heard, pattern.echo = .ok heard → Fades pattern.json.extent heard.json.extent pattern.reals

theorem fades_child (name : String) {child heard : Option Pattern}
    (faded : ∀ inner ∈ child, inner.Faded) (hears : echoChild child = .ok heard) :
    Fades (fieldsExtent (childField name child)) (fieldsExtent (childField name heard))
      (realsOfChild child) := by
  cases child with
  | none =>
      cases hears
      exact .fixed _
  | some inner =>
      obtain ⟨other, echoed, same⟩ := Scan.ok_of_bind hears
      cases same
      have fades := faded inner rfl other echoed
      simp only [childField, fieldsExtent_cons, fieldsExtent_nil]
      exact fades.within (by omega)

theorem fades_items {patterns heard : List Pattern} (faded : ∀ child ∈ patterns, child.Faded)
    (hears : echoEach patterns = .ok heard) :
    heard.length = patterns.length ∧
      Fades (itemsExtent (jsonEach patterns)) (itemsExtent (jsonEach heard))
        (realsOfEach patterns) := by
  induction patterns generalizing heard with
  | nil =>
      cases hears
      exact ⟨rfl, .fixed _⟩
  | cons pattern rest ih =>
      obtain ⟨first, firstHeard, hears⟩ := Scan.ok_of_bind hears
      obtain ⟨others, othersHeard, same⟩ := Scan.ok_of_bind hears
      cases same
      have firstFades := faded pattern List.mem_cons_self first firstHeard
      obtain ⟨long, fades⟩ :=
        ih (fun child present => faded child (List.mem_cons_of_mem pattern present)) othersHeard
      simp only [jsonEach, itemsExtent_cons, List.length_cons, long]
      exact ⟨trivial, firstFades.both fades (by omega)⟩

theorem fades_each {patterns heard : List Pattern} (faded : ∀ child ∈ patterns, child.Faded)
    (hears : echoEach patterns = .ok heard) :
    Fades (Json.array (jsonEach patterns)).extent (Json.array (jsonEach heard)).extent
      (realsOfEach patterns) := by
  obtain ⟨long, fades⟩ := fades_items faded hears
  have none : (jsonEach heard).isEmpty = (jsonEach patterns).isEmpty := by
    cases patterns with
    | nil => rw [List.length_eq_zero_iff.mp long]
    | cons pattern rest =>
        cases heard with
        | nil => cases long
        | cons other others => rfl
  rw [extent_array, extent_array, none]
  exact fades.within (by omega)

theorem faded (pattern : Pattern) : pattern.Faded := by
  induction pattern using induct with
  | color | frame | rainbow | repeated =>
      intro heard hears
      cases hears
      exact .fixed _
  | gradient left right curve lefts rights =>
      intro heard hears
      obtain ⟨first, firstHeard, hears⟩ := Scan.ok_of_bind hears
      obtain ⟨second, secondHeard, same⟩ := Scan.ok_of_bind hears
      cases same
      have firstFades := fades_child "left" lefts firstHeard
      have secondFades := fades_child "right" rights secondHeard
      simp only [json, tagged, extent_object, fieldsExtent_cons, fieldsExtent_append]
      exact firstFades.both secondFades (by omega)
  | transition before after offset duration curve befores afters =>
      intro heard hears
      obtain ⟨first, firstHeard, hears⟩ := Scan.ok_of_bind hears
      obtain ⟨second, secondHeard, same⟩ := Scan.ok_of_bind hears
      cases same
      have firstFades := fades_child "before" befores firstHeard
      have secondFades := fades_child "after" afters secondHeard
      simp only [json, tagged, extent_object, fieldsExtent_cons, fieldsExtent_append]
      exact firstFades.both secondFades (by omega)
  | cycle frames duration each | loop patterns hold fade curve each =>
      intro heard hears
      obtain ⟨others, echoed, same⟩ := Scan.ok_of_bind hears
      cases same
      have fades := fades_each each echoed
      simp only [json, tagged, extent_object, fieldsExtent_cons]
      exact fades.within (by omega)
  | rotate child rate each | pingPong child rate each | scale child method length rate each =>
      intro heard hears
      obtain ⟨inner, echoed, same⟩ := Scan.ok_of_bind hears
      cases same
      have fades := fades_child "child" each echoed
      have realFades := fades_real rate
      simp only [json, tagged, extent_object, fieldsExtent_cons, fieldsExtent_append]
      exact realFades.both fades (by omega)
  | chronometer child each | crop child segment each =>
      intro heard hears
      obtain ⟨inner, echoed, same⟩ := Scan.ok_of_bind hears
      cases same
      have fades := fades_child "child" each echoed
      simp only [json, tagged, extent_object, fieldsExtent_cons, fieldsExtent_append]
      exact fades.within (by omega)
  | mixer patterns weights each =>
      intro heard hears
      obtain ⟨others, echoed, hears⟩ := Scan.ok_of_bind hears
      obtain ⟨kept, weighed, same⟩ := Scan.ok_of_bind hears
      cases same
      have fades := fades_each each echoed
      unfold echoWeights at weighed
      split at weighed
      · next finite =>
          cases weighed
          have weights : Fades 0 0 weights := ⟨Nat.le_refl _, fun _ => List.all_eq_true.mp finite⟩
          simp only [json, tagged, extent_object, fieldsExtent_cons]
          exact weights.both fades (by omega)
      · cases weighed

end Pattern

end LightShow
