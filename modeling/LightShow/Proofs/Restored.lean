import LightShow.Proofs.Given

/-! Decoding kind by kind. Every kind writes the fields that its decoder reads, so that of a node
comes back what its fields and its children leave of it: the node as it was, if its numbers are
finite. -/

namespace LightShow

namespace Pattern

namespace Echoes

theorem color (ink : Color) : Echoes (.color ink) := by
  intro _
  change Catalog.ofText (String.ofList ('#' :: ink.toHex)) = _
  simp only [Catalog.ofText, String.toList_ofList, Color.ofHex?_toHex]
  rfl

theorem frame (pixels : Strip) : Echoes (.frame pixels) := by
  intro _
  change Catalog.ofText (String.ofList pixels.toText) = _
  simp only [Catalog.ofText, String.toList_ofList, Strip.toText, Strip.ofHex?_flatMap]
  rfl

theorem rainbow : Echoes .rainbow := by
  intro _
  rw [json, decodeValue_tagged .rainbow rfl]
  rfl

theorem repeated (base : Strip) : Echoes (.repeated base) := by
  intro _
  let fields := [("base", stripText base)]
  have found : (given .repeated fields).strip "base" = .ok base := strip_given (by decide) rfl
  calc Catalog.builtin.decodeValue (json (.repeated base)).reread
      = Kind.decoder .repeated (given .repeated fields) := decodeValue_tagged .repeated rfl
    _ = echo (.repeated base) := by
        simp only [Kind.decoder, found]
        rfl

theorem gradient {left right : Option Pattern} (curve : Curve)
    (leftEchoes : ∀ inner ∈ left, Echoes inner)
    (rightEchoes : ∀ inner ∈ right, Echoes inner) :
    Echoes (.gradient left right curve) := by
  intro back
  obtain ⟨leftBack, rightBack⟩ := List.forall_mem_append.mp back
  let fields := childField "left" left ++ childField "right" right ++ [curveField curve]
  have first : (given .gradient fields).pattern "left" = echoChild left :=
    child_given (by decide) (by cases left <;> cases right <;> rfl) leftEchoes leftBack
  have second : (given .gradient fields).pattern "right" = echoChild right :=
    child_given (by decide) (by cases left <;> cases right <;> rfl) rightEchoes rightBack
  have third : (given .gradient fields).curve "curve" = .ok curve :=
    curve_given (by decide) (by cases left <;> cases right <;> rfl)
  calc Catalog.builtin.decodeValue (json (.gradient left right curve)).reread
      = Kind.decoder .gradient (given .gradient fields) :=
        decodeValue_tagged .gradient (by cases left <;> cases right <;> rfl)
    _ = echo (.gradient left right curve) := by
        simp only [Kind.decoder, first, second, third]
        rfl

theorem transition {before after : Option Pattern} (offset duration : UInt64) (curve : Curve)
    (beforeEchoes : ∀ inner ∈ before, Echoes inner)
    (afterEchoes : ∀ inner ∈ after, Echoes inner) :
    Echoes (.transition before after offset duration curve) := by
  intro back
  obtain ⟨beforeBack, afterBack⟩ := List.forall_mem_append.mp back
  let fields := childField "before" before ++ childField "after" after ++
    [("offset_ms", word offset), ("duration_ms", word duration), curveField curve]
  have first : (given .transition fields).pattern "before" = echoChild before :=
    child_given (by decide) (by cases before <;> cases after <;> rfl) beforeEchoes beforeBack
  have second : (given .transition fields).pattern "after" = echoChild after :=
    child_given (by decide) (by cases before <;> cases after <;> rfl) afterEchoes afterBack
  have third : (given .transition fields).millis "offset_ms" = .ok offset :=
    millis_given (by decide) (by cases before <;> cases after <;> rfl)
  have fourth : (given .transition fields).millis "duration_ms" = .ok duration :=
    millis_given (by decide) (by cases before <;> cases after <;> rfl)
  have last : (given .transition fields).curve "curve" = .ok curve :=
    curve_given (by decide) (by cases before <;> cases after <;> rfl)
  calc Catalog.builtin.decodeValue (json (.transition before after offset duration curve)).reread
      = Kind.decoder .transition (given .transition fields) :=
        decodeValue_tagged .transition (by cases before <;> cases after <;> rfl)
    _ = echo (.transition before after offset duration curve) := by
        simp only [Kind.decoder, first, second, third, fourth, last]
        rfl

theorem cycle {frames : List Pattern} (duration : UInt64)
    (echoes : ∀ child ∈ frames, Echoes child) : Echoes (.cycle frames duration) := by
  intro back
  let fields := [("frames", .array (jsonEach frames)), ("frame_duration_ms", word duration)]
  have first : (given .cycle fields).patterns "frames" = echoEach frames :=
    children_given (by decide) rfl echoes back
  have last : (given .cycle fields).millis "frame_duration_ms" = .ok duration :=
    millis_given (by decide) rfl
  calc Catalog.builtin.decodeValue (json (.cycle frames duration)).reread
      = Kind.decoder .cycle (given .cycle fields) := decodeValue_tagged .cycle rfl
    _ = echo (.cycle frames duration) := by
        simp only [Kind.decoder, first, last]
        rfl

theorem loop {patterns : List Pattern} (hold fade : UInt64) (curve : Curve)
    (echoes : ∀ child ∈ patterns, Echoes child) :
    Echoes (.loop patterns hold fade curve) := by
  intro back
  let fields := [("patterns", .array (jsonEach patterns)), ("show_ms", word hold),
    ("transition_ms", word fade), curveField curve]
  have first : (given .loop fields).patterns "patterns" = echoEach patterns :=
    children_given (by decide) rfl echoes back
  have second : (given .loop fields).millis "show_ms" = .ok hold := millis_given (by decide) rfl
  have third : (given .loop fields).millis "transition_ms" = .ok fade :=
    millis_given (by decide) rfl
  have last : (given .loop fields).curve "curve" = .ok curve := curve_given (by decide) rfl
  calc Catalog.builtin.decodeValue (json (.loop patterns hold fade curve)).reread
      = Kind.decoder .loop (given .loop fields) := decodeValue_tagged .loop rfl
    _ = echo (.loop patterns hold fade curve) := by
        simp only [Kind.decoder, first, second, third, last]
        rfl

/-- Patterns that move their child at a rate are given both. -/
theorem moving_given (kind : Kind) {child : Option Pattern} {rate : Float32}
    (echoes : ∀ inner ∈ child, Echoes inner)
    (back : ∀ value ∈ rate :: realsOfChild child, value.isFinite → ReadsBack value) :
    let fields := childField "child" child ++ [("moves_per_sec", real rate)]
    (given kind fields).pattern "child" = echoChild child ∧
      (given kind fields).single "moves_per_sec" = .ok (echoReal rate) := by
  obtain ⟨rateBack, childBack⟩ := List.forall_mem_cons.mp back
  constructor
  · exact child_given (by decide) (by cases child <;> rfl) echoes childBack
  · exact single_given (by decide) rateBack (by cases child <;> rfl)

theorem rotate {child : Option Pattern} (rate : Float32)
    (echoes : ∀ inner ∈ child, Echoes inner) : Echoes (.rotate child rate) := by
  intro back
  obtain ⟨first, last⟩ := moving_given .rotate echoes back
  calc Catalog.builtin.decodeValue (json (.rotate child rate)).reread
      = Kind.decoder .rotate (given .rotate _) :=
        decodeValue_tagged .rotate (by cases child <;> rfl)
    _ = echo (.rotate child rate) := by
        simp only [Kind.decoder, first, last]
        rfl

theorem pingPong {child : Option Pattern} (rate : Float32)
    (echoes : ∀ inner ∈ child, Echoes inner) : Echoes (.pingPong child rate) := by
  intro back
  obtain ⟨first, last⟩ := moving_given .pingPong echoes back
  calc Catalog.builtin.decodeValue (json (.pingPong child rate)).reread
      = Kind.decoder .pingPong (given .pingPong _) :=
        decodeValue_tagged .pingPong (by cases child <;> rfl)
    _ = echo (.pingPong child rate) := by
        simp only [Kind.decoder, first, last]
        rfl

theorem chronometer {child : Option Pattern} (echoes : ∀ inner ∈ child, Echoes inner) :
    Echoes (.chronometer child) := by
  intro back
  let fields := childField "child" child
  have found : (given .chronometer fields).pattern "child" = echoChild child :=
    child_given (by decide) (by cases child <;> rfl) echoes back
  calc Catalog.builtin.decodeValue (json (.chronometer child)).reread
      = Kind.decoder .chronometer (given .chronometer fields) :=
        decodeValue_tagged .chronometer (by cases child <;> rfl)
    _ = echo (.chronometer child) := by
        simp only [Kind.decoder, found]
        rfl

theorem crop {child : Option Pattern} (segment : Segment)
    (echoes : ∀ inner ∈ child, Echoes inner) : Echoes (.crop child segment) := by
  intro back
  let fields := childField "child" child ++ segment.fields
  have first : (given .crop fields).pattern "child" = echoChild child :=
    child_given (by decide) (by cases child <;> rfl) echoes back
  have second : (given .crop fields).length "start" = .ok segment.start :=
    length_given (by decide) (by cases child <;> rfl)
  have last : (given .crop fields).length "length" = .ok segment.stop :=
    length_given (by decide) (by cases child <;> rfl)
  calc Catalog.builtin.decodeValue (json (.crop child segment)).reread
      = Kind.decoder .crop (given .crop fields) :=
        decodeValue_tagged .crop (by cases child <;> rfl)
    _ = echo (.crop child segment) := by
        simp only [Kind.decoder, first, second, last]
        rfl

theorem scale {child : Option Pattern} (method : Sampling) (length : UInt64) (ratio : Float32)
    (echoes : ∀ inner ∈ child, Echoes inner) :
    Echoes (.scale child method length ratio) := by
  intro back
  obtain ⟨ratioBack, childBack⟩ := List.forall_mem_cons.mp back
  let fields := childField "child" child ++
    [("interpolation", .string method.name), ("length", word length), ("ratio", real ratio)]
  have first : (given .scale fields).pattern "child" = echoChild child :=
    child_given (by decide) (by cases child <;> rfl) echoes childBack
  have second : (given .scale fields).sampling "interpolation" = .ok method :=
    sampling_given (by decide) (by cases child <;> rfl)
  have third : (given .scale fields).length "length" = .ok length :=
    length_given (by decide) (by cases child <;> rfl)
  have last : (given .scale fields).single "ratio" = .ok (echoReal ratio) :=
    single_given (by decide) ratioBack (by cases child <;> rfl)
  calc Catalog.builtin.decodeValue (json (.scale child method length ratio)).reread
      = Kind.decoder .scale (given .scale fields) :=
        decodeValue_tagged .scale (by cases child <;> rfl)
    _ = echo (.scale child method length ratio) := by
        simp only [Kind.decoder, first, second, third, last]
        rfl

theorem mixer {patterns : List Pattern} (weights : List Float32)
    (echoes : ∀ child ∈ patterns, Echoes child) : Echoes (.mixer patterns weights) := by
  intro back
  obtain ⟨weightsBack, patternsBack⟩ := List.forall_mem_append.mp back
  let fields : List (String × Json) :=
    [("patterns", .array (jsonEach patterns)), ("weights", .array (weights.map real))]
  have first : (given .mixer fields).patterns "patterns" = echoEach patterns :=
    children_given (by decide) rfl echoes patternsBack
  have last : (given .mixer fields).singles "weights" = echoWeights weights :=
    weights_given weightsBack rfl
  calc Catalog.builtin.decodeValue (json (.mixer patterns weights)).reread
      = Kind.decoder .mixer (given .mixer fields) := decodeValue_tagged .mixer rfl
    _ = echo (.mixer patterns weights) := by
        simp only [Kind.decoder, first, last]
        rfl

end Echoes

theorem echoes (pattern : Pattern) : Echoes pattern := by
  induction pattern using induct with
  | color ink => exact .color ink
  | frame pixels => exact .frame pixels
  | rainbow => exact .rainbow
  | repeated base => exact .repeated base
  | gradient _ _ curve left right => exact .gradient curve left right
  | transition _ _ offset duration curve before after =>
      exact .transition offset duration curve before after
  | cycle _ duration each => exact .cycle duration each
  | loop _ hold fade curve each => exact .loop hold fade curve each
  | rotate _ rate child => exact .rotate rate child
  | pingPong _ rate child => exact .pingPong rate child
  | chronometer _ child => exact .chronometer child
  | crop _ segment child => exact .crop segment child
  | scale _ method length ratio child => exact .scale method length ratio child
  | mixer _ weights each => exact .mixer weights each

theorem echoChild_of_finite {child : Option Pattern}
    (echoes : ∀ inner ∈ child,
      (∀ value ∈ inner.reals, value.isFinite) → inner.echo = .ok inner)
    (finite : ∀ value ∈ realsOfChild child, value.isFinite) : echoChild child = .ok child := by
  cases child with
  | none => rfl
  | some inner =>
      rw [echoChild, echoes inner rfl finite]
      rfl

theorem echoEach_of_finite {patterns : List Pattern}
    (echoes : ∀ child ∈ patterns,
      (∀ value ∈ child.reals, value.isFinite) → child.echo = .ok child)
    (finite : ∀ value ∈ realsOfEach patterns, value.isFinite) :
    echoEach patterns = .ok patterns := by
  induction patterns with
  | nil => rfl
  | cons pattern rest ih =>
      obtain ⟨first, others⟩ := List.forall_mem_append.mp finite
      rw [echoEach, echoes pattern List.mem_cons_self first,
        ih (fun child present => echoes child (List.mem_cons_of_mem pattern present)) others]
      rfl

/-- A tree whose numbers are finite comes back as it was. -/
theorem echo_of_finite (pattern : Pattern) (finite : ∀ value ∈ pattern.reals, value.isFinite) :
    pattern.echo = .ok pattern := by
  induction pattern using induct with
  | color | frame | rainbow | repeated => rfl
  | gradient left right curve lefts rights =>
      obtain ⟨first, second⟩ := List.forall_mem_append.mp finite
      rw [echo, echoChild_of_finite lefts first, echoChild_of_finite rights second]
      rfl
  | transition before after offset duration curve befores afters =>
      obtain ⟨first, second⟩ := List.forall_mem_append.mp finite
      rw [echo, echoChild_of_finite befores first, echoChild_of_finite afters second]
      rfl
  | cycle frames duration each =>
      rw [echo, echoEach_of_finite each finite]
      rfl
  | loop patterns hold fade curve each =>
      rw [echo, echoEach_of_finite each finite]
      rfl
  | rotate child rate each | pingPong child rate each =>
      obtain ⟨moving, inside⟩ := List.forall_mem_cons.mp finite
      rw [echo, echoChild_of_finite each inside, echoReal_of_finite moving]
      rfl
  | chronometer child each | crop child segment each =>
      rw [echo, echoChild_of_finite each finite]
      rfl
  | scale child method length ratio each =>
      obtain ⟨sized, inside⟩ := List.forall_mem_cons.mp finite
      rw [echo, echoChild_of_finite each inside, echoReal_of_finite sized]
      rfl
  | mixer patterns weights each =>
      obtain ⟨weighed, inside⟩ := List.forall_mem_append.mp finite
      have kept : echoWeights weights = .ok weights := if_pos (List.all_eq_true.mpr weighed)
      rw [echo, echoEach_of_finite each inside, kept]
      rfl

/-- A tree whose numbers are read back is decoded from its document as it was. -/
theorem restored (pattern : Pattern) (back : ∀ value ∈ pattern.reals, ReadsBack value) :
    Catalog.builtin.decodeValue pattern.json.reread = .ok pattern := by
  rw [echoes pattern fun value held _ => back value held]
  exact echo_of_finite pattern fun value held => (back value held).isFinite

end Pattern

end LightShow
