import LightShow.Proofs.Tree

/-! What every drawing has in common, whatever the tree and its scratch: it keeps the length of the
strip, and it looks at the time in whole milliseconds only. -/

namespace LightShow

theorem Blend.length_gradient (curve : Curve) (left right : Strip) :
    (Blend.gradient curve left right).length = min left.length right.length := by
  simp [Blend.gradient]

theorem Motion.length_bounce (trail : Strip) (length : Nat) (moves : Int) :
    (Motion.bounce trail length moves).length = length := by
  simp [Motion.bounce]

theorem Clock.length_face (palette : Strip) (length : Nat) (now : Time) :
    (Clock.face palette length now).length = length := by
  simp [Clock.face, Clock.paint]

theorem Light.length_sum (length : Nat) (layers : List (Strip × Float32))
    (even : ∀ layer ∈ layers, layer.1.length = length) :
    (Light.sum length layers).length = length := by
  have step : ∀ (layers : List (Strip × Float32)) (lights : List Light),
      (∀ layer ∈ layers, layer.1.length = length) → lights.length = length →
      (layers.foldl (fun lights layer =>
        List.zipWith (fun light pixel => Light.add light pixel layer.2) lights layer.1)
        lights).length = length := by
    intro layers
    induction layers with
    | nil => intro lights _ same; exact same
    | cons layer rest ih =>
        intro lights even same
        rw [List.foldl_cons]
        apply ih _ (fun other present => even other (List.mem_cons_of_mem _ present))
        rw [List.length_zipWith, same, even layer List.mem_cons_self, Nat.min_self]
  exact step layers _ even List.length_replicate

theorem Time.since_congr {now later : Time} (same : now.millis = later.millis) (origin : Nat) :
    now.since origin = later.since origin := by
  rw [Time.since, Time.since, same]

theorem Motion.moves_congr {now later : Time} (same : now.millis = later.millis) (rate : Float32) :
    Motion.moves now rate = Motion.moves later rate := by
  rw [Motion.moves, Motion.moves, same]

theorem Clock.face_congr {now later : Time} (same : now.millis = later.millis) (palette : Strip)
    (length : Nat) : Clock.face palette length now = Clock.face palette length later := by
  rw [Clock.face, Clock.face, same]

namespace Pattern

theorem length_renderChild {child : Option Pattern}
    (keeps : ∀ inner ∈ child, ∀ now scratch strip,
      (render inner now scratch strip).1.length = strip.length)
    (now : Time) (scratch : Scratch) (strip : Strip) :
    (renderChild child now scratch strip).1.length = strip.length := by
  cases child with
  | none => rfl
  | some inner => exact keeps inner rfl now scratch strip

theorem length_renderNth {patterns : List Pattern}
    (keeps : ∀ child ∈ patterns, ∀ now scratch strip,
      (render child now scratch strip).1.length = strip.length)
    (index : Nat) (now : Time) (scratches : List Scratch) (strip : Strip) :
    (renderNth patterns index now scratches strip).1.length = strip.length := by
  rw [renderNth_fst]
  split
  · rfl
  · next found => exact keeps _ (List.mem_of_getElem? found) now _ strip

theorem length_of_mem_renderEach {patterns : List Pattern}
    (keeps : ∀ child ∈ patterns, ∀ now scratch strip,
      (render child now scratch strip).1.length = strip.length)
    {now : Time} {scratches : List Scratch} {strips : List Strip} {length : Nat} {buffer : Strip}
    (present : buffer ∈ (renderEach patterns now scratches strips length).1) :
    buffer.length = length := by
  obtain ⟨place, found⟩ := List.getElem?_of_mem present
  rw [renderEach_fst, Option.map_eq_some_iff] at found
  obtain ⟨pattern, here, rfl⟩ := found
  rw [keeps _ (List.mem_of_getElem? here), Strip.length_reset]

theorem length_throughFrame (child : Option Pattern) (size : Nat) {lay : Strip → Strip}
    (now : Time) (scratch : Scratch) {strip : Strip}
    (fits : ∀ frame, frame.length = size → (lay frame).length = strip.length)
    (keeps : ∀ inner ∈ child, ∀ now scratch strip,
      (render inner now scratch strip).1.length = strip.length) :
    (throughFrame child size lay now scratch strip).1.length = strip.length := by
  unfold throughFrame
  cases child with
  | none => rfl
  | some inner =>
      apply fits
      rw [length_renderChild keeps, Strip.length_reset]

/-- Every drawing keeps the length of the strip, whatever the tree and the scratch. -/
theorem length_render (pattern : Pattern) (now : Time) (scratch : Scratch) (strip : Strip) :
    (render pattern now scratch strip).1.length = strip.length := by
  induction pattern using induct generalizing now scratch strip with
  | color ink => exact Strip.length_fill strip ink
  | frame pixels => exact Strip.length_fit pixels strip.length
  | rainbow => simp [render, Rainbow.pixels]
  | repeated base =>
      simp only [render]
      split
      · rfl
      · exact Strip.length_tile base strip.length
  | gradient left right curve leftKeeps rightKeeps =>
      rw [render_gradient]
      split
      · rfl
      · dsimp only
        rw [Blend.length_gradient, length_renderChild leftKeeps, length_renderChild rightKeeps,
          Strip.length_reset, Nat.min_self]
  | transition before after offset duration curve beforeKeeps afterKeeps =>
      rw [render_transition]
      have second := length_renderChild afterKeeps (now.since offset.toNat) (scratch.child 1) strip
      split
      · exact length_renderChild beforeKeeps now (scratch.child 0) strip
      split
      · rfl
      dsimp only
      split
      · exact second
      dsimp only
      split
      · exact second
      · rw [Strip.length_mix, second]
  | cycle frames duration keeps =>
      rw [render_cycle]
      exact length_renderNth keeps _ now scratch.children strip
  | loop patterns hold fade curve keeps =>
      rw [render_loop]
      dsimp only
      split
      · exact length_renderNth keeps _ now scratch.children strip
      · dsimp only
        rw [Strip.length_mix]
        exact length_renderNth keeps _ now scratch.children strip
  | rotate child rate keeps =>
      rw [render_rotate]
      split
      · rfl
      · apply length_throughFrame _ _ _ _ _ keeps
        intro frame same
        rw [Strip.length_turn, same]
  | pingPong child rate keeps =>
      rw [render_pingPong]
      split
      · rfl
      · apply length_throughFrame _ _ _ _ _ keeps
        intro frame same
        split
        · omega
        · exact Motion.length_bounce frame strip.length _
  | chronometer child keeps =>
      rw [render_chronometer]
      split
      · rfl
      · apply length_throughFrame _ _ _ _ _ keeps
        intro frame same
        exact Clock.length_face frame strip.length now
  | crop child segment keeps =>
      rw [render_crop]
      split
      · next fits =>
          obtain ⟨ordered, inside⟩ := fits
          simp only [List.length_append, length_renderChild keeps, List.length_take,
            List.length_drop]
          omega
      · rfl
  | scale child method length ratio keeps =>
      rw [render_scale]
      split
      · rfl
      · apply length_throughFrame _ _ _ _ _ keeps
        intro frame _
        exact method.length_resample frame strip
  | mixer patterns weights keeps =>
      rw [render_mixer]
      split
      · rfl
      · dsimp only [Light.mixture]
        rw [List.length_map]
        apply Light.length_sum
        intro layer present
        exact length_of_mem_renderEach keeps (List.of_mem_zip present).1

theorem cycleIndex_congr {now later : Time} (same : now.millis = later.millis) (count : Nat)
    (duration : UInt64) : cycleIndex count duration now = cycleIndex count duration later := by
  rw [cycleIndex, cycleIndex, same]

theorem loopIndex_congr {now later : Time} (same : now.millis = later.millis) (count : Nat)
    (hold fade : UInt64) : loopIndex count hold fade now = loopIndex count hold fade later := by
  rw [loopIndex, loopIndex, same]

section Whole

variable {now later : Time}

theorem renderChild_congr {child : Option Pattern}
    (alike : ∀ inner ∈ child, ∀ scratch strip,
      render inner now scratch strip = render inner later scratch strip)
    (scratch : Scratch) (strip : Strip) :
    renderChild child now scratch strip = renderChild child later scratch strip := by
  cases child with
  | none => rfl
  | some inner => exact alike inner rfl scratch strip

theorem renderNth_congr {patterns : List Pattern}
    (alike : ∀ child ∈ patterns, ∀ scratch strip,
      render child now scratch strip = render child later scratch strip)
    (index : Nat) (scratches : List Scratch) (strip : Strip) :
    renderNth patterns index now scratches strip =
      renderNth patterns index later scratches strip := by
  induction patterns generalizing index scratches with
  | nil => rfl
  | cons pattern rest ih =>
      have tail := ih fun child present => alike child (List.mem_cons_of_mem _ present)
      cases index with
      | zero => rw [renderNth, renderNth, alike pattern List.mem_cons_self]
      | succ index => rw [renderNth, renderNth, tail]

theorem renderEach_congr {patterns : List Pattern}
    (alike : ∀ child ∈ patterns, ∀ scratch strip,
      render child now scratch strip = render child later scratch strip)
    (scratches : List Scratch) (strips : List Strip) (length : Nat) :
    renderEach patterns now scratches strips length =
      renderEach patterns later scratches strips length := by
  induction patterns generalizing scratches strips with
  | nil => rfl
  | cons pattern rest ih =>
      have tail := ih fun child present => alike child (List.mem_cons_of_mem _ present)
      rw [renderEach, renderEach, alike pattern List.mem_cons_self, tail]

theorem throughFrame_congr {child : Option Pattern} {size : Nat} {lay : Strip → Strip}
    (alike : ∀ inner ∈ child, ∀ scratch strip,
      render inner now scratch strip = render inner later scratch strip)
    (scratch : Scratch) (strip : Strip) :
    throughFrame child size lay now scratch strip =
      throughFrame child size lay later scratch strip := by
  rw [throughFrame, throughFrame, renderChild_congr alike]

end Whole

/-- Times that agree in whole milliseconds give the same drawing and the same scratch. -/
theorem render_congr (pattern : Pattern) {now later : Time} (same : now.millis = later.millis)
    (scratch : Scratch) (strip : Strip) :
    render pattern now scratch strip = render pattern later scratch strip := by
  induction pattern using induct generalizing now later scratch strip with
  | color ink => rfl
  | frame pixels => rfl
  | rainbow => rfl
  | repeated base => rfl
  | gradient left right curve leftAlike rightAlike =>
      rw [render_gradient, render_gradient,
        renderChild_congr fun inner present => leftAlike inner present same,
        renderChild_congr fun inner present => rightAlike inner present same]
  | transition before after offset duration curve beforeAlike afterAlike =>
      simp only [render_transition, same, Time.since_congr same,
        renderChild_congr fun inner present => beforeAlike inner present same]
  | cycle frames duration alike =>
      simp only [render_cycle, cycleIndex_congr same,
        renderNth_congr fun child present => alike child present same]
  | loop patterns hold fade curve alike =>
      simp only [render_loop, same, loopIndex_congr same,
        renderNth_congr fun child present => alike child present same]
  | rotate child rate alike =>
      rw [render_rotate, render_rotate, Motion.moves_congr same,
        throughFrame_congr fun inner present => alike inner present same]
  | pingPong child rate alike =>
      rw [render_pingPong, render_pingPong, Motion.moves_congr same,
        throughFrame_congr fun inner present => alike inner present same]
  | chronometer child alike =>
      simp only [render_chronometer, Clock.face_congr same,
        throughFrame_congr fun inner present => alike inner present same]
  | crop child segment alike =>
      simp only [render_crop, renderChild_congr fun inner present => alike inner present same]
  | scale child method length ratio alike =>
      simp only [render_scale, throughFrame_congr fun inner present => alike inner present same]
  | mixer patterns weights alike =>
      simp only [render_mixer, renderEach_congr fun child present => alike child present same]

end Pattern

end LightShow
