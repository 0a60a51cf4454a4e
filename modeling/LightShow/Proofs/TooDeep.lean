import LightShow.Proofs.Reread

/-! Values that nest too deep for the reader. What stands in front of the container that is one
too many is read, and then reading stops, whatever stands behind it. -/

namespace LightShow

namespace Json

namespace Scan

/-- Wherever a value ends, this text is not read as one; it begins with a container. -/
structure Refuses (text : Octets) (levels : Nat) : Prop where
  opens : ∃ octet after, text = octet :: after ∧ ¬Octet.isBlank octet ∧ octet ≠ Octet.closeList
  fails : ∀ steps rest, text.length < steps → Ends rest →
    ∀ result, value steps levels (text ++ rest) ≠ .ok result

variable {levels : Nat}

section Items

variable {passed others : List Json} {deep : Json} {first : Bool} {steps : Nat}
  {text rest : Octets}

theorem items_refused (refuses : Refuses (Utf8.encode deep.chars) levels)
    (enough : (Utf8.encode deep.chars).length < steps)
    (reaches : ReachesItems first text (deep :: others) rest) :
    ∀ result, items (steps + 1) levels first text ≠ .ok result := by
  intro result ok
  obtain ⟨octet, after, shape, visible, opens⟩ := refuses.opens
  have fails := refuses.fails steps _ enough (ends_moreItems others rest)
  rw [shape, List.cons_append] at fails
  have turn : nextItem first text =
      .ok (.next (octet :: (after ++ (Utf8.encode (moreItems others) ++ rest)))) := by
    refine reaches octet _ ?_ opens
    rw [encode_itemChars, List.append_assoc, shape, List.cons_append, skipBlanks_cons visible]
  rw [items, turn] at ok
  obtain ⟨read, found, -⟩ := @ok_of_bind _ _ _ (value steps levels _) _ _ ok
  exact fails read found

/-- Behind items that are read, reading stops at the first one that is refused. -/
theorem items_stuck
    (each : ∀ item ∈ passed, Yields (Utf8.encode item.chars) levels item.reread)
    (refuses : Refuses (Utf8.encode deep.chars) levels)
    (enough : (Utf8.encode (itemChars (passed ++ deep :: others))).length < steps)
    (reaches : ReachesItems first text (passed ++ deep :: others) rest) :
    ∀ result, items steps levels first text ≠ .ok result := by
  induction passed generalizing first steps text with
  | nil =>
      have more := length_moreItems_pos others
      rw [List.nil_append, encode_itemChars, List.length_append] at enough
      cases steps with
      | zero => cases enough
      | succ steps => exact items_refused refuses (by omega) reaches
  | cons item passed ih =>
      have next : passed ++ deep :: others ≠ [] :=
        List.append_ne_nil_of_right_ne_nil passed (List.cons_ne_nil deep others)
      rw [List.cons_append, encode_itemChars, encode_moreItems next, List.length_append,
        List.length_cons] at enough
      cases steps with
      | zero => cases enough
      | succ steps =>
          have short : (Utf8.encode item.chars).length < steps := by omega
          obtain ⟨tail, left, step⟩ := items_step (each item List.mem_cons_self) short reaches
          intro result ok
          rw [step] at ok
          obtain ⟨read, found, -⟩ := ok_of_bind ok
          exact ih (fun other present => each other (List.mem_cons_of_mem item present))
            (by omega) (reachesItems_more next left) read found

theorem refuses_array
    (each : ∀ item ∈ passed, Yields (Utf8.encode item.chars) levels item.reread)
    (refuses : Refuses (Utf8.encode deep.chars) levels) :
    Refuses (Utf8.encode (chars (.array (passed ++ deep :: others)))) (levels + 1) := by
  refine ⟨⟨_, _, encode_array _, by decide, by decide⟩, fun steps rest enough ends result ok => ?_⟩
  rw [encode_array, List.length_cons] at enough
  rw [encode_array, List.cons_append] at ok
  cases steps with
  | zero => cases enough
  | succ steps =>
      rw [value_array] at ok
      obtain ⟨read, found, -⟩ := ok_of_bind ok
      exact items_stuck each refuses (by omega) reachesItems_first read found

end Items

section Fields

variable {passed others : List (String × Json)} {name : String} {deep : Json} {first : Bool}
  {steps : Nat} {text rest : Octets}

theorem members_refused (named : Plain name) (refuses : Refuses (Utf8.encode deep.chars) levels)
    (enough : (Utf8.encode deep.chars).length < steps)
    (reaches : ReachesFields first text ((name, deep) :: others) rest) :
    ∀ result, members (steps + 1) levels first text ≠ .ok result := by
  intro result ok
  rw [members_turn named reaches] at ok
  obtain ⟨read, found, -⟩ := ok_of_bind ok
  exact refuses.fails steps _ enough (ends_moreFields others rest) read found

/-- Behind fields that are read, reading stops at the first one that is refused. -/
theorem members_stuck (plain : ∀ field ∈ passed, Plain field.1)
    (each : ∀ field ∈ passed, Yields (Utf8.encode field.2.chars) levels field.2.reread)
    (named : Plain name) (refuses : Refuses (Utf8.encode deep.chars) levels)
    (enough : (Utf8.encode (fieldChars (passed ++ (name, deep) :: others))).length < steps)
    (reaches : ReachesFields first text (passed ++ (name, deep) :: others) rest) :
    ∀ result, members steps levels first text ≠ .ok result := by
  induction passed generalizing first steps text with
  | nil =>
      have length := length_fieldChars_cons named deep others
      rw [List.nil_append] at enough
      cases steps with
      | zero => cases enough
      | succ steps => exact members_refused named refuses (by omega) reaches
  | cons field passed ih =>
      obtain ⟨known, held⟩ := field
      have next : passed ++ (name, deep) :: others ≠ [] :=
        List.append_ne_nil_of_right_ne_nil passed (List.cons_ne_nil _ others)
      have known : Plain known := plain _ List.mem_cons_self
      have length := length_fieldChars_cons known held (passed ++ (name, deep) :: others)
      rw [encode_moreFields next, List.length_cons] at length
      rw [List.cons_append] at enough
      cases steps with
      | zero => cases enough
      | succ steps =>
          have yields : Yields (Utf8.encode held.chars) levels held.reread :=
            each _ List.mem_cons_self
          have short : (Utf8.encode held.chars).length < steps := by omega
          obtain ⟨tail, left, step⟩ := members_step known yields short reaches
          intro result ok
          rw [step] at ok
          obtain ⟨read, found, -⟩ := ok_of_bind ok
          exact ih (fun other present => plain other (List.mem_cons_of_mem _ present))
            (fun other present => each other (List.mem_cons_of_mem _ present)) (by omega)
            (reachesFields_more next left) read found

theorem refuses_object (plain : ∀ field ∈ passed, Plain field.1)
    (each : ∀ field ∈ passed, Yields (Utf8.encode field.2.chars) levels field.2.reread)
    (named : Plain name) (refuses : Refuses (Utf8.encode deep.chars) levels) :
    Refuses (Utf8.encode (chars (.object (passed ++ (name, deep) :: others)))) (levels + 1) := by
  refine ⟨⟨_, _, encode_object _, by decide, by decide⟩,
    fun steps rest enough ends result ok => ?_⟩
  rw [encode_object, List.length_cons] at enough
  rw [encode_object, List.cons_append] at ok
  cases steps with
  | zero => cases enough
  | succ steps =>
      rw [value_object] at ok
      obtain ⟨read, found, -⟩ := ok_of_bind ok
      exact members_stuck plain each named refuses (by omega) reachesFields_first read found

end Fields

/-- No container is read where none may nest. -/
theorem refuses_container {octet : UInt8} {text : Octets}
    (container : octet = Octet.openList ∨ octet = Octet.openObject) :
    Refuses (octet :: text) 0 := by
  have visible : ¬Octet.isBlank octet ∧ octet ≠ Octet.closeList := by
    rcases container with rfl | rfl <;> decide
  refine ⟨⟨octet, text, rfl, visible⟩, fun steps rest enough ends result ok => ?_⟩
  cases steps with
  | zero => cases enough
  | succ steps =>
      rw [List.cons_append, value, skipBlanks_cons visible.1] at ok
      rcases container with rfl | rfl <;> cases ok

theorem exists_first_deep {items : List Json} (deep : levels < depthOfItems items) :
    ∃ passed item others, items = passed ++ item :: others ∧
      (∀ item ∈ passed, item.depth ≤ levels) ∧ levels < item.depth := by
  induction items with
  | nil => cases deep
  | cons item rest ih =>
      by_cases here : levels < item.depth
      · exact ⟨[], item, rest, rfl, List.forall_mem_nil _, here⟩
      · rw [depthOfItems] at deep
        obtain ⟨passed, found, others, rfl, shallow, deeper⟩ := ih (by omega)
        exact ⟨item :: passed, found, others, rfl,
          List.forall_mem_cons.mpr ⟨Nat.le_of_not_lt here, shallow⟩, deeper⟩

theorem exists_first_deep_field {fields : List (String × Json)}
    (deep : levels < depthOfFields fields) :
    ∃ passed name value others, fields = passed ++ (name, value) :: others ∧
      (∀ field ∈ passed, field.2.depth ≤ levels) ∧ levels < value.depth := by
  induction fields with
  | nil => cases deep
  | cons field rest ih =>
      obtain ⟨name, value⟩ := field
      by_cases here : levels < value.depth
      · exact ⟨[], name, value, rest, rfl, List.forall_mem_nil _, here⟩
      · rw [depthOfFields] at deep
        obtain ⟨passed, known, found, others, rfl, shallow, deeper⟩ := ih (by omega)
        exact ⟨(name, value) :: passed, known, found, others, rfl,
          List.forall_mem_cons.mpr ⟨Nat.le_of_not_lt here, shallow⟩, deeper⟩

/-- A legible value is refused if its containers nest deeper than they may. -/
theorem refuses_chars {written : Json} (legible : written.Legible) {levels : Nat}
    (deep : levels < written.depth) : Refuses (Utf8.encode written.chars) levels := by
  induction written using induct generalizing levels with
  | null | bool | number | string => cases deep
  | array items each =>
      rw [depth] at deep
      cases levels with
      | zero =>
          rw [encode_array]
          exact refuses_container (.inl rfl)
      | succ levels =>
          obtain ⟨passed, item, others, rfl, shallow, deeper⟩ :=
            exists_first_deep (Nat.lt_of_succ_lt_succ deep)
          have here : item ∈ passed ++ item :: others :=
            List.mem_append_right _ List.mem_cons_self
          apply refuses_array
          · intro other present
            exact yields_chars (LegibleItems.of_mem legible (List.mem_append_left _ present))
              (shallow other present)
          · exact each item here (LegibleItems.of_mem legible here) deeper
  | object fields each =>
      rw [depth] at deep
      cases levels with
      | zero =>
          rw [encode_object]
          exact refuses_container (.inr rfl)
      | succ levels =>
          obtain ⟨passed, name, value, others, rfl, shallow, deeper⟩ :=
            exists_first_deep_field (Nat.lt_of_succ_lt_succ deep)
          have here : (name, value) ∈ passed ++ (name, value) :: others :=
            List.mem_append_right _ List.mem_cons_self
          apply refuses_object
          · intro field present
            exact (LegibleFields.of_mem legible (List.mem_append_left _ present)).1
          · intro field present
            exact yields_chars (LegibleFields.of_mem legible (List.mem_append_left _ present)).2
              (shallow field present)
          · exact (LegibleFields.of_mem legible here).1
          · exact each _ here (LegibleFields.of_mem legible here).2 deeper

end Scan

/-- A legible value is read back from its own text exactly if it does not nest too deep. -/
theorem exists_read_chars {written : Json} (legible : written.Legible) :
    (∃ read, Json.read (Utf8.encode written.chars) = .ok read) ↔
      written.depth ≤ Scan.mostLevels := by
  constructor
  · rintro ⟨read, ok⟩
    refine Nat.le_of_not_lt fun deep => ?_
    obtain ⟨tail, found, -⟩ := Scan.value_of_read ok
    have refuses := Scan.refuses_chars legible deep
    have fails := refuses.fails (2 * (Utf8.encode written.chars).length + 1) [] (by omega) nofun
    rw [List.append_nil] at fails
    exact fails (read, tail) found
  · intro fits
    exact ⟨written.reread, read_chars legible fits⟩

end Json

end LightShow
