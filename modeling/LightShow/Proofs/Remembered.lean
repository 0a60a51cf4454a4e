import LightShow.Preview.Gallery
import Mathlib.Data.List.Dedup

/-! A gallery over many requests. It answers each of them as if it remembered nothing, but a
document that was shown before is not read again: the answer is the very preview that was made the
first time. Documents that cannot be shown leave no trace. -/

namespace LightShow

open Json (Octets)

namespace Gallery

/-- Requests with their answers. -/
abbrev Log := List (Octets × Except Failure Exhibit)

/-- The documents that were shown, as often as they were. -/
def shown (log : Log) : List Octets :=
  log.filterMap fun
    | (document, .ok _) => some document
    | (_, .error _) => none

theorem mem_shown {log : Log} {document : Octets} :
    document ∈ shown log ↔ ∃ exhibit, (document, .ok exhibit) ∈ log := by
  refine List.mem_filterMap.trans ⟨?_, fun ⟨exhibit, mem⟩ => ⟨_, mem, rfl⟩⟩
  rintro ⟨⟨_, _ | exhibit⟩, mem, same⟩
  · cases same
  · cases same
    exact ⟨exhibit, mem⟩

theorem mem_shown_append {log : Log} {document : Octets} (answer : Octets × Except Failure Exhibit)
    (mem : document ∈ shown log) : document ∈ shown (log ++ [answer]) := by
  obtain ⟨exhibit, logged⟩ := mem_shown.mp mem
  exact mem_shown.mpr ⟨exhibit, List.mem_append_left _ logged⟩

/-- Asks for one document after the other. -/
def run (gallery : Gallery) : List Octets → Log × Gallery
  | [] => ([], gallery)
  | document :: rest =>
      let first := gallery.request document
      let later := first.2.run rest
      ((document, first.1) :: later.1, later.2)

/-- The preview that is kept for a document. -/
def preview? (gallery : Gallery) (document : Octets) : Option Preview :=
  (gallery.slot? document).bind gallery.held?

/-- A gallery with one more slot. -/
def withSlot (gallery : Gallery) (content : Option Preview) : Gallery :=
  { gallery with slots := gallery.slots ++ [content] }

variable {gallery : Gallery} {document : Octets}

theorem held?_withSlot (content : Option Preview) (slot : Nat) :
    (gallery.withSlot content).held? slot =
      if slot = gallery.slots.length then content else gallery.held? slot := by
  unfold held? withSlot
  rw [List.getElem?_append]
  obtain below | same | above := Nat.lt_trichotomy slot gallery.slots.length
  · rw [if_pos below, if_neg (Nat.ne_of_lt below)]
  · rw [if_pos same, same, if_neg (Nat.lt_irrefl _), Nat.sub_self]
    rfl
  · rw [if_neg (Nat.lt_asymm above), if_neg (Nat.ne_of_gt above),
      List.getElem?_eq_none (Nat.le_of_lt above),
      List.getElem?_eq_none (Nat.le_sub_of_add_le (Nat.add_comm _ _ ▸ above))]

theorem held?_length (gallery : Gallery) : gallery.held? gallery.slots.length = none := by
  rw [held?, List.getElem?_eq_none (Nat.le_refl _)]
  rfl

/-- An empty slot cannot be told from one that is not there. -/
theorem held?_withSlot_none (slot : Nat) :
    (gallery.withSlot none).held? slot = gallery.held? slot := by
  rw [held?_withSlot]
  split
  · rename_i same
    rw [same, held?_length]
  · rfl

theorem preview?_withSlot (gallery : Gallery) (document : Octets) :
    (gallery.withSlot none).preview? document = gallery.preview? document :=
  Option.bind_congr fun slot _ => held?_withSlot_none slot

theorem mem_documents :
    document ∈ gallery.entries.map Prod.fst ↔ ∃ slot, gallery.slot? document = some slot := by
  rw [← Option.isSome_iff_exists, slot?, List.lookup_isSome_iff, List.mem_map]
  refine exists_congr fun entry => and_congr_right fun _ => ?_
  rw [beq_iff_eq, eq_comm]

theorem not_mem_documents (absent : gallery.slot? document = none) :
    document ∉ gallery.entries.map Prod.fst := by
  rw [mem_documents, absent]
  exact nofun

/-- A preview that is kept is the answer, whatever the document would be read as. -/
theorem request_of_some {preview : Preview} (found : gallery.preview? document = some preview) :
    gallery.request document = (.ok ⟨preview, false⟩, gallery) := by
  obtain ⟨slot, place, held⟩ := Option.bind_eq_some_iff.mp found
  unfold request reserve
  rw [place]
  simp only [held]

/-- A gallery with a slot that is set up for a document. -/
def assign (gallery : Gallery) (document : Octets) (content : Option Preview) : Gallery :=
  { gallery.withSlot content with
    entries := gallery.entries ++ [(document, gallery.slots.length)] }

theorem slot?_assign (absent : gallery.slot? document = none) (content : Option Preview)
    (other : Octets) :
    (gallery.assign document content).slot? other =
      if other = document then some gallery.slots.length else gallery.slot? other := by
  have split : (gallery.assign document content).slot? other =
      (gallery.slot? other).or ([(document, gallery.slots.length)].lookup other) :=
    List.lookup_append
  rw [split]
  by_cases same : other = document
  · rw [if_pos same, same, absent, List.lookup_cons_self]
    rfl
  · rw [if_neg same, List.lookup_cons, beq_false_of_ne same]
    exact Option.or_none

theorem held?_assign (content : Option Preview) (slot : Nat) :
    (gallery.assign document content).held? slot =
      if slot = gallery.slots.length then content else gallery.held? slot :=
  held?_withSlot content slot

/-- A slot that was set up in vain is given back. -/
theorem forget_assign (absent : gallery.slot? document = none) :
    (gallery.assign document none).forget document gallery.slots.length =
      gallery.withSlot none := by
  have others : (gallery.assign document none).entries.filter (·.1 ≠ document) =
      gallery.entries := by
    rw [assign, List.filter_append, List.filter_eq_self.mpr, List.filter_cons_of_neg]
    · exact List.append_nil _
    · simp
    · intro entry mem
      have apart : entry.1 ≠ document := by
        rintro rfl
        exact not_mem_documents absent (List.mem_map_of_mem mem)
      exact decide_eq_true apart
  rw [forget, slot?_assign absent, if_pos rfl]
  simp only [held?_assign, if_true, and_self]
  rw [others]
  rfl

/-- A gallery with a new preview. -/
def enter (gallery : Gallery) (document : Octets) (animation : Animation) : Gallery :=
  { gallery.assign document (some ⟨gallery.made, animation⟩) with made := gallery.made + 1 }

theorem fill_assign (animation : Animation) :
    (gallery.assign document none).fill gallery.slots.length animation =
      gallery.enter document animation := by
  have slots : (gallery.slots ++ [none]).set gallery.slots.length
      (some ⟨gallery.made, animation⟩) = gallery.slots ++ [some ⟨gallery.made, animation⟩] := by
    rw [List.set_append_right _ _ (Nat.le_refl _), Nat.sub_self]
    rfl
  unfold fill enter assign withSlot
  rw [slots]

/-- A document without a slot is read, and it has one afterwards only if it could be shown. -/
theorem request_of_none (absent : gallery.slot? document = none) :
    gallery.request document =
      match gallery.make document with
      | .error failure => (.error failure, gallery.withSlot none)
      | .ok animation =>
          (.ok ⟨⟨gallery.made, animation⟩, true⟩, gallery.enter document animation) := by
  have reserved : gallery.reserve document =
      (gallery.slots.length, gallery.assign document none) := by
    rw [reserve, absent]
    rfl
  rw [request, reserved]
  simp only [held?_assign, if_true, forget_assign absent, fill_assign]
  rfl

/-- What holds of a gallery after the requests of a log. -/
structure Keeps (catalog : Catalog) (settings : PreviewSettings) (log : Log) (gallery : Gallery) :
    Prop where
  catalog : gallery.catalog = catalog
  settings : gallery.settings = settings
  distinct : (gallery.entries.map Prod.fst).Nodup
  count : gallery.made = gallery.entries.length
  /-- Between requests no document has an empty slot. -/
  filled : ∀ document ∈ gallery.entries.map Prod.fst, ∃ preview,
    gallery.preview? document = some preview
  faithful : ∀ document preview, gallery.preview? document = some preview →
    gallery.make document = .ok preview.animation ∧ preview.number < gallery.made
  /-- No two documents share a preview. -/
  apart : ∀ document other preview same, gallery.preview? document = some preview →
    gallery.preview? other = some same → preview.number = same.number → document = other
  logged : ∀ document exhibit, (document, .ok exhibit) ∈ log →
    gallery.preview? document = some exhibit.toPreview
  shown : ∀ document ∈ gallery.entries.map Prod.fst, document ∈ shown log

namespace Keeps

variable {catalog : Catalog} {settings : PreviewSettings} {log : Log}

theorem empty (catalog : Catalog) (settings : PreviewSettings) :
    Keeps catalog settings [] (.empty catalog settings) where
  catalog := rfl
  settings := rfl
  distinct := .nil
  count := rfl
  filled := nofun
  faithful := nofun
  apart := nofun
  logged := nofun
  shown := nofun

/-- A document without a preview has no slot. -/
theorem slot?_eq_none (keeps : Keeps catalog settings log gallery)
    (unknown : gallery.preview? document = none) : gallery.slot? document = none := by
  refine Option.eq_none_iff_forall_ne_some.mpr fun slot place => ?_
  obtain ⟨preview, found⟩ := keeps.filled document (mem_documents.mpr ⟨slot, place⟩)
  rw [unknown] at found
  cases found

/-- A request is answered with the preview that is kept, or else the document is read. -/
theorem request_cases (keeps : Keeps catalog settings log gallery) (document : Octets) :
    (∃ preview, gallery.preview? document = some preview ∧
      gallery.request document = (.ok ⟨preview, false⟩, gallery)) ∨
    (∃ failure, gallery.slot? document = none ∧ gallery.make document = .error failure ∧
      gallery.request document = (.error failure, gallery.withSlot none)) ∨
    ∃ animation, gallery.slot? document = none ∧ gallery.make document = .ok animation ∧
      gallery.request document =
        (.ok ⟨⟨gallery.made, animation⟩, true⟩, gallery.enter document animation) := by
  cases known : gallery.preview? document with
  | some preview => exact .inl ⟨preview, rfl, request_of_some known⟩
  | none =>
      have absent := keeps.slot?_eq_none known
      have step := request_of_none absent
      cases made : gallery.make document with
      | error failure =>
          rw [made] at step
          exact .inr (.inl ⟨failure, absent, rfl, step⟩)
      | ok animation =>
          rw [made] at step
          exact .inr (.inr ⟨animation, absent, rfl, step⟩)

theorem again (keeps : Keeps catalog settings log gallery) {preview : Preview}
    (found : gallery.preview? document = some preview) :
    Keeps catalog settings (log ++ [(document, .ok ⟨preview, false⟩)]) gallery := by
  refine { keeps with logged := fun other exhibit mem => ?_, shown := fun other mem => ?_ }
  · obtain earlier | now := List.mem_append.mp mem
    · exact keeps.logged other exhibit earlier
    · cases List.mem_singleton.mp now
      exact found
  · exact mem_shown_append _ (keeps.shown other mem)

theorem failed (keeps : Keeps catalog settings log gallery) (document : Octets)
    (failure : Failure) :
    Keeps catalog settings (log ++ [(document, .error failure)]) (gallery.withSlot none) := by
  have same := preview?_withSlot gallery
  refine ⟨keeps.catalog, keeps.settings, keeps.distinct, keeps.count, ?_, ?_, ?_, ?_, ?_⟩
  · simp only [same]
    exact keeps.filled
  · simp only [same]
    exact keeps.faithful
  · simp only [same]
    exact keeps.apart
  · intro other exhibit mem
    rw [same]
    obtain earlier | now := List.mem_append.mp mem
    · exact keeps.logged other exhibit earlier
    · cases List.mem_singleton.mp now
  · exact fun other mem => mem_shown_append _ (keeps.shown other mem)

theorem preview?_enter (keeps : Keeps catalog settings log gallery)
    (absent : gallery.slot? document = none) (animation : Animation) (other : Octets) :
    (gallery.enter document animation).preview? other =
      if other = document then some ⟨gallery.made, animation⟩ else gallery.preview? other := by
  let preview : Preview := ⟨gallery.made, animation⟩
  have place : (gallery.enter document animation).slot? other = _ :=
    slot?_assign absent (some preview) other
  have held (slot : Nat) : (gallery.enter document animation).held? slot = _ :=
    held?_withSlot (some preview) slot
  unfold preview?
  rw [place]
  by_cases same : other = document
  · rw [if_pos same, if_pos same, Option.bind_some, held, if_pos rfl]
  · rw [if_neg same, if_neg same]
    refine Option.bind_congr fun slot found => ?_
    rw [held, if_neg]
    -- The slot of another document holds a preview, while the new one was not there.
    rintro rfl
    obtain ⟨preview, full⟩ := keeps.filled other (mem_documents.mpr ⟨_, found⟩)
    rw [preview?, found, Option.bind_some, held?_length] at full
    cases full

theorem enter (keeps : Keeps catalog settings log gallery)
    (absent : gallery.slot? document = none) {animation : Animation}
    (made : gallery.make document = .ok animation) :
    Keeps catalog settings (log ++ [(document, .ok ⟨⟨gallery.made, animation⟩, true⟩)])
      (gallery.enter document animation) := by
  have look := keeps.preview?_enter absent animation
  have documents : (gallery.enter document animation).entries.map Prod.fst =
      gallery.entries.map Prod.fst ++ [document] := List.map_append
  have unknown : gallery.preview? document = none := by rw [preview?, absent, Option.bind_none]
  refine ⟨keeps.catalog, keeps.settings, ?_, ?_, ?_, ?_, ?_, ?_, ?_⟩
  · rw [documents]
    refine List.nodup_append.mpr ⟨keeps.distinct, List.nodup_singleton document, ?_⟩
    rintro other mem _ new rfl
    cases List.mem_singleton.mp new
    exact not_mem_documents absent mem
  · change gallery.made + 1 = (gallery.entries ++ [_]).length
    rw [List.length_append, List.length_singleton, keeps.count]
  · intro other mem
    rw [look]
    split
    · exact ⟨_, rfl⟩
    · rename_i different
      rw [documents] at mem
      obtain old | new := List.mem_append.mp mem
      · exact keeps.filled other old
      · exact absurd (List.mem_singleton.mp new) different
  · intro other preview found
    rw [look] at found
    split at found
    · rename_i same
      cases found
      exact ⟨same ▸ made, Nat.lt_succ_self gallery.made⟩
    · obtain ⟨read, below⟩ := keeps.faithful other preview found
      exact ⟨read, Nat.lt_succ_of_lt below⟩
  · intro first second preview same firstFound secondFound number
    rw [look] at firstFound secondFound
    split at firstFound <;> split at secondFound
    · rename_i one two
      rw [one, two]
    · cases firstFound
      exact absurd number.symm (Nat.ne_of_lt (keeps.faithful _ _ secondFound).2)
    · cases secondFound
      exact absurd number (Nat.ne_of_lt (keeps.faithful _ _ firstFound).2)
    · exact keeps.apart _ _ _ _ firstFound secondFound number
  · intro other exhibit mem
    rw [look]
    obtain earlier | now := List.mem_append.mp mem
    · have found := keeps.logged other exhibit earlier
      rw [if_neg]
      · exact found
      · rintro rfl
        rw [unknown] at found
        cases found
    · cases List.mem_singleton.mp now
      exact if_pos rfl
  · intro other mem
    rw [documents] at mem
    obtain old | new := List.mem_append.mp mem
    · exact mem_shown_append _ (keeps.shown other old)
    · cases List.mem_singleton.mp new
      exact mem_shown.mpr ⟨_, List.mem_append_right _ (List.mem_singleton_self _)⟩

theorem request (keeps : Keeps catalog settings log gallery) (document : Octets) :
    Keeps catalog settings (log ++ [(document, (gallery.request document).1)])
      (gallery.request document).2 := by
  obtain ⟨preview, found, step⟩ | ⟨failure, -, -, step⟩ | ⟨animation, absent, made, step⟩ :=
    keeps.request_cases document
  · rw [step]
    exact keeps.again found
  · rw [step]
    exact keeps.failed document failure
  · rw [step]
    exact keeps.enter absent made

theorem run (keeps : Keeps catalog settings log gallery) (documents : List Octets) :
    Keeps catalog settings (log ++ (gallery.run documents).1) (gallery.run documents).2 := by
  induction documents generalizing log gallery with
  | nil =>
      rw [Gallery.run, List.append_nil]
      exact keeps
  | cons document rest ih =>
      have later := ih (keeps.request document)
      rw [List.append_assoc] at later
      exact later

end Keeps

end Gallery

end LightShow
