import LightShow.Proofs.Extent
import LightShow.Proofs.RoundTrip
import LightShow.Proofs.TooDeep

/-! Whether the canonical form is stable. What comes of a canonical document that is decoded and
encoded again is the same document, as long as it does not nest too deep and all of its numbers
are finite; otherwise it is another one, or nothing is decoded at all. -/

namespace LightShow

namespace Pattern

theorem legible_real_of_finite {value : Float32} (back : value.isFinite → ReadsBack value) :
    (real value).Legible := by
  by_cases finite : value.isFinite
  · exact legible_real (back finite)
  · exact .inl (Json.chars_wild finite)

theorem exists_read_of_decode {text : Json.Octets} {pattern : Pattern}
    (decoded : Catalog.builtin.decode text = .ok pattern) : ∃ read, Json.read text = .ok read := by
  rw [Catalog.decode] at decoded
  cases reads : Json.read text with
  | error fault =>
      rw [reads] at decoded
      cases decoded
  | ok read => exact ⟨read, rfl⟩

section Decoded

variable {pattern : Pattern} (back : ∀ value ∈ pattern.reals, value.isFinite → ReadsBack value)

include back

theorem legible_json_of_finite : pattern.json.Legible :=
  legible_json_of_reals pattern fun value held => legible_real_of_finite (back value held)

/-- Of a canonical document that does not nest too deep, the echo of its tree is decoded. -/
theorem decode_encode_eq_echo (fits : pattern.json.depth ≤ 127) :
    Catalog.builtin.decode pattern.encode = pattern.echo := by
  have read : Json.read pattern.encode = .ok pattern.json.reread :=
    Json.read_chars (legible_json_of_finite back) fits
  rw [Catalog.decode, read]
  exact echoes pattern back

/-- A canonical document is decoded, and encoded again as it was, exactly if it does not nest too
deep and all of its numbers are finite. -/
theorem encode_again_iff :
    (∃ again, Catalog.builtin.decode pattern.encode = .ok again ∧ again.encode = pattern.encode) ↔
      pattern.json.depth ≤ 127 ∧ ∀ value ∈ pattern.reals, value.isFinite := by
  constructor
  · rintro ⟨again, decoded, same⟩
    have legible := legible_json_of_finite back
    have fits : pattern.json.depth ≤ 127 :=
      (Json.exists_read_chars legible).mp (exists_read_of_decode decoded)
    rw [decode_encode_eq_echo back fits] at decoded
    have even : again.json.extent = pattern.json.extent := congrArg List.length same
    exact ⟨fits, (faded pattern again decoded).2 even⟩
  · rintro ⟨fits, finite⟩
    have same := (decode_encode_eq_echo back fits).trans (echo_of_finite pattern finite)
    exact ⟨pattern, same, rfl⟩

end Decoded

theorem encode_again_iff_mixer :
    let pattern := mixer [rotate none 2.5, .frame []] [0.5, 3]
    (∀ value ∈ pattern.reals, value.isFinite → ReadsBack value) ∧
      ∃ again, Catalog.builtin.decode pattern.encode = .ok again ∧
        again.encode = pattern.encode := by
  intro pattern
  have back : ∀ value ∈ pattern.reals, value.isFinite ∧ ReadsBack value := by
    intro value held
    simp only [pattern, reals, realsOfEach, realsOfChild, List.cons_append, List.nil_append,
      List.append_nil, List.mem_cons, List.not_mem_nil, or_false] at held
    rcases held with rfl | rfl | rfl
    · exact ⟨rfl, .double 0.5, rfl, rfl⟩
    · exact ⟨rfl, .double 3, rfl, rfl⟩
    · exact ⟨rfl, .double 2.5, rfl, rfl⟩
  have stable := encode_again_iff fun value held _ => (back value held).2
  exact ⟨fun value held _ => (back value held).2,
    stable.mpr ⟨by decide, fun value held => (back value held).1⟩⟩

/-- A rate beyond all singles is infinite, is written as `null`, and comes back as zero. -/
theorem encode_again_beyond :
    let text := "\x7b\"_type\":\"Rotate\",\"moves_per_sec\":1e39\x7d"
    ∃ pattern again, Catalog.builtin.decode (Utf8.encode text.toList) = .ok pattern ∧
      Catalog.builtin.decode pattern.encode = .ok again ∧ again.encode ≠ pattern.encode := by
  intro text
  let endless := rotate none (1.0 / 0.0)
  have first : (Catalog.builtin.decode (Utf8.encode text.toList)).toOption.map encode =
      some endless.encode := by decide +kernel
  have second : Catalog.builtin.decode endless.encode = .ok (rotate none 0.0) := by
    refine decode_encode_eq_echo (fun value held finite => ?_) (by decide)
    rw [List.mem_singleton.mp held] at finite
    cases finite
  have differ : (rotate none 0.0).encode ≠ endless.encode := by decide
  cases decoded : Catalog.builtin.decode (Utf8.encode text.toList) with
  | error failure =>
      rw [decoded] at first
      cases first
  | ok pattern =>
      rw [decoded] at first
      have same : pattern.encode = endless.encode := Option.some.inj first
      exact ⟨pattern, rotate none 0.0, rfl, same ▸ second, same ▸ differ⟩

end Pattern

end LightShow
