import LightShow.Proofs.OctetSlices
import LightShow.Proofs.Symbols
import LightShow.Wire.Link
import Mathlib.Algebra.Group.Nat.Defs
import Mathlib.Data.List.Basic

/-! Octets as texts of links, by their bits: six to a symbol where an octet has eight. A text holds
some octets if and only if it spells them, and octets have one spelling. -/

namespace LightShow

namespace Base64

/-- The symbols in the order of their values. -/
def alphabet : List Char :=
  "ABCDEFGHIJKLMNOPQRSTUVWXYZabcdefghijklmnopqrstuvwxyz0123456789-_".toList

/-- The last bits of a number, as many as there are places, from the highest on. -/
def bits : (places : Nat) → Nat → List Bool
  | 0, _ => []
  | places + 1, number => bits places (number / 2) ++ [decide (number % 2 = 1)]

/-- A text spells octets if its symbols have their bits, with no more zeros behind them than the
last symbol takes, and if it is filled up to whole groups of four. -/
def Spells (text : List Char) (octets : List UInt8) : Prop :=
  ∃ (symbols : List Char) (fillers zeros : Nat),
    text = symbols ++ List.replicate fillers '=' ∧ fillers < 4 ∧ 4 ∣ symbols.length + fillers ∧
      symbols ⊆ alphabet ∧ zeros < 6 ∧
      symbols.flatMap (fun char => bits 6 (alphabet.idxOf char)) =
        octets.flatMap (fun octet => bits 8 octet.toNat) ++ List.replicate zeros false

theorem length_bits (places number : Nat) : (bits places number).length = places := by
  induction places generalizing number with
  | zero => rfl
  | succ places ih => rw [bits, List.length_append, ih, List.length_singleton]

theorem bits_zero (places : Nat) : bits places 0 = List.replicate places false := by
  induction places with
  | zero => rfl
  | succ places ih =>
      rw [bits, Nat.zero_div, ih, List.replicate_succ']
      rfl

/-- Bits behind bits are those of one number. -/
theorem bits_append {low small : Nat} (fits : small < 2 ^ low) (high number : Nat) :
    bits high number ++ bits low small = bits (high + low) (number * 2 ^ low + small) := by
  induction low generalizing small with
  | zero =>
      obtain rfl : small = 0 := by omega
      simp [bits]
  | succ low ih =>
      have half : (number * 2 ^ (low + 1) + small) / 2 = number * 2 ^ low + small / 2 := by
        rw [Nat.pow_succ, ← Nat.mul_assoc]
        omega
      have last : (number * 2 ^ (low + 1) + small) % 2 = small % 2 := by
        rw [Nat.pow_succ, ← Nat.mul_assoc]
        omega
      have fits : small / 2 < 2 ^ low := by
        rw [Nat.pow_succ] at fits
        omega
      rw [bits, ← List.append_assoc, ih fits, ← Nat.add_assoc, bits, half, last]

theorem bits_inj {places first second : Nat} (one : first < 2 ^ places) (two : second < 2 ^ places)
    (same : bits places first = bits places second) : first = second := by
  induction places generalizing first second with
  | zero => omega
  | succ places ih =>
      rw [Nat.pow_succ] at one two
      rw [bits, bits] at same
      obtain ⟨front, last⟩ := List.append_inj' same rfl
      have halves := ih (by omega) (by omega) front
      simp only [List.cons.injEq, and_true, decide_eq_decide] at last
      omega

theorem length_flatMap_bits {Item : Type} (places : Nat) (number : Item → Nat) (items : List Item) :
    (items.flatMap fun item => bits places (number item)).length = items.length * places := by
  simp only [List.length_flatMap, length_bits, List.map_const', List.sum_replicate_nat]

theorem idxOf_symbol {value : Nat} (small : value < 64) :
    alphabet.idxOf (Char.ofNat (symbol value).toNat) = value := by
  have each : ∀ value < 64, alphabet.idxOf (Char.ofNat (symbol value).toNat) = value := by decide
  exact each value small

theorem length_alphabet : alphabet.length = 64 := by decide

theorem idxOf_alphabet_lt {char : Char} (known : char ∈ alphabet) :
    alphabet.idxOf char < 2 ^ 6 := by
  have inside := List.idxOf_lt_length_of_mem known
  rw [length_alphabet] at inside
  exact inside

/-- The symbols of some values. -/
def letters (values : List Nat) : List Char :=
  values.map fun value => Char.ofNat (symbol value).toNat

theorem letters_subset {values : List Nat} (small : ∀ value ∈ values, value < 64) :
    letters values ⊆ alphabet := by
  intro char present
  obtain ⟨value, inside, rfl⟩ := List.mem_map.mp present
  rw [← List.idxOf_lt_length_iff, idxOf_symbol (small value inside), length_alphabet]
  exact small value inside

theorem flatMap_letters {values : List Nat} (small : ∀ value ∈ values, value < 64) :
    (letters values).flatMap (fun char => bits 6 (alphabet.idxOf char)) =
      values.flatMap (bits 6) := by
  rw [letters, List.flatMap_map]
  exact List.flatMap_congr fun value present => by rw [idxOf_symbol (small value present)]

theorem Grouped.spells {text octets : List UInt8} (groups : Grouped text octets) :
    Spells (text.map fun octet => Char.ofNat octet.toNat) octets := by
  induction groups with
  | nothing => exact ⟨[], 0, 0, rfl, by decide, by decide, List.nil_subset _, by decide, rfl⟩
  | @pair first second one two zeros =>
      have small : ∀ value ∈ [first, second], value < 64 := by simp [one, two]
      refine ⟨letters [first, second], 2, 4, rfl, by decide, ⟨1, rfl⟩, letters_subset small,
        by decide, ?_⟩
      simp only [flatMap_letters small, List.flatMap_cons, List.flatMap_nil, List.append_nil,
        ← bits_zero]
      -- Both sides are now the bits of one number, cut in two ways.
      simp (disch := omega) only [bits_append, UInt8.toNat_ofNat']
      congr 1
      omega
  | @triple first second third word one two three zeros joined =>
      have small : ∀ value ∈ [first, second, third], value < 64 := by simp [one, two, three]
      refine ⟨letters [first, second, third], 1, 2, rfl, by decide, ⟨1, rfl⟩,
        letters_subset small, by decide, ?_⟩
      simp only [flatMap_letters small, List.flatMap_cons, List.flatMap_nil, List.append_nil,
        ← bits_zero, ← List.append_assoc]
      simp (disch := omega) only [bits_append, UInt8.toNat_ofNat']
      congr 1
      omega
  | @group first second third fourth word text octets one two three four joined rest ih =>
      obtain ⟨symbols, fillers, zeros, written, few, full, known, unused, regrouped⟩ := ih
      have small : ∀ value ∈ [first, second, third, fourth], value < 64 := by
        simp [one, two, three, four]
      refine ⟨letters [first, second, third, fourth] ++ symbols, fillers, zeros, ?_, few, ?_,
        List.append_subset.mpr ⟨letters_subset small, known⟩, unused, ?_⟩
      · rw [List.append_assoc, ← written]
        rfl
      · rw [List.length_append, Nat.add_assoc]
        exact Nat.dvd_add ⟨1, rfl⟩ full
      · rw [List.flatMap_append, flatMap_letters small, regrouped]
        simp only [List.flatMap_cons, List.flatMap_nil, List.append_nil, ← List.append_assoc]
        simp (disch := omega) only [bits_append, UInt8.toNat_ofNat']
        congr 3
        omega

theorem eq_of_flatMap_bits {first second : List Char} (one : first ⊆ alphabet)
    (two : second ⊆ alphabet) (size : first.length = second.length)
    (same : first.flatMap (fun char => bits 6 (alphabet.idxOf char)) =
      second.flatMap (fun char => bits 6 (alphabet.idxOf char))) : first = second := by
  induction first generalizing second with
  | nil => exact (List.length_eq_zero_iff.mp size.symm).symm
  | cons char first ih =>
      cases second with
      | nil => cases size
      | cons other second =>
          obtain ⟨here, one⟩ := List.cons_subset.mp one
          obtain ⟨there, two⟩ := List.cons_subset.mp two
          rw [List.flatMap_cons, List.flatMap_cons] at same
          obtain ⟨heads, tails⟩ := List.append_inj same (by rw [length_bits, length_bits])
          have places := bits_inj (idxOf_alphabet_lt here) (idxOf_alphabet_lt there) heads
          rw [(List.idxOf_inj here).mp places, ih one two (Nat.succ.inj size) tails]

/-- Octets have one spelling. -/
theorem Spells.unique {first second : List Char} {octets : List UInt8} (one : Spells first octets)
    (two : Spells second octets) : first = second := by
  obtain ⟨symbols, fillers, zeros, rfl, few, full, known, unused, regrouped⟩ := one
  obtain ⟨symbols', fillers', zeros', rfl, few', full', known', unused', regrouped'⟩ := two
  have size := congrArg List.length regrouped
  have size' := congrArg List.length regrouped'
  simp only [List.length_append, length_flatMap_bits, List.length_replicate] at size size'
  -- Both have six bits for each symbol, and fewer than six of them are zeros behind the octets.
  obtain rfl : zeros = zeros' := by omega
  obtain rfl : fillers = fillers' := by omega
  rw [eq_of_flatMap_bits known known' (by omega) (regrouped.trans regrouped'.symm)]

theorem ascii_of_alphabet {char : Char} (known : char ∈ alphabet) : char.toNat < 128 := by
  have each : alphabet.all (·.toNat < 128) := by decide
  exact of_decide_eq_true (List.all_eq_true.mp each char known)

theorem Spells.ascii {text : List Char} {octets : List UInt8} (spelled : Spells text octets) :
    ∀ char ∈ text, char.toNat < 128 := by
  obtain ⟨symbols, fillers, -, rfl, -, -, known, -⟩ := spelled
  intro char present
  obtain inside | last := List.mem_append.mp present
  · exact ascii_of_alphabet (known inside)
  · rw [List.eq_of_mem_replicate last]
    decide

end Base64

namespace Link

theorem spells_wrap (octets : List UInt8) : Base64.Spells (wrap octets).toList octets := by
  rw [wrap, String.toList_ofList]
  exact (Base64.grouped_iff.mpr rfl).spells

theorem encode_wrap (octets : List UInt8) :
    Utf8.encode (wrap octets).toList = Base64.encode octets := by
  rw [Utf8.encode_of_ascii (spells_wrap octets).ascii, wrap, String.toList_ofList, List.map_map]
  refine (List.map_congr_left fun octet _ => ?_).trans (List.map_id _)
  have valid : octet.toNat.isValidChar := .inl (Nat.lt_trans octet.toNat_lt (by decide))
  have code : (Char.ofNat octet.toNat).toNat = octet.toNat := by
    rw [Char.ofNat, dif_pos valid]
    rfl
  rw [Function.comp_apply, code, UInt8.ofNat_toNat, id]

theorem unwrap_eq_ok_iff {text : String} {octets : List UInt8} :
    unwrap text = .ok octets ↔ wrap octets = text := by
  have read : unwrap text = .ok octets ↔
      Base64.decode (Utf8.encode text.toList) = .ok octets := by
    rw [unwrap]
    cases Base64.decode (Utf8.encode text.toList) <;> simp [Except.mapError]
  rw [read, Base64.decode_eq_ok_iff, ← encode_wrap]
  constructor
  · intro same
    exact String.toList_injective (Utf8.encode_inj_of_ascii (spells_wrap octets).ascii same)
  · intro same
    rw [same]

theorem unwrap_eq_ok_iff_spells {text : String} {octets : List UInt8} :
    unwrap text = .ok octets ↔ Base64.Spells text.toList octets := by
  rw [unwrap_eq_ok_iff]
  constructor
  · intro wrapped
    rw [← wrapped]
    exact spells_wrap octets
  · intro spelled
    exact String.toList_injective ((spells_wrap octets).unique spelled)

/-- Octets and the texts that hold them are each other's wrapping and unwrapping. The texts are
letters, digits, `-` and `_`, filled up with `=`; whatever spells octets holds these, and nothing
else does. -/
theorem unwrap_inverts_wrap :
    (∀ octets : List UInt8, unwrap (wrap octets) = .ok octets ∧
      ∃ symbols fillers, (wrap octets).toList = symbols ++ List.replicate fillers '=' ∧
        ∀ char ∈ symbols, char.isAlphanum ∨ char = '-' ∨ char = '_') ∧
      (∀ text octets, unwrap text = .ok octets ↔ Base64.Spells text.toList octets) ∧
      (∀ text octets, unwrap text = .ok octets → wrap octets = text) ∧
      ∀ first second octets,
        unwrap first = .ok octets → unwrap second = .ok octets → first = second := by
  refine ⟨fun octets => ⟨unwrap_eq_ok_iff.mpr rfl, ?_⟩, fun text octets => unwrap_eq_ok_iff_spells,
    fun text octets read => unwrap_eq_ok_iff.mp read, ?_⟩
  · obtain ⟨symbols, fillers, -, written, -, -, known, -⟩ := spells_wrap octets
    have each : Base64.alphabet.all fun char => char.isAlphanum ∨ char = '-' ∨ char = '_' := by
      decide
    exact ⟨symbols, fillers, written, fun char present =>
      of_decide_eq_true (List.all_eq_true.mp each char (known present))⟩
  · intro first second octets one two
    rw [← unwrap_eq_ok_iff.mp one, unwrap_eq_ok_iff.mp two]

/-- The text of two octets, and one that differs from it in a bit that no octet has. -/
theorem unwrap_inverts_wrap_two_octets :
    unwrap "-_8=" = .ok [251, 255] ∧ Base64.Spells "-_8=".toList [251, 255] ∧
      wrap [251, 255] = "-_8=" ∧
      (∀ text, unwrap text = .ok [251, 255] → text = "-_8=") ∧
      unwrap "-_9=" = .error (.base64 (.lastSymbol 57 2)) := by
  have read : unwrap "-_8=" = .ok [251, 255] := rfl
  obtain ⟨-, spelled, wrapped, same⟩ := unwrap_inverts_wrap
  exact ⟨read, (spelled _ _).mp read, wrapped _ _ read, fun text found => same _ _ _ found read, rfl⟩

end Link

end LightShow
