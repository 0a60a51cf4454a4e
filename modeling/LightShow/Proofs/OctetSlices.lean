import LightShow.Proofs.PlainText

/-! Slices of texts by octets. A text can be cut at its start, at its end and between two of its
characters, but not within a character. A text of characters that take one octet each can be cut
anywhere, and whether a text is of that sort can be seen from its octets. -/

namespace LightShow

/-- A slice that is no text: it is turned around, ends behind the text, or starts or ends within a
character. -/
structure Miscut where
  start : Nat
  stop : Nat

namespace Utf8

/-- A text cut behind some number of octets, unless that is within a character or behind the end. -/
def cut? : (octets : Nat) → List Char → Option (List Char × List Char)
  | 0, text => some ([], text)
  | _ + 1, [] => none
  | octets + 1, char :: rest =>
      if char.utf8Size ≤ octets + 1 then
        (cut? (octets + 1 - char.utf8Size) rest).map fun parts => (char :: parts.1, parts.2)
      else none

/-- The part of a text between two places that are counted in octets. -/
def slice? (text : List Char) (start stop : Nat) : Option (List Char) := do
  let (_, behind) ← cut? start text
  let (part, _) ← cut? (stop - start) behind
  if start ≤ stop then some part else none

theorem length_encode_cons (char : Char) (rest : List Char) :
    (encode (char :: rest)).length = char.utf8Size + (encode rest).length := by
  rw [encode, List.flatMap_cons, List.length_append, String.length_utf8EncodeChar, ← encode]

theorem eq_nil_of_length_encode {text : List Char} (none : (encode text).length = 0) :
    text = [] := by
  cases text with
  | nil => rfl
  | cons char rest =>
      have positive := char.utf8Size_pos
      rw [length_encode_cons] at none
      omega

/-- A text is cut exactly at the ends of its characters. -/
theorem cut?_eq_some_iff {octets : Nat} {text front back : List Char} :
    cut? octets text = some (front, back) ↔
      text = front ++ back ∧ (encode front).length = octets := by
  fun_induction cut? octets text generalizing front back with
  | case1 text =>
      constructor
      · intro cut
        cases cut
        exact ⟨rfl, rfl⟩
      · intro parts
        obtain ⟨whole, empty⟩ := parts
        have start := eq_nil_of_length_encode empty
        rw [whole, start, List.nil_append]
  | case2 octets =>
      constructor
      · nofun
      · intro parts
        obtain ⟨whole, full⟩ := parts
        rw [(List.append_eq_nil_iff.mp whole.symm).1] at full
        cases full
  | case3 octets char rest fits ih =>
      simp only [Option.map_eq_some_iff, Prod.exists, Prod.mk.injEq, ih]
      constructor
      · intro cut
        obtain ⟨first, behind, ⟨rfl, size⟩, rfl, rfl⟩ := cut
        refine ⟨rfl, ?_⟩
        rw [length_encode_cons]
        omega
      · intro parts
        obtain ⟨whole, size⟩ := parts
        cases front with
        | nil => cases size
        | cons first more =>
            rw [List.cons_append, List.cons.injEq] at whole
            obtain ⟨rfl, whole⟩ := whole
            rw [length_encode_cons] at size
            exact ⟨more, back, ⟨whole, by omega⟩, rfl, rfl⟩
  | case4 octets char rest splits =>
      constructor
      · nofun
      · intro parts
        obtain ⟨whole, size⟩ := parts
        cases front with
        | nil => cases size
        | cons first more =>
            rw [List.cons_append, List.cons.injEq] at whole
            rw [length_encode_cons, ← whole.1] at size
            omega

theorem cut?_of_ascii {text : List Char} (ascii : ∀ char ∈ text, char.toNat < 128) {octets : Nat}
    (inside : octets ≤ text.length) :
    cut? octets text = some (text.take octets, text.drop octets) := by
  rw [cut?_eq_some_iff, List.take_append_drop, length_encode_of_ascii fun char present =>
    ascii char (List.mem_of_mem_take present), List.length_take]
  exact ⟨rfl, Nat.min_eq_left inside⟩

/-- In a text of one octet for each character, octets count as characters. -/
theorem slice?_of_ascii {text : List Char} (ascii : ∀ char ∈ text, char.toNat < 128)
    {start stop : Nat} (ordered : start ≤ stop) (inside : stop ≤ text.length) :
    slice? text start stop = some ((text.drop start).take (stop - start)) := by
  have behind : ∀ char ∈ text.drop start, char.toNat < 128 :=
    fun char present => ascii char (List.mem_of_mem_drop present)
  have room : stop - start ≤ (text.drop start).length := by
    rw [List.length_drop]
    omega
  simp only [slice?, cut?_of_ascii ascii (Nat.le_trans ordered inside), cut?_of_ascii behind room,
    Option.bind_eq_bind, Option.bind_some, if_pos ordered]

/-- A character of several octets starts with one that no character is alone. -/
theorem ascii_of_utf8EncodeChar {char : Char}
    (ascii : ∀ octet ∈ String.utf8EncodeChar char, octet < 128) : char.toNat < 128 := by
  have lead : ∀ value, 128 ≤ value → value < 256 → ¬UInt8.ofNat value < 128 := by
    intro value wide octet small
    have low : UInt8.toNat 128 = 128 := rfl
    rw [UInt8.lt_iff_toNat_lt, UInt8.toNat_ofNat', low] at small
    omega
  simp only [String.utf8EncodeChar, Char.toNat_val] at ascii
  split at ascii
  · omega
  split at ascii
  · exact absurd (ascii _ List.mem_cons_self) (lead _ (by omega) (by omega))
  split at ascii
  · exact absurd (ascii _ List.mem_cons_self) (lead _ (by omega) (by omega))
  · exact absurd (ascii _ List.mem_cons_self) (lead _ (by omega) (by omega))

/-- What holds of each of the characters of one octet holds of all of them. -/
@[elab_as_elim]
theorem forall_ascii {motive : Char → Prop} {char : Char} (ascii : char.toNat < 128)
    (each : ∀ code, code < 128 → motive (Char.ofNat code)) : motive char := by
  have here := each char.toNat ascii
  rwa [Char.ofNat_toNat] at here

theorem ascii_of_encode {text : List Char} (ascii : ∀ octet ∈ encode text, octet < 128) :
    ∀ char ∈ text, char.toNat < 128 :=
  fun char present => ascii_of_utf8EncodeChar fun octet inside =>
    ascii octet (List.mem_flatMap.mpr ⟨char, present, inside⟩)

theorem encode_of_ascii {text : List Char} (ascii : ∀ char ∈ text, char.toNat < 128) :
    encode text = text.map fun char => UInt8.ofNat char.toNat := by
  induction text with
  | nil => rfl
  | cons char rest ih =>
      rw [encode_cons_of_ascii (ascii char List.mem_cons_self), List.map_cons,
        ih fun other present => ascii other (List.mem_cons_of_mem char present)]

/-- A text of one octet for each character is told by its octets. -/
theorem encode_inj_of_ascii {first second : List Char} (ascii : ∀ char ∈ first, char.toNat < 128)
    (same : encode first = encode second) : first = second := by
  have octets : ∀ octet ∈ encode first, octet < 128 := by
    rw [encode_of_ascii ascii, List.forall_mem_map]
    intro char present
    have small := ascii char present
    have limit : UInt8.toNat 128 = 128 := rfl
    rw [UInt8.lt_iff_toNat_lt, UInt8.toNat_ofNat', limit]
    omega
  rw [same] at octets
  have read := decode_encode_of_ascii ascii
  rw [same, decode_encode_of_ascii (ascii_of_encode octets)] at read
  exact (Except.ok.inj read).symm

end Utf8

/-- What is read of a text by slices, unless it is no text of its kind. A slice that is no text ends
the reading. -/
abbrev Slicing := OptionT (Except Miscut)

namespace Slicing

/-- A reading that no slice has ended. -/
def read {Value : Type} (value : Option Value) : Slicing Value := OptionT.mk (.ok value)

def part (text : List Char) (start stop : Nat) : Slicing (List Char) :=
  match Utf8.slice? text start stop with
  | some part => read (some part)
  | none => OptionT.mk (.error ⟨start, stop⟩)

theorem part_of_ascii {text : List Char} (ascii : ∀ char ∈ text, char.toNat < 128)
    {start stop : Nat} (ordered : start ≤ stop) (inside : stop ≤ text.length) :
    part text start stop = read (some ((text.drop start).take (stop - start))) := by
  simp only [part, Utf8.slice?_of_ascii ascii ordered inside]

theorem read_bind {First Second : Type} (value : Option First) (next : First → Slicing Second) :
    read value >>= next = value.elim (read none) next := by
  cases value <;> rfl

end Slicing

end LightShow
