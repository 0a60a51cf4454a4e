import LightShow.Proofs.Digits
import LightShow.Proofs.OctetSlices

/-! The texts of strips. Strips and the texts in lower case are each other's writing and reading,
and upper case reads as lower case. A reader that counts octets, and slices by them, comes to the
same without ever cutting a character in two. -/

namespace LightShow

namespace Hex

/-- An octet that is a digit of either case. -/
def IsDigitOctet (octet : UInt8) : Prop :=
  (48 ≤ octet ∧ octet ≤ 57) ∨ (97 ≤ octet ∧ octet ≤ 102) ∨ (65 ≤ octet ∧ octet ≤ 70)

instance : DecidablePred IsDigitOctet := fun _ =>
  inferInstanceAs (Decidable ((_ ∧ _) ∨ (_ ∧ _) ∨ (_ ∧ _)))

theorem value?_lt {char : Char} {value : Nat} (found : value? char = some value) : value < 16 := by
  unfold value? at found
  grind

theorem ascii_of_isDigit {char : Char} (digit : IsDigit char) : char.toNat < 128 := by
  have valued := (isSome_value? char).mpr digit
  unfold value? at valued
  grind

theorem ascii_of_digits {digits : List Char} (each : ∀ char ∈ digits, IsDigit char) :
    ∀ char ∈ digits, char.toNat < 128 := fun char present => ascii_of_isDigit (each char present)

theorem lt_of_isDigitOctet {octet : UInt8} (digit : IsDigitOctet octet) : octet < 128 := by
  simp only [IsDigitOctet, UInt8.le_iff_toNat_le, UInt8.lt_iff_toNat_lt, UInt8.reduceToNat] at *
  omega

theorem isDigitOctet_iff {char : Char} (ascii : char.toNat < 128) :
    IsDigitOctet (UInt8.ofNat char.toNat) ↔ IsDigit char := by
  refine Utf8.forall_ascii ascii ?_
  decide

/-- Texts of digits are told by their octets. -/
theorem forall_isDigitOctet_iff {digits : List Char} :
    (∀ octet ∈ Utf8.encode digits, IsDigitOctet octet) ↔ ∀ char ∈ digits, IsDigit char := by
  constructor
  · intro each
    have ascii := Utf8.ascii_of_encode fun octet inside => lt_of_isDigitOctet (each octet inside)
    rw [Utf8.encode_of_ascii ascii, List.forall_mem_map] at each
    exact fun char present => (isDigitOctet_iff (ascii char present)).mp (each char present)
  · intro each
    rw [Utf8.encode_of_ascii (ascii_of_digits each), List.forall_mem_map]
    intro char present
    exact (isDigitOctet_iff (ascii_of_isDigit (each char present))).mpr (each char present)

/-- A number with one more digit behind it, if it still fits an octet. -/
def extend? (number : Nat) (char : Char) : Option Nat := do
  let value ← value? char
  if 16 * number + value < 256 then some (16 * number + value) else none

/-- The octet of a number of any length, which may have a plus sign. -/
def octet? (text : List Char) : Option UInt8 :=
  let digits := if text.head? = some '+' then text.tail else text
  if digits = [] then none else (digits.foldlM extend? 0).map UInt8.ofNat

theorem octet?_pair {high low : Char} (upper : IsDigit high) (lower : IsDigit low) :
    octet? [high, low] = byte? high low := by
  obtain ⟨first, upper⟩ := Option.isSome_iff_exists.mp ((isSome_value? high).mpr upper)
  obtain ⟨second, lower⟩ := Option.isSome_iff_exists.mp ((isSome_value? low).mpr lower)
  have small := value?_lt upper
  have other := value?_lt lower
  have one : first < 256 := by omega
  have both : 16 * first + second < 256 := by omega
  have unsigned : high ≠ '+' := by
    intro sign
    rw [sign] at upper
    cases upper
  simp [octet?, extend?, byte?, unsigned, upper, lower, one, both]

/-- The value of a digit is written as the digit in lower case. -/
theorem digit_of_value? {char : Char} {value : Nat} (found : value? char = some value) :
    digit value = char.toLower := by
  have ascii := ascii_of_isDigit ((isSome_value? char).mp (Option.isSome_of_eq_some found))
  have lower : ∀ value ∈ value? char, digit value = char.toLower := by
    refine Utf8.forall_ascii ascii ?_
    decide
  exact lower value found

theorem ofByte_of_byte? {high low : Char} {byte : UInt8} (found : byte? high low = some byte) :
    ofByte byte = [high.toLower, low.toLower] := by
  simp only [byte?, bind, Option.bind_eq_some_iff, pure, Option.some.injEq] at found
  obtain ⟨upper, first, lower, second, rfl⟩ := found
  have small := value?_lt first
  have other := value?_lt second
  have whole : (UInt8.ofNat (16 * upper + lower)).toNat = 16 * upper + lower := by
    rw [UInt8.toNat_ofNat']
    omega
  have above : (16 * upper + lower) / 16 = upper := by omega
  have below : (16 * upper + lower) % 16 = lower := by omega
  rw [ofByte, whole, above, below, digit_of_value? first, digit_of_value? second]

end Hex

namespace Color

def channel (digits : List Char) (place : Nat) : Slicing Level := do
  let pair ← Slicing.part digits place (place + 2)
  Slicing.read (Hex.octet? pair)

/-- The color of six digits. They are counted and looked at by octets. -/
def sliced (digits : List Char) : Slicing Color :=
  let octets := Utf8.encode digits
  if octets.length = 6 ∧ octets.all (Hex.IsDigitOctet ·) then do
    let red ← channel digits 0
    let green ← channel digits 2
    let blue ← channel digits 4
    return ⟨red, green, blue⟩
  else failure

theorem channel_eq {digits rest : List Char} (each : ∀ char ∈ digits, Hex.IsDigit char)
    {place : Nat} {high low : Char} (here : digits.drop place = high :: low :: rest) :
    channel digits place = Slicing.read (Hex.byte? high low) := by
  have ascii := Hex.ascii_of_digits each
  have room : digits.length - place = rest.length + 2 := by
    rw [← List.length_drop, here, List.length_cons, List.length_cons]
  have pair : ∀ char ∈ high :: low :: rest, Hex.IsDigit char :=
    fun char present => each char (List.mem_of_mem_drop (here ▸ present))
  have both := Hex.octet?_pair (pair high (by simp)) (pair low (by simp))
  rw [channel, Slicing.part_of_ascii ascii (by omega) (by omega), Slicing.read_bind, here,
    Nat.add_sub_cancel_left]
  exact congrArg Slicing.read both

/-- Of a text, its octets say whether it is a color. -/
theorem octets_iff {digits : List Char} :
    ((Utf8.encode digits).length = 6 ∧ (Utf8.encode digits).all (Hex.IsDigitOctet ·)) ↔
      (ofHex? digits).isSome := by
  simp only [isSome_ofHex?, List.all_eq_true, decide_eq_true_eq, Hex.forall_isDigitOctet_iff]
  refine and_congr_left fun each => ?_
  rw [Utf8.length_encode_of_ascii (Hex.ascii_of_digits each)]

/-- By slices, the same color is read of every text. -/
theorem sliced_eq (digits : List Char) : sliced digits = Slicing.read (ofHex? digits) := by
  by_cases color : (ofHex? digits).isSome
  · obtain ⟨six, each⟩ := (isSome_ofHex? digits).mp color
    rw [sliced, if_pos (octets_iff.mpr color)]
    match digits, six with
    | [r₁, r₂, g₁, g₂, b₁, b₂], _ =>
        rw [channel_eq each rfl, channel_eq each rfl, channel_eq each rfl, ofHex?]
        cases Hex.byte? r₁ r₂ <;> cases Hex.byte? g₁ g₂ <;> cases Hex.byte? b₁ b₂ <;> rfl
  · rw [sliced, if_neg (mt octets_iff.mp color), Option.not_isSome_iff_eq_none.mp color]
    rfl

theorem toHex_of_ofHex? {digits : List Char} {color : Color} (found : ofHex? digits = some color) :
    color.toHex = digits.map Char.toLower := by
  unfold ofHex? at found
  split at found
  · simp only [bind, Option.bind_eq_some_iff, pure, Option.some.injEq] at found
    obtain ⟨red, first, green, second, blue, third, rfl⟩ := found
    simp [toHex, Hex.ofByte_of_byte? first, Hex.ofByte_of_byte? second,
      Hex.ofByte_of_byte? third]
  · cases found

end Color

namespace Strip

/-- The strip of a text, six octets for each pixel. -/
def sliced : (text : List Char) → Slicing Strip
  | 'L' :: digits =>
      let octets := Utf8.encode digits
      if octets.length % 6 = 0 ∧ octets.all (· < 128) then
        (List.range' 0 (octets.length / 6) 6).mapM fun place => do
          let pixel ← Slicing.part digits place (place + 6)
          Color.sliced pixel
      else failure
  | _ => failure

theorem mapM_pixels {digits : List Char} (ascii : ∀ char ∈ digits, char.toNat < 128)
    (count start : Nat) (size : digits.length = start + 6 * count) :
    ((List.range' start count 6).mapM fun place => do
      let pixel ← Slicing.part digits place (place + 6)
      Color.sliced pixel) = Slicing.read (ofHex? (digits.drop start)) := by
  induction count generalizing start with
  | zero =>
      rw [List.drop_eq_nil_of_le (by omega)]
      rfl
  | succ count ih =>
      have room : 6 ≤ (digits.drop start).length := by
        rw [List.length_drop]
        omega
      have next : digits.drop (start + 6) = (digits.drop start).drop 6 := List.drop_drop.symm
      rw [List.range'_succ, List.mapM_cons, Slicing.part_of_ascii ascii (by omega) (by omega),
        Slicing.read_bind, Nat.add_sub_cancel_left, ih (start + 6) (by omega), next]
      match digits.drop start, room with
      | r₁ :: r₂ :: g₁ :: g₂ :: b₁ :: b₂ :: rest, _ =>
          have first : [r₁, r₂, g₁, g₂, b₁, b₂] =
              (r₁ :: r₂ :: g₁ :: g₂ :: b₁ :: b₂ :: rest).take 6 := rfl
          rw [← first, Option.elim_some, Color.sliced_eq, ofHex?]
          show (do
            let pixel ← Slicing.read (Color.ofHex? [r₁, r₂, g₁, g₂, b₁, b₂])
            let pixels ← Slicing.read (ofHex? rest)
            pure (pixel :: pixels)) = _
          cases Color.ofHex? [r₁, r₂, g₁, g₂, b₁, b₂] <;> cases ofHex? rest <;> rfl

theorem sliced_cons (digits : List Char) :
    sliced ('L' :: digits) = Slicing.read (ofHex? digits) := by
  simp only [sliced, List.all_eq_true, decide_eq_true_eq]
  by_cases sixes : (Utf8.encode digits).length % 6 = 0 ∧
      ∀ octet ∈ Utf8.encode digits, octet < 128
  · have ascii := Utf8.ascii_of_encode sixes.2
    rw [if_pos sixes]
    refine mapM_pixels ascii _ 0 ?_
    rw [← Utf8.length_encode_of_ascii ascii]
    omega
  · have none : ofHex? digits = none := by
      rw [← Option.not_isSome_iff_eq_none, isSome_ofHex?]
      intro strip
      have octets := Hex.forall_isDigitOctet_iff.mpr strip.2
      refine sixes ⟨?_, fun octet present => Hex.lt_of_isDigitOctet (octets octet present)⟩
      rw [Utf8.length_encode_of_ascii (Hex.ascii_of_digits strip.2)]
      exact Nat.mod_eq_zero_of_dvd strip.1
    rw [if_neg sixes, none]
    rfl

/-- By slices, the same strip is read of every text. -/
theorem sliced_eq (text : List Char) : sliced text = Slicing.read (ofText? text) := by
  fun_cases ofText? text with
  | case1 digits => exact sliced_cons digits
  | case2 text other =>
      rw [sliced]
      · rfl
      · exact other

theorem flatMap_toHex_of_ofHex? {digits : List Char} {strip : Strip}
    (found : ofHex? digits = some strip) :
    strip.flatMap Color.toHex = digits.map Char.toLower := by
  fun_induction ofHex? digits generalizing strip with
  | case1 =>
      cases found
      rfl
  | case2 r₁ r₂ g₁ g₂ b₁ b₂ rest ih =>
      simp only [bind, Option.bind_eq_some_iff, pure, Option.some.injEq] at found
      obtain ⟨pixel, first, pixels, others, rfl⟩ := found
      simp [Color.toHex_of_ofHex? first, ih others]
  | case3 => cases found

theorem exists_digits {text : List Char} {strip : Strip} (found : ofText? text = some strip) :
    ∃ digits, text = 'L' :: digits ∧ ofHex? digits = some strip := by
  revert found
  fun_cases ofText? text with
  | case1 digits => exact fun found => ⟨digits, rfl, found⟩
  | case2 => nofun

theorem isSome_ofText? (text : List Char) : (ofText? text).isSome ↔ ∃ digits,
    text = 'L' :: digits ∧ 6 ∣ digits.length ∧ ∀ char ∈ digits, Hex.IsDigit char := by
  constructor
  · intro read
    obtain ⟨strip, found⟩ := Option.isSome_iff_exists.mp read
    obtain ⟨digits, whole, inner⟩ := exists_digits found
    exact ⟨digits, whole, (isSome_ofHex? digits).mp (Option.isSome_of_eq_some inner)⟩
  · intro shape
    obtain ⟨digits, rfl, pixels⟩ := shape
    exact (isSome_ofHex? digits).mpr pixels

/-- A strip is read back from its own text. The texts of strips are an `L` and six digits of either
case for each pixel; written again, they are in lower case. Reading them by octets never cuts a
character in two. -/
theorem text_codec :
    (∀ strip : Strip, ofText? strip.toText = some strip) ∧
      ∀ text : String,
        ((ofText? text.toList).isSome ↔ ∃ digits, text.toList = 'L' :: digits ∧
          6 ∣ digits.length ∧ ∀ char ∈ digits, Hex.IsDigit char) ∧
        (∀ strip ∈ ofText? text.toList, strip.toText = 'L' :: text.toList.tail.map Char.toLower) ∧
        (sliced text.toList).run = .ok (ofText? text.toList) := by
  refine ⟨ofText?_toText, fun text => ⟨?_, ?_, ?_⟩⟩
  · rw [isSome_ofText?]
  · intro strip found
    obtain ⟨digits, whole, read⟩ := exists_digits found
    rw [whole, toText, flatMap_toHex_of_ofHex? read, List.tail_cons]
  · rw [sliced_eq]
    rfl

/-- Two characters of three octets each are not the six digits of a pixel. -/
theorem text_codec_mixed_case :
    let strip : Strip := [⟨255, 0, 170⟩]
    strip ∈ ofText? "LFF00aA".toList ∧ strip.toText = "Lff00aa".toList ∧
      (sliced "L€€".toList).run = .ok none := by
  intro strip
  have read : strip ∈ ofText? "LFF00aA".toList := rfl
  have lower := (text_codec.2 "LFF00aA").2.1 strip read
  exact ⟨read, lower.trans rfl, (text_codec.2 "L€€").2.2.trans rfl⟩

end Strip

end LightShow
