import LightShow.Json.Numeral
import LightShow.Proofs.PlainText

/-! Reading numbers in front of what may stand behind a value. Whole numbers are read back as they
were written, and what is read of any number does not depend on what stands behind it. -/

namespace LightShow

namespace Json

namespace Scan

/-- What may stand behind a value: the end of the document, or of its container, or a comma. -/
def Ends (rest : Octets) : Prop :=
  ∀ octet ∈ rest.head?, octet = Octet.comma ∨ octet = Octet.closeList ∨ octet = Octet.closeObject

theorem skipBlanks_of_ends {rest : Octets} (ends : Ends rest) : skipBlanks rest = rest := by
  cases rest with
  | nil => rfl
  | cons octet rest =>
      have known := ends octet rfl
      unfold skipBlanks
      rw [List.dropWhile_cons_of_neg]
      rcases known with rfl | rfl | rfl <;> decide

theorem not_isDigit_of_ends {rest : Octets} (ends : Ends rest) :
    ∀ octet ∈ rest.head?, ¬Octet.isDigit octet := by
  intro octet first
  rcases ends octet first with rfl | rfl | rfl <;> decide

theorem not_part_of_ends {octet : UInt8} {after : Octets} (ends : Ends (octet :: after)) :
    octet ≠ Octet.point ∧ ¬Octet.isExponentMark octet := by
  rcases ends octet rfl with rfl | rfl | rfl <;> decide

theorem digits_append {text rest : Octets} (stops : ∀ octet ∈ rest.head?, ¬Octet.isDigit octet) :
    digits (text ++ rest) = ((digits text).1, (digits text).2 ++ rest) := by
  induction text with
  | nil =>
      cases rest with
      | nil => rfl
      | cons octet after =>
          have stop := stops octet rfl
          simp only [digits, List.nil_append, List.takeWhile_cons_of_neg stop,
            List.dropWhile_cons_of_neg stop, List.takeWhile_nil, List.dropWhile_nil]
  | cons octet tail ih =>
      simp only [digits, Prod.mk.injEq] at ih
      simp only [digits, List.cons_append]
      by_cases digit : Octet.isDigit octet
      · rw [List.takeWhile_cons_of_pos digit, List.takeWhile_cons_of_pos digit,
          List.dropWhile_cons_of_pos digit, List.dropWhile_cons_of_pos digit, ih.1, ih.2]
      · rw [List.takeWhile_cons_of_neg digit, List.takeWhile_cons_of_neg digit,
          List.dropWhile_cons_of_neg digit, List.dropWhile_cons_of_neg digit, List.cons_append]

section Decimal

theorem octet_of_isDigit {char : Char} (digit : char.isDigit) :
    (UInt8.ofNat char.toNat).toNat = char.toNat ∧ 48 ≤ char.toNat ∧ char.toNat ≤ 57 := by
  have bounds : 48 ≤ char.toNat ∧ char.toNat ≤ 57 := by
    simpa [Char.isDigit, UInt32.le_iff_toNat_le] using digit
  rw [UInt8.toNat_ofNat']
  omega

theorem isDigit_octet {char : Char} (digit : char.isDigit) :
    Octet.isDigit (UInt8.ofNat char.toNat) = true := by
  obtain ⟨value, low, high⟩ := octet_of_isDigit digit
  simp [Octet.isDigit, UInt8.le_iff_toNat_le, value, low, high]

theorem digits_encode {text : List Char} (all : ∀ char ∈ text, char.isDigit) :
    digits (Utf8.encode text) = (Utf8.encode text, []) := by
  induction text with
  | nil => rfl
  | cons char tail ih =>
      have first := all char List.mem_cons_self
      have bounds := octet_of_isDigit first
      have others := ih fun other present => all other (List.mem_cons_of_mem char present)
      simp only [digits, Prod.mk.injEq] at others
      rw [Utf8.encode_cons_of_ascii (by omega)]
      simp only [digits, List.takeWhile_cons_of_pos (isDigit_octet first),
        List.dropWhile_cons_of_pos (isDigit_octet first), others.1, others.2]

theorem le_ofDigitChars (text : List Char) (total : Nat) :
    total ≤ Nat.ofDigitChars 10 text total := by
  induction text generalizing total with
  | nil => exact Nat.le_refl total
  | cons char tail ih =>
      rw [Nat.ofDigitChars_cons]
      have grown := ih (10 * total + (char.toNat - '0'.toNat))
      omega

theorem absorb_encode {text : List Char} (all : ∀ char ∈ text, char.isDigit) {limit total : Nat}
    (fits : Nat.ofDigitChars 10 text total ≤ limit) :
    absorb limit total (Utf8.encode text) = (Nat.ofDigitChars 10 text total, []) := by
  induction text generalizing total with
  | nil => rfl
  | cons char tail ih =>
      have bounds := octet_of_isDigit (all char List.mem_cons_self)
      have next : total * 10 + Octet.digit (UInt8.ofNat char.toNat) =
          10 * total + (char.toNat - '0'.toNat) := by
        rw [Octet.digit, bounds.1, Nat.mul_comm]
        rfl
      rw [Nat.ofDigitChars_cons] at fits ⊢
      rw [Utf8.encode_cons_of_ascii (by omega), absorb, next,
        if_pos (Nat.le_trans (le_ofDigitChars tail _) fits)]
      exact ih (fun other present => all other (List.mem_cons_of_mem char present)) fits

/-- The digits of a positive number start with none that is zero. -/
theorem head_toDigits {value : Nat} (positive : 0 < value) :
    ∃ char rest, Nat.toDigits 10 value = char :: rest ∧ char ≠ '0' := by
  induction value using Nat.strongRecOn with
  | ind value ih =>
      by_cases small : value < 10
      · refine ⟨Nat.digitChar value, [], Nat.toDigits_of_lt_base small, ?_⟩
        have each : ∀ digit, digit < 10 → 0 < digit → Nat.digitChar digit ≠ '0' := by decide
        exact each value small positive
      · obtain ⟨char, rest, shape, nonzero⟩ := ih (value / 10) (by omega) (by omega)
        rw [Nat.toDigits_of_base_le (by decide) (Nat.le_of_not_lt small), shape]
        exact ⟨char, _, rfl, nonzero⟩

end Decimal

theorem afterWhole_of_ends (negative : Bool) (significand : Nat) {rest : Octets}
    (ends : Ends rest) : afterWhole negative significand 0 rest =
      .ok (whole negative significand, rest) := by
  cases rest with
  | nil => rfl
  | cons octet after =>
      rw [afterWhole]
      rcases ends octet rfl with rfl | rfl | rfl <;> rfl

theorem isDigit_of_mem_toDigits {value : Nat} : ∀ char ∈ Nat.toDigits 10 value, char.isDigit :=
  fun _ present => Nat.isDigit_of_mem_toDigits (by decide) (by decide) present

theorem digits_toDigits (value : Nat) {rest : Octets}
    (stops : ∀ octet ∈ rest.head?, ¬Octet.isDigit octet) :
    digits (Utf8.encode (Nat.toDigits 10 value) ++ rest) =
      (Utf8.encode (Nat.toDigits 10 value), rest) := by
  rw [digits_append stops, digits_encode isDigit_of_mem_toDigits, List.nil_append]

theorem absorb_toDigits {value : Nat} (fits : value ≤ mostSignificand) :
    absorb mostSignificand 0 (Utf8.encode (Nat.toDigits 10 value)) = (value, []) := by
  rw [absorb_encode isDigit_of_mem_toDigits, Nat.ofDigitChars_ten_toDigits]
  rwa [Nat.ofDigitChars_ten_toDigits]

/-- A whole number of 64 bits reads as itself. -/
theorem numeral_toDigits (value : UInt64) {rest : Octets} (ends : Ends rest) :
    numeral false (Utf8.encode (Nat.toDigits 10 value.toNat) ++ rest) =
      .ok (.natural value, rest) := by
  have back : whole false value.toNat = .natural value :=
    congrArg Number.natural UInt64.ofNat_toNat
  have stops := not_isDigit_of_ends ends
  rcases Nat.eq_zero_or_pos value.toNat with zero | positive
  · have after := afterWhole_of_ends false 0 ends
    rw [← zero, back, zero] at after
    have digit : Utf8.encode ['0'] = [Octet.zero] := by decide
    rw [zero, Nat.toDigits_zero, digit, List.singleton_append, numeral.eq_def]
    cases rest with
    | nil => exact after
    | cons octet tail =>
        have closed : ¬Octet.isDigit octet = true := stops octet rfl
        dsimp only
        rw [if_neg (by decide), if_pos rfl, if_neg closed]
        exact after
  · obtain ⟨char, tail, shape, nonzero⟩ := head_toDigits positive
    have read := digits_toDigits value.toNat stops
    have found := absorb_toDigits (Nat.le_of_lt_succ value.toNat_lt)
    have first := isDigit_of_mem_toDigits char (shape ▸ List.mem_cons_self)
    obtain ⟨octet, low, high⟩ := octet_of_isDigit first
    have leading : UInt8.ofNat char.toNat ≠ Octet.zero := by
      intro same
      rw [same] at octet
      exact nonzero (Char.toNat_inj.mp octet.symm)
    rw [shape, Utf8.encode_cons_of_ascii (by omega)] at read found ⊢
    rw [List.cons_append] at read ⊢
    rw [numeral.eq_def]
    dsimp only
    rw [if_neg (by rw [isDigit_octet first]; decide), if_neg leading, read]
    dsimp only
    rw [found]
    dsimp only [List.length_nil]
    rw [afterWhole_of_ends false _ ends, back]

section Behind

variable {rest : Octets}

theorem scaled_append {negative : Bool} {significand : Nat} {power : Int} {text tail : Octets}
    {number : Number} (read : scaled negative significand power text = .ok (number, tail)) :
    scaled negative significand power (text ++ rest) = .ok (number, tail ++ rest) := by
  unfold scaled at read ⊢
  split at read
  · cases read
  · cases read
    rfl

theorem exponentDigits_append (ends : Ends rest) {negative : Bool} {significand : Nat}
    {places : Int} {down : Bool} {text tail : Octets} {number : Number}
    (read : exponentDigits negative significand places down text = .ok (number, tail)) :
    exponentDigits negative significand places down (text ++ rest) =
      .ok (number, tail ++ rest) := by
  cases text with
  | nil => cases read
  | cons octet after =>
      rw [List.cons_append]
      rw [exponentDigits.eq_def] at read ⊢
      dsimp only at read ⊢
      split at read
      · cases read
      · next digit =>
          rw [if_neg digit, ← List.cons_append, digits_append (not_isDigit_of_ends ends)]
          dsimp only
          generalize absorb mostExponent 0 (digits (octet :: after)).1 = counted at read ⊢
          obtain ⟨count, unread⟩ := counted
          cases unread with
          | nil => exact scaled_append read
          | cons first others =>
              dsimp only at read ⊢
              split at read
              · cases read
              · next lost =>
                  rw [if_neg lost]
                  cases read
                  rfl

theorem exponent_append (ends : Ends rest) {negative : Bool} {significand : Nat} {places : Int}
    {text tail : Octets} {number : Number}
    (read : exponent negative significand places text = .ok (number, tail)) :
    exponent negative significand places (text ++ rest) = .ok (number, tail ++ rest) := by
  cases text with
  | nil => cases read
  | cons octet after =>
      rw [List.cons_append]
      rw [exponent] at read ⊢
      split at read
      · next minus =>
          rw [if_pos minus]
          exact exponentDigits_append ends read
      · next minus =>
          rw [if_neg minus]
          split at read
          · next plus =>
              rw [if_pos plus]
              exact exponentDigits_append ends read
          · next plus =>
              rw [if_neg plus]
              exact exponentDigits_append ends read

/-- Goes on behind the digits after the point. -/
def afterFraction (negative : Bool) (significand : Nat) (places : Int) :
    Octets → Except Stop (Number × Octets)
  | [] => scaled negative significand places []
  | mark :: after =>
      if Octet.isExponentMark mark then exponent negative significand places after
      else scaled negative significand places (mark :: after)

theorem afterFraction_append (ends : Ends rest) {negative : Bool} {significand : Nat}
    {places : Int} {text tail : Octets} {number : Number}
    (read : afterFraction negative significand places text = .ok (number, tail)) :
    afterFraction negative significand places (text ++ rest) = .ok (number, tail ++ rest) := by
  cases text with
  | nil =>
      have behind := @scaled_append rest _ _ _ _ _ _ read
      cases rest with
      | nil => exact behind
      | cons octet after =>
          rw [List.nil_append, afterFraction, if_neg (not_part_of_ends ends).2]
          exact behind
  | cons mark after =>
      rw [List.cons_append]
      rw [afterFraction] at read ⊢
      split at read
      · next exponential =>
          rw [if_pos exponential]
          exact exponent_append ends read
      · next positional =>
          rw [if_neg positional]
          exact scaled_append read

theorem afterWhole_point (negative : Bool) (significand spare : Nat) {text : Octets}
    (found : (digits text).1 ≠ []) :
    afterWhole negative significand spare (Octet.point :: text) =
      let split := absorb mostSignificand significand (digits text).1
      afterFraction negative split.1
        (spare - ((digits text).1.length - split.2.length : Nat)) (digits text).2 := by
  rw [afterWhole.eq_def]
  dsimp only
  rw [if_pos rfl]
  generalize digits text = read at found ⊢
  obtain ⟨first, behind⟩ := read
  cases first with
  | nil => exact absurd rfl found
  | cons digit others =>
      cases behind with
      | nil => rfl
      | cons mark after => rfl

theorem digits_of_afterWhole_point {negative : Bool} {significand spare : Nat}
    {text tail : Octets} {number : Number}
    (read : afterWhole negative significand spare (Octet.point :: text) = .ok (number, tail)) :
    (digits text).1 ≠ [] := by
  intro none
  rw [afterWhole.eq_def] at read
  dsimp only at read
  rw [if_pos rfl] at read
  generalize digits text = split at none read
  obtain ⟨first, behind⟩ := split
  subst none
  cases behind <;> cases read

theorem afterWhole_append (ends : Ends rest) {negative : Bool} {significand spare : Nat}
    {text tail : Octets} {number : Number}
    (read : afterWhole negative significand spare text = .ok (number, tail)) :
    afterWhole negative significand spare (text ++ rest) = .ok (number, tail ++ rest) := by
  cases text with
  | nil =>
      by_cases whole : spare = 0
      · subst whole
        cases read
        exact afterWhole_of_ends negative significand ends
      -- Where the text is used up, the octet behind it is looked at in its place.
      · have read : scaled negative significand spare [] = .ok (number, tail) := by
          rwa [afterWhole, if_neg whole] at read
        have behind : scaled negative significand spare rest = .ok (number, tail ++ rest) :=
          scaled_append read
        cases rest with
        | nil => rwa [List.append_nil, afterWhole, if_neg whole]
        | cons octet after =>
            obtain ⟨point, mark⟩ := not_part_of_ends ends
            rw [List.nil_append, afterWhole.eq_def]
            dsimp only
            rw [if_neg point, if_neg mark, if_neg whole]
            exact behind
  | cons octet after =>
      rw [List.cons_append]
      by_cases point : octet = Octet.point
      · subst point
        have found := digits_of_afterWhole_point read
        have more : digits (after ++ rest) = ((digits after).1, (digits after).2 ++ rest) :=
          digits_append (not_isDigit_of_ends ends)
        rw [afterWhole_point negative significand spare found] at read
        rw [afterWhole_point negative significand spare (by rwa [more]), more]
        exact afterFraction_append ends read
      rw [afterWhole.eq_def] at read ⊢
      dsimp only at read ⊢
      rw [if_neg point] at read ⊢
      split at read
      · next mark =>
          rw [if_pos mark]
          exact exponent_append ends read
      · next mark =>
          rw [if_neg mark]
          split at read
          · next whole =>
              rw [if_pos whole]
              cases read
              rfl
          · next whole =>
              rw [if_neg whole]
              exact scaled_append read

/-- What is read of a number does not depend on what ends it. -/
theorem numeral_append (ends : Ends rest) {negative : Bool} {text tail : Octets} {number : Number}
    (read : numeral negative text = .ok (number, tail)) :
    numeral negative (text ++ rest) = .ok (number, tail ++ rest) := by
  cases text with
  | nil => cases read
  | cons octet after =>
      rw [List.cons_append]
      rw [numeral.eq_def] at read ⊢
      dsimp only at read ⊢
      split at read
      · cases read
      · next digit =>
          rw [if_neg digit]
          split at read
          · next zero =>
              rw [if_pos zero]
              cases after with
              | nil =>
                  have behind := afterWhole_append ends read
                  cases rest with
                  | nil => exact behind
                  | cons next others =>
                      dsimp only [List.nil_append]
                      rw [if_neg (not_isDigit_of_ends ends next rfl)]
                      exact behind
              | cons next others =>
                  dsimp only [List.cons_append] at read ⊢
                  split at read
                  · cases read
                  · next closed =>
                      rw [if_neg closed]
                      exact afterWhole_append ends read
          · next nonzero =>
              rw [if_neg nonzero, ← List.cons_append, digits_append (not_isDigit_of_ends ends)]
              exact afterWhole_append ends read

end Behind

end Scan

end Json

end LightShow
