import LightShow.Proofs.Legible
import LightShow.Proofs.Numerals

/-! Reading values that hold no others, wherever they stand in a document. Whole numbers, plain
strings and literals are read as themselves; for a float it is enough that it is read where it
stands alone. -/

namespace LightShow

namespace Json

namespace Scan

theorem skipBlanks_cons {octet : UInt8} (visible : ¬Octet.isBlank octet) (rest : Octets) :
    skipBlanks (octet :: rest) = octet :: rest := List.dropWhile_cons_of_neg visible

theorem visible_of_skipBlanks {text after : Octets} {octet : UInt8}
    (starts : skipBlanks text = octet :: after) : ¬Octet.isBlank octet := by
  have first := List.head?_dropWhile_not Octet.isBlank text
  change List.dropWhile Octet.isBlank text = octet :: after at starts
  rw [starts] at first
  exact Bool.eq_false_iff.mp first

theorem not_blank_of_isDigit {octet : UInt8} (digit : Octet.isDigit octet) :
    ¬Octet.isBlank octet ∧ octet ≠ Octet.minus := by
  constructor
  · intro blank
    simp only [Octet.isBlank, Bool.or_eq_true, beq_iff_eq] at blank
    rcases blank with ((rfl | rfl) | rfl) | rfl <;> cases digit
  · rintro rfl
    cases digit

theorem skipBlanks_append {text after : Octets} {octet : UInt8}
    (starts : skipBlanks text = octet :: after) (rest : Octets) :
    skipBlanks (text ++ rest) = octet :: (after ++ rest) := by
  unfold skipBlanks at starts ⊢
  rw [List.dropWhile_append, starts]
  rfl

theorem skipBlanks_append_of_blank {text rest : Octets} (blank : skipBlanks text = [])
    (ends : Ends rest) : skipBlanks (text ++ rest) = rest := by
  have same := skipBlanks_of_ends ends
  unfold skipBlanks at blank same ⊢
  rw [List.dropWhile_append, blank]
  exact same

/-- Wherever a value ends, this text is read as it, and nothing but blanks is left of the text. -/
def Yields (text : Octets) (levels : Nat) (read : Json) : Prop :=
  ∀ steps rest, text.length < steps → Ends rest →
    ∃ tail, value steps levels (text ++ rest) = .ok (read, tail) ∧ skipBlanks tail = rest

theorem ok_of_bind {Fault First Last : Type} {first : Except Fault First}
    {next : First → Except Fault Last} {result : Last} (ok : first >>= next = .ok result) :
    ∃ value, first = .ok value ∧ next value = .ok result := by
  cases first with
  | error fault => cases ok
  | ok value => exact ⟨value, rfl, ok⟩

theorem literal?_of_number? {octet : UInt8} {after : Octets}
    {read : Except Stop (Number × Octets)} (starts : number? octet after = some read) :
    literal? octet = none := by
  unfold literal?
  split <;> first | rfl | cases starts

theorem literal?_ne_number {octet : UInt8} {letters : Octets} {number : Number} :
    literal? octet ≠ some (letters, .number number) := by
  unfold literal?
  split <;> exact nofun

theorem value_of_number? {text after tail : Octets} {octet : UInt8} {number : Number}
    (starts : skipBlanks text = octet :: after)
    (read : number? octet after = some (.ok (number, tail))) (steps levels : Nat) :
    value (steps + 1) levels text = .ok (.number number, tail) := by
  rw [value, starts]
  dsimp only
  rw [literal?_of_number? read, read]
  rfl

theorem number?_of_value {text tail : Octets} {number : Number} {steps levels : Nat}
    (read : value (steps + 1) levels text = .ok (.number number, tail)) :
    ∃ octet after, skipBlanks text = octet :: after ∧
      number? octet after = some (.ok (number, tail)) := by
  rw [value] at read
  split at read
  · cases read
  · next octet after starts =>
      refine ⟨octet, after, starts, ?_⟩
      cases literal : literal? octet with
      | some known =>
          obtain ⟨letters, known⟩ := known
          rw [literal] at read
          obtain ⟨behind, -, same⟩ := ok_of_bind read
          cases same
          exact absurd literal literal?_ne_number
      | none =>
          rw [literal] at read
          cases found : number? octet after with
          | some result =>
              rw [found] at read
              obtain ⟨pair, ok, same⟩ := ok_of_bind read
              cases same
              rw [ok]
          | none =>
              -- What starts as neither is a string or a container, never a number.
              rw [found] at read
              dsimp only at read
              split at read
              · obtain ⟨pair, -, same⟩ := ok_of_bind read
                cases same
              split at read
              · split at read
                · cases read
                · obtain ⟨pair, -, same⟩ := ok_of_bind read
                  cases same
              split at read
              · split at read
                · cases read
                · obtain ⟨pair, -, same⟩ := ok_of_bind read
                  cases same
              · cases read

theorem number?_append {octet : UInt8} {after tail rest : Octets} {number : Number}
    (ends : Ends rest) (read : number? octet after = some (.ok (number, tail))) :
    number? octet (after ++ rest) = some (.ok (number, tail ++ rest)) := by
  unfold number? at read ⊢
  split at read
  · next minus =>
      rw [if_pos minus, numeral_append ends (Option.some.inj read)]
  · next minus =>
      split at read
      · next digit =>
          rw [if_neg minus, if_pos digit, ← List.cons_append,
            numeral_append ends (Option.some.inj read)]
      · cases read

theorem value_of_read {text : Octets} {read : Json} (alone : Json.read text = .ok read) :
    ∃ tail, value (2 * text.length + 1) mostLevels text = .ok (read, tail) ∧
      skipBlanks tail = [] := by
  unfold Json.read at alone
  cases whole : document text with
  | error stop =>
      rw [whole] at alone
      cases alone
  | ok found =>
      rw [whole] at alone
      cases alone
      obtain ⟨⟨first, tail⟩, started, rest⟩ := ok_of_bind whole
      obtain ⟨nothing, finished, same⟩ := ok_of_bind rest
      cases same
      refine ⟨tail, started, ?_⟩
      unfold finish at finished
      split at finished
      · next blank => exact blank
      · cases finished

/-- A number that is read where it stands alone is read everywhere. -/
theorem yields_number {text : Octets} {number : Number}
    (alone : Json.read text = .ok (.number number)) (levels : Nat) :
    Yields text levels (.number number) := by
  intro steps rest enough ends
  obtain ⟨tail, read, blank⟩ := value_of_read alone
  obtain ⟨octet, after, starts, found⟩ := number?_of_value read
  cases steps with
  | zero => cases enough
  | succ steps =>
      exact ⟨tail ++ rest,
        value_of_number? (skipBlanks_append starts rest) (number?_append ends found) steps levels,
        skipBlanks_append_of_blank blank ends⟩

theorem yields_natural (value : UInt64) (levels : Nat) :
    Yields (Utf8.encode (Nat.toDigits 10 value.toNat)) levels (.number (.natural value)) := by
  intro steps rest enough ends
  have read := numeral_toDigits value ends
  cases steps with
  | zero => cases enough
  | succ steps =>
      refine ⟨rest, ?_, skipBlanks_of_ends ends⟩
      cases shape : Nat.toDigits 10 value.toNat with
      | nil => exact absurd shape Nat.toDigits_ne_nil
      | cons char others =>
          have digit : char.isDigit := Nat.isDigit_of_mem_toDigits (by decide) (by decide)
            (shape ▸ List.mem_cons_self : char ∈ Nat.toDigits 10 value.toNat)
          have bounds := octet_of_isDigit digit
          obtain ⟨visible, unsigned⟩ := not_blank_of_isDigit (isDigit_octet digit)
          rw [shape, Utf8.encode_cons_of_ascii (by omega), List.cons_append] at read
          rw [Utf8.encode_cons_of_ascii (by omega), List.cons_append]
          apply value_of_number? (skipBlanks_cons visible _)
          rw [number?, if_neg unsigned, if_pos (isDigit_octet digit), read]

/-- A plain string is read as itself. -/
theorem yields_string {text : String} (plain : Plain text) (levels : Nat) :
    Yields (Utf8.encode (stringChars text)) levels (.string text) := by
  intro steps rest enough ends
  cases steps with
  | zero => cases enough
  | succ steps =>
      refine ⟨rest, ?_, skipBlanks_of_ends ends⟩
      have text : Utf8.encode (stringChars text) ++ rest =
          Octet.quote :: (Utf8.encode text.toList ++ Octet.quote :: rest) := by
        rw [stringChars_of_plain plain, List.cons_append, Utf8.encode_cons_of_ascii (by decide),
          Utf8.encode_append, List.cons_append, List.append_assoc]
        rfl
      rw [text, value, skipBlanks_cons (by decide)]
      dsimp only
      rw [show literal? Octet.quote = none from rfl, show number? Octet.quote _ = none from rfl]
      dsimp only
      rw [if_pos rfl, string_encode plain]
      rfl

theorem yields_literal {octet : UInt8} {letters : Octets} {known : Json}
    (visible : ¬Octet.isBlank octet) (literal : literal? octet = some (letters, known))
    (levels : Nat) : Yields (octet :: letters) levels known := by
  have whole : ∀ letters rest : Octets, ident letters (letters ++ rest) = .ok rest := by
    intro letters rest
    induction letters with
    | nil => rfl
    | cons letter others ih => exact (if_pos rfl).trans ih
  intro steps rest enough ends
  cases steps with
  | zero => cases enough
  | succ steps =>
      refine ⟨rest, ?_, skipBlanks_of_ends ends⟩
      rw [List.cons_append, value, skipBlanks_cons visible]
      dsimp only
      rw [literal]
      dsimp only
      rw [whole]
      rfl

/-- What is read as a value starts with an octet that closes no array. -/
theorem Yields.opens {text : Octets} {levels : Nat} {read : Json}
    (yields : Yields text levels read) {steps : Nat} {rest : Octets}
    (enough : text.length < steps) (ends : Ends rest) :
    ∃ octet after tail, skipBlanks (text ++ rest) = octet :: after ∧ octet ≠ Octet.closeList ∧
      value steps levels (octet :: after) = .ok (read, tail) ∧ skipBlanks tail = rest := by
  obtain ⟨tail, found, left⟩ := yields steps rest enough ends
  cases steps with
  | zero => cases enough
  | succ steps =>
      rw [value] at found
      cases starts : skipBlanks (text ++ rest) with
      | nil =>
          rw [starts] at found
          cases found
      | cons octet after =>
          have again := skipBlanks_cons (visible_of_skipBlanks starts) after
          rw [starts] at found
          refine ⟨octet, after, tail, rfl, ?_, ?_, left⟩
          · rintro rfl
            cases found
          · rw [value, again]
            exact found

theorem Yields.length_pos {text : Octets} {levels : Nat} {read : Json}
    (yields : Yields text levels read) : 0 < text.length := by
  cases text with
  | nil =>
      obtain ⟨octet, after, tail, starts, -⟩ := @Yields.opens _ _ _ yields 1 [] Nat.one_pos nofun
      cases starts
  | cons octet after => exact Nat.succ_pos _

end Scan

end Json

end LightShow
