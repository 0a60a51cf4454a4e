import LightShow.Json.Printer
import LightShow.Json.Scan

/-! Plain text: characters that are written without escapes, in one octet each. Plain strings are
read back as they were written. -/

namespace LightShow

namespace Utf8

theorem encode_append (left right : List Char) :
    encode (left ++ right) = encode left ++ encode right := List.flatMap_append

theorem encode_cons_of_ascii {char : Char} (ascii : char.toNat < 128) (rest : List Char) :
    encode (char :: rest) = UInt8.ofNat char.toNat :: encode rest := by
  have single : String.utf8EncodeChar char = [UInt8.ofNat char.toNat] := by
    apply String.utf8EncodeChar_eq_singleton
    rw [Char.utf8Size_eq_one_iff, UInt32.le_iff_toNat_le]
    exact Nat.le_of_lt_succ ascii
  rw [encode, List.flatMap_cons, single]
  rfl

theorem first?_of_ascii {char : Char} (ascii : char.toNat < 128) (rest : List UInt8) :
    first? (UInt8.ofNat char.toNat :: rest) = some (char, 1) := by
  have value : (UInt8.ofNat char.toNat).toNat = char.toNat := by
    rw [UInt8.toNat_ofNat']
    omega
  have small : UInt8.ofNat char.toNat < 128 := by
    rw [UInt8.lt_iff_toNat_lt, value]
    exact ascii
  rw [first?.eq_def]
  dsimp only
  rw [if_pos small, value, Char.ofNat_toNat]

theorem decodeFrom_encode {text : List Char} (ascii : ∀ char ∈ text, char.toNat < 128)
    (steps position : Nat) (enough : text.length ≤ steps) :
    decodeFrom steps position (encode text) = .ok text := by
  induction text generalizing steps position with
  | nil => cases steps <;> rfl
  | cons char rest ih =>
      have first := ascii char List.mem_cons_self
      cases steps with
      | zero => cases enough
      | succ steps =>
          have others := ih (fun other present => ascii other (List.mem_cons_of_mem char present))
            steps (position + 1) (Nat.le_of_succ_le_succ enough)
          rw [encode_cons_of_ascii first, decodeFrom.eq_def]
          dsimp only
          rw [first?_of_ascii first]
          dsimp only
          rw [List.drop_one, List.tail_cons, others]
          rfl

theorem length_encode_of_ascii {text : List Char} (ascii : ∀ char ∈ text, char.toNat < 128) :
    (encode text).length = text.length := by
  induction text with
  | nil => rfl
  | cons char rest ih =>
      rw [encode_cons_of_ascii (ascii char List.mem_cons_self), List.length_cons,
        ih fun other present => ascii other (List.mem_cons_of_mem char present), List.length_cons]

/-- Plain text is decoded as it was encoded. -/
theorem decode_encode_of_ascii {text : List Char} (ascii : ∀ char ∈ text, char.toNat < 128) :
    decode (encode text) = .ok text :=
  decodeFrom_encode ascii _ 0 (Nat.le_of_eq (length_encode_of_ascii ascii).symm)

end Utf8

namespace Json

/-- Characters that are written as themselves, each in one octet. -/
def PlainChar (char : Char) : Prop :=
  32 ≤ char.toNat ∧ char.toNat < 127 ∧ char ≠ '\x22' ∧ char ≠ '\\'

instance (char : Char) : Decidable (PlainChar char) := inferInstanceAs (Decidable (_ ∧ _))

def Plain (text : String) : Prop := ∀ char ∈ text.toList, PlainChar char

instance (text : String) : Decidable (Plain text) := List.decidableBAll PlainChar text.toList

theorem escape_of_plain {char : Char} (plain : PlainChar char) : escape char = [char] := by
  obtain ⟨visible, -, noQuote, noBackslash⟩ := plain
  unfold escape
  split
  · exact absurd rfl noQuote
  · exact absurd rfl noBackslash
  all_goals first
    | exact absurd visible (by decide)
    | rw [if_neg (Nat.not_lt_of_le visible)]

theorem stringChars_of_plain {text : String} (plain : Plain text) :
    stringChars text = '\x22' :: text.toList ++ ['\x22'] := by
  have whole : ∀ text : List Char, (∀ char ∈ text, PlainChar char) →
      text.flatMap escape = text := by
    intro text plain
    induction text with
    | nil => rfl
    | cons char tail ih =>
        rw [List.flatMap_cons, escape_of_plain (plain char List.mem_cons_self),
          ih fun other present => plain other (List.mem_cons_of_mem char present)]
        rfl
  rw [stringChars, whole text.toList plain]

namespace Scan

theorem content_encode {text : List Char} (plain : ∀ char ∈ text, PlainChar char)
    (rest : Octets) :
    content (Utf8.encode text ++ Octet.quote :: rest) = .ok (Utf8.encode text, rest) := by
  induction text with
  | nil =>
      rw [content.eq_def]
      rfl
  | cons char tail ih =>
      obtain ⟨visible, ascii, noQuote, noBackslash⟩ := plain char List.mem_cons_self
      have value : (UInt8.ofNat char.toNat).toNat = char.toNat := by
        rw [UInt8.toNat_ofNat']
        omega
      have distinct : ∀ other : Char, other.toNat < 128 → char ≠ other →
          UInt8.ofNat char.toNat ≠ UInt8.ofNat other.toNat := by
        intro other small differs same
        have numbers := congrArg UInt8.toNat same
        rw [value, UInt8.toNat_ofNat', Nat.mod_eq_of_lt (by omega)] at numbers
        exact differs (Char.toNat_inj.mp numbers)
      have quote : UInt8.ofNat char.toNat ≠ Octet.quote := distinct '\x22' (by decide) noQuote
      have backslash : UInt8.ofNat char.toNat ≠ Octet.backslash :=
        distinct '\\' (by decide) noBackslash
      have control : ¬UInt8.ofNat char.toNat < 32 := by
        rw [UInt8.lt_iff_toNat_lt, value]
        exact Nat.not_lt_of_le visible
      rw [Utf8.encode_cons_of_ascii (by omega), List.cons_append, content.eq_def]
      dsimp only
      rw [if_neg quote, if_neg control, if_pos backslash,
        ih fun other present => plain other (List.mem_cons_of_mem char present)]
      rfl

/-- A plain string reads as itself, up to its closing quote. -/
theorem string_encode {text : String} (plain : Plain text) (rest : Octets) :
    string (Utf8.encode text.toList ++ Octet.quote :: rest) = .ok (text, rest) := by
  have ascii : ∀ char ∈ text.toList, char.toNat < 128 :=
    fun char present => Nat.lt_succ_of_lt (plain char present).2.1
  rw [string, content_encode plain]
  simp only [bind, Except.bind, Utf8.decode_encode_of_ascii ascii, String.ofList_toList]
  rfl

end Scan

end Json

end LightShow
