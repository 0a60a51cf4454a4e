import LightShow.Proofs.Scalars

/-! Reading back the text of a value that was written. Arrays and objects are read item by item
and field by field, as themselves but for the order of fields, as deep as their containers fit. -/

namespace LightShow

namespace Json

/-- What follows an item of an array: a comma and more of them, or the closing bracket. -/
def moreItems : List Json → List Char
  | [] => [']']
  | items => ',' :: itemChars items

def moreFields : List (String × Json) → List Char
  | [] => ['\x7d']
  | fields => ',' :: fieldChars fields

theorem itemChars_cons (item : Json) (rest : List Json) :
    itemChars (item :: rest) = item.chars ++ moreItems rest := by
  cases rest <;> rfl

theorem fieldChars_cons (name : String) (value : Json) (rest : List (String × Json)) :
    fieldChars ((name, value) :: rest) =
      stringChars name ++ ':' :: (value.chars ++ moreFields rest) := by
  cases rest <;> rfl

namespace Scan

variable {levels : Nat}

section Items

variable {items : List Json} {first : Bool} {steps : Nat} {text rest : Octets}

theorem ends_moreItems (items : List Json) (rest : Octets) :
    Ends (Utf8.encode (moreItems items) ++ rest) := by
  cases items with
  | nil => exact fun octet first => by cases first; decide
  | cons item others => exact fun octet first => by cases first; decide

theorem length_moreItems_pos (items : List Json) : 0 < (Utf8.encode (moreItems items)).length := by
  cases items with
  | nil => decide
  | cons item others => exact Nat.succ_pos _

theorem encode_itemChars (item : Json) (others : List Json) :
    Utf8.encode (itemChars (item :: others)) =
      Utf8.encode item.chars ++ Utf8.encode (moreItems others) := by
  rw [itemChars_cons, Utf8.encode_append]

theorem encode_moreItems (some : items ≠ []) :
    Utf8.encode (moreItems items) = Octet.comma :: Utf8.encode (itemChars items) := by
  cases items with
  | nil => exact absurd rfl some
  | cons item others => exact Utf8.encode_cons_of_ascii (by decide) _

theorem encode_array (items : List Json) :
    Utf8.encode (chars (.array items)) = Octet.openList :: Utf8.encode (itemChars items) := by
  rw [chars, Utf8.encode_cons_of_ascii (by decide)]
  rfl

theorem value_array :
    value (steps + 1) (levels + 1) (Octet.openList :: text) = (do
      let (values, rest) ← Scan.items steps levels true text
      return (.array values, rest)) := by
  rw [value, skipBlanks_cons (by decide)]
  rfl

/-- Going on in an array leads to the first octet of some items, with the rest behind them. -/
def ReachesItems (first : Bool) (text : Octets) (items : List Json) (rest : Octets) : Prop :=
  ∀ octet after, skipBlanks (Utf8.encode (itemChars items) ++ rest) = octet :: after →
    octet ≠ Octet.closeList → nextItem first text = .ok (.next (octet :: after))

theorem reachesItems_first :
    ReachesItems true (Utf8.encode (itemChars items) ++ rest) items rest := by
  intro octet after reached opens
  rw [nextItem, reached]
  exact (if_neg opens).trans (if_pos rfl)

theorem reachesItems_more (some : items ≠ [])
    (starts : skipBlanks text = Utf8.encode (moreItems items) ++ rest) :
    ReachesItems false text items rest := by
  intro octet after reached opens
  rw [encode_moreItems some, List.cons_append] at starts
  rw [nextItem, starts]
  dsimp only
  rw [if_neg (by decide), if_neg (by decide), if_neg (by decide), reached]
  dsimp only
  rw [if_neg opens]

/-- Once it is reached, an item is read, and what follows it is left. -/
theorem items_step {item : Json} {others : List Json}
    (yields : Yields (Utf8.encode item.chars) levels item.reread)
    (enough : (Utf8.encode item.chars).length < steps)
    (reaches : ReachesItems first text (item :: others) rest) :
    ∃ tail, skipBlanks tail = Utf8.encode (moreItems others) ++ rest ∧
      Scan.items (steps + 1) levels first text = (do
        let (values, rest) ← Scan.items steps levels false tail
        return (item.reread :: values, rest)) := by
  obtain ⟨octet, after, tail, starts, opens, read, left⟩ :=
    yields.opens enough (ends_moreItems others rest)
  refine ⟨tail, left, ?_⟩
  rw [← List.append_assoc, ← encode_itemChars] at starts
  rw [Scan.items, reaches octet after starts opens]
  simp only [bind, Except.bind, read]

theorem items_chars (some : items ≠ [])
    (each : ∀ item ∈ items, Yields (Utf8.encode item.chars) levels item.reread)
    (enough : (Utf8.encode (itemChars items)).length < steps)
    (reaches : ReachesItems first text items rest) :
    Scan.items steps levels first text = .ok (rereadItems items, rest) := by
  induction items generalizing first steps text with
  | nil => exact absurd rfl some
  | cons item others ih =>
      rw [encode_itemChars, List.length_append] at enough
      have more := length_moreItems_pos others
      cases steps with
      | zero => cases enough
      | succ steps =>
          have yields := each item List.mem_cons_self
          have short : (Utf8.encode item.chars).length < steps := by omega
          obtain ⟨tail, left, step⟩ := items_step yields short reaches
          have behind : Scan.items steps levels false tail = .ok (rereadItems others, rest) := by
            cases others with
            | nil =>
                have some := yields.length_pos
                cases steps with
                | zero => omega
                | succ steps =>
                    rw [Scan.items, nextItem, left]
                    rfl
            | cons other others =>
                have next : other :: others ≠ [] := List.cons_ne_nil other others
                rw [encode_moreItems next, List.length_cons] at enough
                exact ih next (fun later present => each later (List.mem_cons_of_mem item present))
                  (by omega) (reachesItems_more next left)
          rw [step, behind]
          rfl

theorem yields_array
    (each : ∀ item ∈ items, Yields (Utf8.encode item.chars) levels item.reread) :
    Yields (Utf8.encode (chars (.array items))) (levels + 1) (.array (rereadItems items)) := by
  intro steps rest enough ends
  rw [encode_array, List.length_cons] at enough
  cases steps with
  | zero => cases enough
  | succ steps =>
      have inside : Scan.items steps levels true (Utf8.encode (itemChars items) ++ rest) =
          .ok (rereadItems items, rest) := by
        cases items with
        | nil =>
            cases steps with
            | zero => omega
            | succ steps => rfl
        | cons item others =>
            exact items_chars (List.cons_ne_nil item others) each (by omega) reachesItems_first
      refine ⟨rest, ?_, skipBlanks_of_ends ends⟩
      rw [encode_array, List.cons_append, value_array, inside]
      rfl

end Items

section Fields

variable {fields : List (String × Json)} {first : Bool} {steps : Nat} {text rest : Octets}

theorem ends_moreFields (fields : List (String × Json)) (rest : Octets) :
    Ends (Utf8.encode (moreFields fields) ++ rest) := by
  cases fields with
  | nil => exact fun octet first => by cases first; decide
  | cons field others => exact fun octet first => by cases first; decide

/-- A field behind its opening quote, and those behind it. -/
def fieldOctets (name : String) (value : Json) (others : List (String × Json)) : Octets :=
  Utf8.encode name.toList ++ Octet.quote :: Octet.colon ::
    (Utf8.encode value.chars ++ Utf8.encode (moreFields others))

theorem encode_fieldChars {name : String} (plain : Plain name) (value : Json)
    (others : List (String × Json)) :
    Utf8.encode (fieldChars ((name, value) :: others)) =
      Octet.quote :: fieldOctets name value others := by
  rw [fieldChars_cons, stringChars_of_plain plain, List.cons_append, List.cons_append,
    Utf8.encode_cons_of_ascii (by decide), List.append_assoc, Utf8.encode_append,
    List.singleton_append, Utf8.encode_cons_of_ascii (by decide),
    Utf8.encode_cons_of_ascii (by decide), Utf8.encode_append]
  rfl

theorem length_fieldChars_cons {name : String} (plain : Plain name) (value : Json)
    (others : List (String × Json)) :
    (Utf8.encode value.chars).length + (Utf8.encode (moreFields others)).length + 2 <
      (Utf8.encode (fieldChars ((name, value) :: others))).length := by
  rw [encode_fieldChars plain]
  simp only [fieldOctets, List.length_cons, List.length_append]
  omega

theorem encode_moreFields (some : fields ≠ []) :
    Utf8.encode (moreFields fields) = Octet.comma :: Utf8.encode (fieldChars fields) := by
  cases fields with
  | nil => exact absurd rfl some
  | cons field others => exact Utf8.encode_cons_of_ascii (by decide) _

theorem encode_object (fields : List (String × Json)) :
    Utf8.encode (chars (.object fields)) = Octet.openObject :: Utf8.encode (fieldChars fields) := by
  rw [chars, Utf8.encode_cons_of_ascii (by decide)]
  rfl

theorem value_object :
    value (steps + 1) (levels + 1) (Octet.openObject :: text) = (do
      let (values, rest) ← members steps levels true text
      return (ofMembers values, rest)) := by
  rw [value, skipBlanks_cons (by decide)]
  rfl

/-- Going on in an object leads to the first name of some fields, with the rest behind them. -/
def ReachesFields (first : Bool) (text : Octets) (fields : List (String × Json))
    (rest : Octets) : Prop :=
  ∀ after, Utf8.encode (fieldChars fields) ++ rest = Octet.quote :: after →
    nextName first text = .ok (.next after)

theorem reachesFields_first :
    ReachesFields true (Utf8.encode (fieldChars fields) ++ rest) fields rest := by
  intro after starts
  rw [starts, nextName, skipBlanks_cons (by decide)]
  rfl

theorem reachesFields_more (some : fields ≠ [])
    (starts : skipBlanks text = Utf8.encode (moreFields fields) ++ rest) :
    ReachesFields false text fields rest := by
  intro after opens
  rw [encode_moreFields some, List.cons_append, opens] at starts
  rw [nextName, starts]
  dsimp only
  rw [if_neg (by decide), if_neg (by decide), if_neg (by decide), skipBlanks_cons (by decide)]
  rfl

theorem members_turn {name : String} {held : Json} {others : List (String × Json)}
    (plain : Plain name) (reaches : ReachesFields first text ((name, held) :: others) rest) :
    members (steps + 1) levels first text = (do
      let (found, tail) ← value steps levels
        (Utf8.encode held.chars ++ (Utf8.encode (moreFields others) ++ rest))
      let (values, rest) ← members steps levels false tail
      return ((name, found) :: values, rest)) := by
  have turn : nextName first text = .ok (.next (fieldOctets name held others ++ rest)) :=
    reaches _ (by rw [encode_fieldChars plain, List.cons_append])
  rw [members, turn]
  simp only [fieldOctets, List.append_assoc, List.cons_append, bind, Except.bind,
    string_encode plain]
  rw [colon, skipBlanks_cons (by decide)]
  dsimp only
  rw [if_pos rfl]

theorem members_step {name : String} {held : Json} {others : List (String × Json)}
    (plain : Plain name) (yields : Yields (Utf8.encode held.chars) levels held.reread)
    (enough : (Utf8.encode held.chars).length < steps)
    (reaches : ReachesFields first text ((name, held) :: others) rest) :
    ∃ tail, skipBlanks tail = Utf8.encode (moreFields others) ++ rest ∧
      members (steps + 1) levels first text = (do
        let (values, rest) ← members steps levels false tail
        return ((name, held.reread) :: values, rest)) := by
  obtain ⟨tail, read, left⟩ := yields steps _ enough (ends_moreFields others rest)
  refine ⟨tail, left, ?_⟩
  rw [members_turn plain reaches, read]
  rfl

theorem members_chars (some : fields ≠ []) (plain : ∀ field ∈ fields, Plain field.1)
    (each : ∀ field ∈ fields, Yields (Utf8.encode field.2.chars) levels field.2.reread)
    (enough : (Utf8.encode (fieldChars fields)).length < steps)
    (reaches : ReachesFields first text fields rest) :
    members steps levels first text = .ok (rereadFields fields, rest) := by
  induction fields generalizing first steps text with
  | nil => exact absurd rfl some
  | cons field others ih =>
      obtain ⟨name, held⟩ := field
      have named : Plain name := plain _ List.mem_cons_self
      have length := length_fieldChars_cons named held others
      cases steps with
      | zero => cases enough
      | succ steps =>
          have yields : Yields (Utf8.encode held.chars) levels held.reread :=
            each _ List.mem_cons_self
          have short : (Utf8.encode held.chars).length < steps := by omega
          obtain ⟨tail, left, step⟩ := members_step named yields short reaches
          have behind : members steps levels false tail = .ok (rereadFields others, rest) := by
            cases others with
            | nil =>
                cases steps with
                | zero => omega
                | succ steps =>
                    rw [members, nextName, left]
                    rfl
            | cons other others =>
                have next : other :: others ≠ [] := List.cons_ne_nil other others
                rw [encode_moreFields next, List.length_cons] at length
                exact ih next (fun later present => plain later (List.mem_cons_of_mem _ present))
                  (fun later present => each later (List.mem_cons_of_mem _ present)) (by omega)
                  (reachesFields_more next left)
          rw [step, behind]
          rfl

theorem yields_object (plain : ∀ field ∈ fields, Plain field.1)
    (each : ∀ field ∈ fields, Yields (Utf8.encode field.2.chars) levels field.2.reread) :
    Yields (Utf8.encode (chars (.object fields))) (levels + 1)
      (ofMembers (rereadFields fields)) := by
  intro steps rest enough ends
  rw [encode_object, List.length_cons] at enough
  cases steps with
  | zero => cases enough
  | succ steps =>
      have inside : members steps levels true (Utf8.encode (fieldChars fields) ++ rest) =
          .ok (rereadFields fields, rest) := by
        cases fields with
        | nil =>
            cases steps with
            | zero => omega
            | succ steps => rfl
        | cons field others =>
            exact members_chars (List.cons_ne_nil field others) plain each (by omega)
              reachesFields_first
      refine ⟨rest, ?_, skipBlanks_of_ends ends⟩
      rw [encode_object, List.cons_append, value_object, inside]
      rfl

end Fields

theorem yields_null (levels : Nat) : Yields (Utf8.encode (chars .null)) levels .null := by
  have text : Utf8.encode (chars .null) = 110 :: [117, 108, 108] := by decide
  rw [text]
  exact yields_literal (by decide) rfl levels

/-- Legible values are read wherever they stand, as deep as their containers fit. -/
theorem yields_chars {written : Json} (legible : written.Legible) {levels : Nat}
    (fits : written.depth ≤ levels) :
    Yields (Utf8.encode written.chars) levels written.reread := by
  induction written using induct generalizing levels with
  | null => exact yields_null levels
  | bool value =>
      cases value with
      | false =>
          have text : Utf8.encode (chars (.bool false)) = 102 :: [97, 108, 115, 101] := by decide
          rw [text]
          exact yields_literal (by decide) rfl levels
      | true =>
          have text : Utf8.encode (chars (.bool true)) = 116 :: [114, 117, 101] := by decide
          rw [text]
          exact yields_literal (by decide) rfl levels
  | number value =>
      rcases number_cases legible with ⟨natural, rfl⟩ | ⟨text, same⟩ | ⟨read, alone, same⟩
      · exact yields_natural natural levels
      · rw [same, chars, text]
        exact yields_null levels
      · rw [same]
        exact yields_number alone levels
  | string text => exact yields_string legible levels
  | array items each =>
      rw [depth] at fits
      cases levels with
      | zero => cases fits
      | succ levels =>
          rw [reread]
          apply yields_array
          intro item present
          exact each item present (LegibleItems.of_mem legible present)
            (Nat.le_trans (depth_le_of_mem present) (Nat.le_of_succ_le_succ fits))
  | object fields each =>
      rw [depth] at fits
      cases levels with
      | zero => cases fits
      | succ levels =>
          rw [reread]
          apply yields_object fun field present => (LegibleFields.of_mem legible present).1
          intro field present
          exact each field present (LegibleFields.of_mem legible present).2
            (Nat.le_trans (depth_le_of_mem_fields present) (Nat.le_of_succ_le_succ fits))

end Scan

/-- A legible value that does not nest too deep is read back from its own text. -/
theorem read_chars {written : Json} (legible : written.Legible)
    (fits : written.depth ≤ Scan.mostLevels) :
    Json.read (Utf8.encode written.chars) = .ok written.reread := by
  have enough : (Utf8.encode written.chars).length <
      2 * (Utf8.encode written.chars).length + 1 := by omega
  obtain ⟨tail, found, blank⟩ := Scan.yields_chars legible fits _ [] enough nofun
  rw [List.append_nil] at found
  have finished : Scan.finish tail = .ok () := by
    rw [Scan.finish, blank]
  simp only [Json.read, Scan.document, bind, Except.bind, found, finished]
  rfl

end Json

end LightShow
