import LightShow.Text.Base64

/-! Symbols and their groups. Each value has a symbol of its own, four symbols stand for three
octets, and a last group that is filled up leaves none of its bits free. So a text is read as some
octets if and only if it is the text in which these octets are written. -/

namespace LightShow

theorem bind_eq_ok {Cause Source Target : Type} {first : Except Cause Source}
    {next : Source → Except Cause Target} {target : Target} :
    first >>= next = .ok target ↔ ∃ source, first = .ok source ∧ next source = .ok target := by
  cases first <;> simp [bind, Except.bind]

namespace Base64

theorem value?_symbol {value : Nat} (small : value < 64) : value? (symbol value) = some value := by
  have each : ∀ value < 64, value? (symbol value) = some value := by decide
  exact each value small

theorem value?_eq_some_iff {octet : UInt8} {value : Nat} :
    value? octet = some value ↔ value < 64 ∧ octet = symbol value := by
  constructor
  · intro found
    have code := octet.toNat_lt
    unfold value? at found
    rw [symbol, ← UInt8.toNat_inj, UInt8.toNat_ofNat']
    dsimp only at found
    repeat' split at found
    all_goals grind
  · intro known
    obtain ⟨small, rfl⟩ := known
    exact value?_symbol small

theorem value?_filler : value? filler = none := rfl

theorem symbol_ne_filler {value : Nat} (small : value < 64) : symbol value ≠ filler := by
  intro same
  have known := value?_symbol small
  rw [same, value?_filler] at known
  cases known

theorem digit_eq_ok_iff {offset value : Nat} {octet : UInt8} :
    digit offset octet = .ok value ↔ value < 64 ∧ octet = symbol value := by
  rw [← value?_eq_some_iff, digit]
  cases value? octet <;> simp

/-- Texts and the octets they stand for, group by group. The bits of a last group that do not fill
an octet are zero. -/
inductive Grouped : (text octets : List UInt8) → Prop
  | nothing : Grouped [] []
  | pair {first second : Nat} (one : first < 64) (two : second < 64) (zeros : second % 16 = 0) :
      Grouped [symbol first, symbol second, filler, filler]
        [UInt8.ofNat ((first * 64 + second) / 16)]
  | triple {first second third word : Nat} (one : first < 64) (two : second < 64)
      (three : third < 64) (zeros : third % 4 = 0)
      (joined : word = ((first * 64 + second) * 64 + third) / 4) :
      Grouped [symbol first, symbol second, symbol third, filler]
        [UInt8.ofNat (word / 256), UInt8.ofNat (word % 256)]
  | group {first second third fourth word : Nat} {text octets : List UInt8} (one : first < 64)
      (two : second < 64) (three : third < 64) (four : fourth < 64)
      (joined : word = ((first * 64 + second) * 64 + third) * 64 + fourth)
      (rest : Grouped text octets) :
      Grouped (symbol first :: symbol second :: symbol third :: symbol fourth :: text)
        (UInt8.ofNat (word / 65536) :: UInt8.ofNat (word / 256 % 256) ::
          UInt8.ofNat (word % 256) :: octets)

namespace Grouped

theorem length_mod_four {text octets : List UInt8} (groups : Grouped text octets) :
    text.length % 4 = 0 := by
  induction groups with
  | nothing => rfl
  | pair => exact Nat.mod_self 4
  | triple => exact Nat.mod_self 4
  | @group _ _ _ _ _ text _ _ _ _ _ _ _ ih => exact (Nat.add_mod_right text.length 4).trans ih

theorem encode_eq {text octets : List UInt8} (groups : Grouped text octets) :
    encode octets = text := by
  induction groups with
  | nothing => rfl
  | @pair first second one two zeros =>
      have whole : (first * 64 + second) / 16 % 256 * 16 = first * 64 + second := by omega
      have parts : (first * 64 + second) / 64 = first ∧ (first * 64 + second) % 64 = second := by
        omega
      simp only [encode, UInt8.toNat_ofNat', whole, parts]
  | @triple first second third word one two three zeros joined =>
      have whole : (word / 256 % 256 * 256 + word % 256 % 256) * 4 = word * 4 := by omega
      have parts : word * 4 / 4096 = first ∧ word * 4 / 64 % 64 = second ∧
          word * 4 % 64 = third := by omega
      simp only [encode, UInt8.toNat_ofNat', whole, parts]
  | @group first second third fourth word text octets one two three four joined rest ih =>
      have whole : (word / 65536 % 256 * 256 + word / 256 % 256 % 256) * 256 + word % 256 % 256 =
          word := by omega
      have parts : word / 262144 = first ∧ word / 4096 % 64 = second ∧ word / 64 % 64 = third ∧
          word % 64 = fourth := by omega
      simp only [encode, UInt8.toNat_ofNat', whole, parts, ih]

theorem exists_text (octets : List UInt8) : ∃ text, Grouped text octets := by
  induction octets using encode.induct with
  | case1 => exact ⟨[], nothing⟩
  | case2 a =>
      have first := a.toNat_lt
      have low : a.toNat % 4 * 16 % 16 = 0 := by omega
      have octet : UInt8.ofNat ((a.toNat / 4 * 64 + a.toNat % 4 * 16) / 16) = a := by
        rw [← UInt8.toNat_inj, UInt8.toNat_ofNat']
        omega
      rw [← octet]
      exact ⟨_, pair (by omega) (by omega) low⟩
  | case3 a b =>
      obtain ⟨word, whole⟩ : ∃ word, word = a.toNat * 256 + b.toNat := ⟨_, rfl⟩
      have first := a.toNat_lt
      have second := b.toNat_lt
      have octets : UInt8.ofNat (word / 256) = a ∧ UInt8.ofNat (word % 256) = b := by
        simp only [← UInt8.toNat_inj, UInt8.toNat_ofNat']
        omega
      have joined : word =
          ((word / 1024 * 64 + word / 16 % 64) * 64 + word % 16 * 4) / 4 := by omega
      rw [← octets.1, ← octets.2]
      exact ⟨_, triple (by omega) (by omega) (by omega) (by omega) joined⟩
  | case4 a b c rest ih =>
      obtain ⟨text, groups⟩ := ih
      obtain ⟨word, whole⟩ : ∃ word, word = (a.toNat * 256 + b.toNat) * 256 + c.toNat := ⟨_, rfl⟩
      have first := a.toNat_lt
      have second := b.toNat_lt
      have third := c.toNat_lt
      have octets : UInt8.ofNat (word / 65536) = a ∧ UInt8.ofNat (word / 256 % 256) = b ∧
          UInt8.ofNat (word % 256) = c := by
        simp only [← UInt8.toNat_inj, UInt8.toNat_ofNat']
        omega
      have joined : word = ((word / 262144 * 64 + word / 4096 % 64) * 64 + word / 64 % 64) * 64 +
          word % 64 := by omega
      rw [← octets.1, ← octets.2.1, ← octets.2.2]
      exact ⟨_, group (by omega) (by omega) (by omega) (by omega) joined groups⟩

end Grouped

/-- Octets have one text, whether it is cut from their bits or joined to them. -/
theorem grouped_iff {text octets : List UInt8} :
    Grouped text octets ↔ encode octets = text := by
  constructor
  · exact Grouped.encode_eq
  · intro written
    obtain ⟨other, groups⟩ := Grouped.exists_text octets
    rwa [← written, groups.encode_eq]

/-- Symbols as the last group is read: each with its value. -/
def told (values : List Nat) : List (UInt8 × Nat) := values.map fun value => (symbol value, value)

theorem lastGroup_symbols {values : List Nat} (small : ∀ value ∈ values, value < 64) (offset : Nat)
    (seen : List (UInt8 × Nat)) (rest : List UInt8) :
    lastGroup offset seen 0 (values.map symbol ++ rest) =
      lastGroup offset (seen ++ told values) 0 rest := by
  induction values generalizing seen with
  | nil => rw [told, List.map_nil, List.map_nil, List.nil_append, List.append_nil]
  | cons value values ih =>
      have here := small value List.mem_cons_self
      have behind := ih (fun other present => small other (List.mem_cons_of_mem value present))
        (seen ++ [(symbol value, value)])
      simp only [List.map_cons, List.cons_append, lastGroup, if_neg (symbol_ne_filler here),
        Nat.lt_irrefl, if_false, value?_symbol here, behind, told, List.append_assoc,
        List.nil_append]

theorem lastGroup_fillers {seen : List (UInt8 × Nat)} (enough : 2 ≤ seen.length)
    (offset fillers count : Nat) :
    lastGroup offset seen fillers (List.replicate count filler) = .ok (seen, fillers + count) := by
  induction count generalizing fillers with
  | zero => rfl
  | succ count ih =>
      have behind : ¬offset + seen.length + fillers < offset + 2 := by omega
      rw [List.replicate_succ, lastGroup, if_pos rfl, if_neg behind, ih, Nat.add_assoc,
        Nat.add_comm 1 count]

theorem lastGroup_told {values : List Nat} (small : ∀ value ∈ values, value < 64) (count : Nat)
    (enough : 2 ≤ values.length) (offset : Nat) :
    lastGroup offset [] 0 (values.map symbol ++ List.replicate count filler) =
      .ok (told values, count) := by
  rw [lastGroup_symbols small, List.nil_append, lastGroup_fillers, Nat.zero_add]
  rwa [told, List.length_map]

/-- A last group is read as its symbols, and behind a filler there are none. -/
theorem lastGroup_eq_ok {offset fillers count : Nat} {seen symbols : List (UInt8 × Nat)}
    {text : List UInt8} (read : lastGroup offset seen fillers text = .ok (symbols, count)) :
    ∃ values more, symbols = seen ++ told values ∧ count = fillers + more ∧
      text = values.map symbol ++ List.replicate more filler ∧
      (∀ value ∈ values, value < 64) ∧ (values = [] ∨ fillers = 0) := by
  fun_induction lastGroup offset seen fillers text with
  | case1 seen fillers =>
      cases read
      exact ⟨[], 0, by simp [told]⟩
  | case2 => cases read
  | case3 seen fillers rest here _ ih =>
      obtain ⟨values, more, rfl, rfl, rfl, -, none | none⟩ := ih read
      · refine ⟨[], more + 1, ?_⟩
        simp [told, none, List.replicate_succ, Nat.add_assoc, Nat.add_comm 1 more]
      · cases none
  | case4 => cases read
  | case5 => cases read
  | case6 seen fillers octet rest _ unfilled value found ih =>
      obtain ⟨small, rfl⟩ := value?_eq_some_iff.mp found
      obtain ⟨values, more, rfl, rfl, rfl, others, -⟩ := ih read
      refine ⟨value :: values, more, by simp [told], rfl, rfl, ?_, .inr (by omega)⟩
      exact List.forall_mem_cons.mpr ⟨small, others⟩

section LastGroup

variable {offset first second third fourth count : Nat} {text octets : List UInt8}
  {symbols : List (UInt8 × Nat)}

theorem decodeLast_pair (last : lastGroup offset [] 0 text = .ok (told [first, second], 2)) :
    decodeLast offset text =
      if second % 16 = 0 then .ok [UInt8.ofNat ((first * 64 + second) / 16)]
      else .error (.lastSymbol (symbol second) (offset + 1)) := by
  cases text with
  | nil => cases last
  | cons octet rest =>
      rw [decodeLast, last]
      simp [told, bind, Except.bind, throw, throwThe, MonadExceptOf.throw, pure, Except.pure]

theorem decodeLast_triple {word : Nat} (joined : word = ((first * 64 + second) * 64 + third) / 4)
    (last : lastGroup offset [] 0 text = .ok (told [first, second, third], 1)) :
    decodeLast offset text =
      if third % 4 = 0 then .ok [UInt8.ofNat (word / 256), UInt8.ofNat (word % 256)]
      else .error (.lastSymbol (symbol third) (offset + 2)) := by
  cases text with
  | nil => cases last
  | cons octet rest =>
      rw [decodeLast, last, joined]
      simp [told, bind, Except.bind, throw, throwThe, MonadExceptOf.throw, pure, Except.pure]

theorem decodeLast_group {word : Nat}
    (joined : word = ((first * 64 + second) * 64 + third) * 64 + fourth)
    (last : lastGroup offset [] 0 text = .ok (told [first, second, third, fourth], 0)) :
    decodeLast offset text =
      .ok [UInt8.ofNat (word / 65536), UInt8.ofNat (word / 256 % 256),
        UInt8.ofNat (word % 256)] := by
  cases text with
  | nil => cases last
  | cons octet rest =>
      rw [decodeLast, last, joined]
      simp [told, bind, Except.bind, pure, Except.pure]

theorem decodeLast_of_grouped (groups : Grouped text octets) (short : text.length ≤ 4) :
    decodeLast offset text = .ok octets := by
  cases groups with
  | nothing => rfl
  | @pair first second one two zeros =>
      have small : ∀ value ∈ [first, second], value < 64 := by simp [one, two]
      have last := lastGroup_told small 2 (by simp) offset
      exact (decodeLast_pair last).trans (if_pos zeros)
  | @triple first second third word one two three zeros joined =>
      have small : ∀ value ∈ [first, second, third], value < 64 := by simp [one, two, three]
      have last := lastGroup_told small 1 (by simp) offset
      exact (decodeLast_triple joined last).trans (if_pos zeros)
  | @group first second third fourth _ text _ one two three four joined rest =>
      have small : ∀ value ∈ [first, second, third, fourth], value < 64 := by
        simp [one, two, three, four]
      cases rest with
      | nothing => exact decodeLast_group joined (lastGroup_told small 0 (by simp) offset)
      | _ =>
          simp only [List.length_cons] at short
          omega

/-- A group that is read has at least two symbols and is filled up to a whole one. -/
theorem filled_of_decodeLast (last : lastGroup offset [] 0 text = .ok (symbols, count))
    (read : decodeLast offset text = .ok octets) :
    (text = [] ∧ octets = []) ∨ (2 ≤ symbols.length ∧ (symbols.length + count) % 4 = 0) := by
  rw [decodeLast, last] at read
  cases text with
  | nil =>
      cases read
      exact .inl ⟨rfl, rfl⟩
  | cons octet rest =>
      simp only [bind, Except.bind, List.isEmpty_cons, Bool.false_eq_true, if_false] at read
      split at read
      · cases read
      split at read
      · cases read
      · exact .inr ⟨by omega, by omega⟩

theorem grouped_of_decodeLast (short : text.length ≤ 4)
    (read : decodeLast offset text = .ok octets) : Grouped text octets := by
  cases last : lastGroup offset [] 0 text with
  | error fault =>
      rw [decodeLast, last] at read
      cases read
  | ok parts =>
      obtain ⟨symbols, count⟩ := parts
      obtain ⟨rfl, rfl⟩ | ⟨enough, whole⟩ := filled_of_decodeLast last read
      · exact .nothing
      obtain ⟨values, more, rfl, rfl, rfl, small, -⟩ := lastGroup_eq_ok last
      simp only [told, List.length_append, List.length_map, List.length_replicate,
        List.nil_append, Nat.zero_add] at short enough whole
      -- The number of symbols fixes that of the fillers, as one group has four places.
      obtain rfl : more = 4 - values.length := by omega
      match values with
      | [first, second] =>
          simp only [List.forall_mem_cons] at small
          rw [decodeLast_pair last] at read
          split at read
          · next zeros =>
              cases read
              exact .pair small.1 small.2.1 zeros
          · cases read
      | [first, second, third] =>
          simp only [List.forall_mem_cons] at small
          rw [decodeLast_triple rfl last] at read
          split at read
          · next zeros =>
              cases read
              exact .triple small.1 small.2.1 small.2.2.1 zeros rfl
          · cases read
      | [first, second, third, fourth] =>
          simp only [List.forall_mem_cons] at small
          rw [decodeLast_group rfl last] at read
          cases read
          exact .group small.1 small.2.1 small.2.2.1 small.2.2.2.1 rfl .nothing
      | [] | [_] | _ :: _ :: _ :: _ :: _ :: _ =>
          simp only [List.length_cons, List.length_nil] at short enough
          omega

end LastGroup

theorem decodeFrom_eq_ok_iff {offset : Nat} {text octets : List UInt8} :
    decodeFrom offset text = .ok octets ↔ Grouped text octets := by
  fun_induction decodeFrom offset text generalizing octets with
  | case1 offset a b c d e rest ih =>
      simp only [bind_eq_ok, digit_eq_ok_iff, ih, pure, Except.pure, Except.ok.injEq]
      constructor
      · rintro ⟨first, ⟨one, rfl⟩, second, ⟨two, rfl⟩, third, ⟨three, rfl⟩, fourth, ⟨four, rfl⟩,
          octets, behind, rfl⟩
        exact .group one two three four rfl behind
      · intro groups
        cases groups with
        | @group first second third fourth _ _ octets one two three four joined behind =>
            rw [joined]
            exact ⟨first, ⟨one, rfl⟩, second, ⟨two, rfl⟩, third, ⟨three, rfl⟩, fourth, ⟨four, rfl⟩,
              octets, behind, rfl⟩
  | case2 offset text few =>
      have short : text.length ≤ 4 := by
        match text, few with
        | [], _ | [_], _ | [_, _], _ | [_, _, _], _ | [_, _, _, _], _ => simp
        | _ :: _ :: _ :: _ :: _ :: _, few => exact absurd rfl (few _ _ _ _ _ _)
      exact ⟨grouped_of_decodeLast short, fun groups => decodeLast_of_grouped groups short⟩

theorem strayEnd?_eq_none {octets : List UInt8} (whole : octets.length % 4 = 0) :
    strayEnd? octets = none := by
  rw [strayEnd?, if_neg (by omega)]

/-- The text of some octets is read as these octets, and no other text is. -/
theorem decode_eq_ok_iff {text octets : List UInt8} :
    decode text = .ok octets ↔ encode octets = text := by
  rw [← grouped_iff]
  constructor
  · intro read
    unfold decode at read
    split at read
    · cases read
    · exact decodeFrom_eq_ok_iff.mp read
  · intro groups
    rw [decode, strayEnd?_eq_none groups.length_mod_four]
    exact decodeFrom_eq_ok_iff.mpr groups

end Base64

end LightShow
