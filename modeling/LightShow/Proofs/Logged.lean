/-! Values with notes. A logged computation always has a value, and goes on whatever happens; what
happens on the way is noted in its order. Where notes tell of failures, it has a result if nothing
was noted. -/

namespace LightShow

structure Logged (Note Result : Type) where
  value : Result
  notes : List Note

namespace Logged

variable {Note Other Item Result Next : Type}

instance : Monad (Logged Note) where
  pure value := ⟨value, []⟩
  bind first next := ⟨(next first.value).value, first.notes ++ (next first.value).notes⟩

instance : LawfulMonad (Logged Note) :=
  .mk' (Logged Note) (fun logged => congrArg (mk logged.value) (List.append_nil _))
    (fun _ _ => rfl) fun first _ _ => congrArg (mk _) (List.append_assoc first.notes ..)

/-- One note. -/
def note (note : Note) : Logged Note Unit := ⟨(), [note]⟩

/-- A value, noted unless all is well with it. -/
def checked (well : Prop) [Decidable well] (note : Note) (value : Result) : Logged Note Result :=
  ⟨value, if well then [] else [note]⟩

/-- One result for every item, in their order. -/
def each (items : List Item) (act : Item → Logged Note Result) : Logged Note (List Result) :=
  ⟨items.map fun item => (act item).value, items.flatMap fun item => (act item).notes⟩

/-- The same with its notes taken for notes of another sort. -/
def relabel (label : Note → Other) (logged : Logged Note Result) : Logged Other Result :=
  ⟨logged.value, logged.notes.map label⟩

@[simp] theorem value_pure (value : Result) : (pure value : Logged Note Result).value = value := rfl

@[simp] theorem value_bind (first : Logged Note Result) (next : Result → Logged Note Next) :
    (first >>= next).value = (next first.value).value := rfl

@[simp] theorem value_map (change : Result → Next) (logged : Logged Note Result) :
    (change <$> logged).value = change logged.value := rfl

@[simp] theorem value_each (items : List Item) (act : Item → Logged Note Result) :
    (each items act).value = items.map fun item => (act item).value := rfl

@[simp] theorem notes_bind (first : Logged Note Result) (next : Result → Logged Note Next) :
    (first >>= next).notes = first.notes ++ (next first.value).notes := rfl

/-- Nothing was noted. -/
def Quiet (logged : Logged Note Result) : Prop := logged.notes = []

theorem quiet_checked {well : Prop} [Decidable well] {note : Note} {value : Result} :
    Quiet (checked well note value) ↔ well := by
  unfold Quiet checked
  split <;> simp [*]

theorem quiet_bind {first : Logged Note Result} {next : Result → Logged Note Next} :
    Quiet (first >>= next) ↔ Quiet first ∧ Quiet (next first.value) := List.append_eq_nil_iff

namespace Quiet

theorem pure (value : Result) : Quiet (Pure.pure value : Logged Note Result) := rfl

theorem bind {first : Logged Note Result} {next : Result → Logged Note Next} (quiet : Quiet first)
    (rest : Quiet (next first.value)) : Quiet (first >>= next) := quiet_bind.mpr ⟨quiet, rest⟩

theorem ite {choice : Prop} [Decidable choice] {first second : Logged Note Result}
    (chosen : choice → Quiet first) (other : ¬choice → Quiet second) :
    Quiet (if choice then first else second) := by
  split
  · next holds => exact chosen holds
  · next fails => exact other fails

theorem each {items : List Item} {act : Item → Logged Note Result}
    (quiet : ∀ item ∈ items, Quiet (act item)) : Quiet (Logged.each items act) :=
  List.flatMap_eq_nil_iff.mpr quiet

end Quiet

/-- The result of a computation, which it has if nothing was noted. -/
def result? (logged : Logged Note Result) : Option Result :=
  if logged.notes.isEmpty then some logged.value else none

theorem isSome_result? {logged : Logged Note Result} : logged.result?.isSome ↔ Quiet logged :=
  Option.isSome_ite.trans List.isEmpty_iff

theorem result?_eq_some_value {logged : Logged Note Result} (finished : logged.result?.isSome) :
    logged.result? = some logged.value := if_pos (Option.isSome_ite.mp finished)

theorem result?_pure (value : Result) :
    (pure value : Logged Note Result).result? = some value := rfl

theorem result?_checked (well : Prop) [Decidable well] (note : Note) (value : Result) :
    (checked well note value).result? = if well then some value else none := by
  unfold result? checked
  split <;> rfl

/-- What is done one after the other has a result if each part has one. -/
theorem result?_bind (first : Logged Note Result) (next : Result → Logged Note Next) :
    (first >>= next).result? = first.result?.bind fun value => (next value).result? := by
  obtain ⟨value, notes⟩ := first
  cases notes with
  | nil => rfl
  | cons note rest => rfl

theorem result?_each (items : List Item) (act : Item → Logged Note Result) :
    (each items act).result? = items.mapM fun item => (act item).result? := by
  induction items with
  | nil => rfl
  | cons item rest ih =>
      have parts : each (item :: rest) act =
          act item >>= fun first => each rest act >>= fun others => pure (first :: others) := by
        change Logged.mk _ _ = Logged.mk _ ((act item).notes ++ ((each rest act).notes ++ []))
        rw [List.append_nil]
        rfl
      simp only [parts, List.mapM_cons, result?_bind, result?_pure, ih]
      rfl

end Logged

end LightShow
