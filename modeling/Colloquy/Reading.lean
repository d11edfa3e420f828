/-! Readers take from the front and leave the rest. What is passed over makes the rest shorter or leaves it alone, and a
run of characters is read as far as it goes. A result that was changed on the way was read all the same: a reading
succeeds just if its parts do. -/
namespace Colloquy

theorem length_dropWhile_le (p : Char → Bool) (cs : List Char) : (cs.dropWhile p).length ≤ cs.length :=
  (List.dropWhile_sublist p).length_le

section Runs
variable {p : Char → Bool} {run after : List Char}

theorem takeWhile_inside (p : Char → Bool) (cs : List Char) : ∀ c ∈ cs.takeWhile p, p c = true :=
  List.all_eq_true.mp List.all_takeWhile

/-- The longest run of characters ends where the text goes on with another one. -/
theorem takeWhile_run (inside : ∀ c ∈ run, p c = true) (boundary : ∀ c, after.head? = some c → p c = false) :
    (run ++ after).takeWhile p = run := by
  rw [List.takeWhile_append_of_pos inside]
  cases after with
  | nil => simp
  | cons c rest => simp [boundary c rfl]

theorem dropWhile_run (inside : ∀ c ∈ run, p c = true) (boundary : ∀ c, after.head? = some c → p c = false) :
    (run ++ after).dropWhile p = after := by
  rw [List.dropWhile_append_of_pos inside]
  cases after with
  | nil => rfl
  | cons c rest => simp [boundary c rfl]

theorem head_dropWhile (p : Char → Bool) (cs : List Char) :
    ∀ c, (cs.dropWhile p).head? = some c → p c = false := by
  intro c head
  have stopped := List.head?_dropWhile_not p cs
  rw [head] at stopped
  simpa using stopped

end Runs

theorem eq_ok_of_map {ε α β : Type} {reading : Except ε α} {f : α → β} {result : β}
    (read : reading.map f = .ok result) : ∃ found, reading = .ok found ∧ f found = result := by
  cases reading with
  | error failure => simp [Except.map] at read
  | ok found => exact ⟨found, rfl, by simpa [Except.map] using read⟩

theorem eq_error_of_map {ε α β : Type} {reading : Except ε α} {f : α → β} {failure : ε}
    (refused : reading.map f = .error failure) : reading = .error failure := by
  cases reading with
  | error other => simpa [Except.map] using refused
  | ok found => cases refused

theorem eq_ok_of_bind {ε α β : Type} {reading : Except ε α} {next : α → Except ε β} {result : β}
    (read : reading.bind next = .ok result) : ∃ found, reading = .ok found ∧ next found = .ok result := by
  cases reading with
  | error failure => cases read
  | ok found => exact ⟨found, rfl, read⟩

theorem eq_error_of_bind {ε α β : Type} {reading : Except ε α} {next : α → Except ε β} {failure : ε}
    (refused : reading.bind next = .error failure) :
    reading = .error failure ∨ ∃ found, reading = .ok found ∧ next found = .error failure := by
  cases reading with
  | error other =>
    cases refused
    exact .inl rfl
  | ok found => exact .inr ⟨found, rfl, refused⟩

/-- Errors may be told in other words; what is read stays as it is. -/
theorem mapError_eq_ok {ε φ α : Type} {reading : Except ε α} {f : ε → φ} {result : α} :
    reading.mapError f = .ok result ↔ reading = .ok result := by
  cases reading with
  | error failure =>
    constructor
    · rintro ⟨⟩
    · rintro ⟨⟩
  | ok found =>
    constructor
    · rintro ⟨⟩
      rfl
    · rintro ⟨⟩
      rfl

theorem mapError_eq_error {ε φ α : Type} {reading : Except ε α} {f : ε → φ} {failure : φ} :
    reading.mapError f = .error failure ↔ ∃ cause, reading = .error cause ∧ f cause = failure := by
  cases reading with
  | error cause =>
    constructor
    · rintro ⟨⟩
      exact ⟨cause, rfl, rfl⟩
    · rintro ⟨other, ⟨⟩, rfl⟩
      rfl
  | ok found =>
    constructor
    · rintro ⟨⟩
    · rintro ⟨cause, ⟨⟩, -⟩

theorem isOk_iff {ε α : Type} {reading : Except ε α} : reading.isOk = true ↔ ∃ result, reading = .ok result := by
  cases reading with
  | error failure => simp [Except.isOk, Except.toBool]
  | ok result => simp [Except.isOk, Except.toBool]

@[simp] theorem isOk_ok {ε α : Type} (result : α) : (.ok result : Except ε α).isOk = true := rfl

@[simp] theorem isOk_error {ε α : Type} (failure : ε) : (.error failure : Except ε α).isOk = false := rfl

@[simp] theorem isOk_map {ε α β : Type} (reading : Except ε α) (f : α → β) : (reading.map f).isOk = reading.isOk := by
  cases reading <;> rfl

@[simp] theorem isOk_mapError {ε φ α : Type} (reading : Except ε α) (f : ε → φ) :
    (reading.mapError f).isOk = reading.isOk := by
  cases reading <;> rfl

theorem isOk_bind {ε α β : Type} {reading : Except ε α} {next : α → Except ε β} :
    (reading.bind next).isOk = true ↔ ∃ found, reading = .ok found ∧ (next found).isOk = true := by
  cases reading with
  | error failure => simp [Except.bind]
  | ok found => simp [Except.bind]

end Colloquy
