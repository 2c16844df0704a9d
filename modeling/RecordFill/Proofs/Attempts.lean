namespace RecordFill

/-- Items that are all decoded as what they encode are decoded together. -/
theorem mapM_map_of_inverse {α β : Type} {encode : α → β} {decode : β → Option α}
    (inverse : ∀ item, decode (encode item) = some item) (items : List α) :
    (items.map encode).mapM decode = some items := by
  have same : decode ∘ encode = fun item => pure (id item) := by
    funext item
    exact inverse item
  rw [List.mapM_map, same, List.mapM_pure, List.map_id]
  rfl

section Attempts

variable {α β ε : Type} {attempt : α → Except ε β}

theorem bind_eq_ok_iff {first : Except ε α} {value : β} :
    first >>= attempt = .ok value ↔ ∃ between, first = .ok between ∧ attempt between = .ok value := by
  cases first with
  | error failure =>
    constructor
    · intro fails
      contradiction
    · rintro ⟨between, succeeds, -⟩
      contradiction
  | ok between =>
    constructor
    · intro succeeds
      exact ⟨between, rfl, succeeds⟩
    · rintro ⟨other, same, succeeds⟩
      rwa [← Except.ok.inj same] at succeeds

theorem bind_eq_error_iff {first : Except ε α} {failure : ε} :
    first >>= attempt = .error failure ↔
      first = .error failure ∨ ∃ between, first = .ok between ∧ attempt between = .error failure := by
  cases first with
  | error other =>
    constructor
    · intro fails
      exact .inl (congrArg Except.error (Except.error.inj fails))
    · rintro (fails | ⟨between, succeeds, -⟩)
      · exact congrArg Except.error (Except.error.inj fails)
      · contradiction
  | ok between =>
    constructor
    · intro fails
      exact .inr ⟨between, rfl, fails⟩
    · rintro (fails | ⟨other, same, fails⟩)
      · contradiction
      · rwa [← Except.ok.inj same] at fails

theorem map_eq_ok_iff {first : Except ε α} {next : α → β} {value : β} :
    first.map next = .ok value ↔ ∃ between, first = .ok between ∧ next between = value := by
  cases first with
  | error failure =>
    constructor
    · intro fails
      contradiction
    · rintro ⟨between, succeeds, -⟩
      contradiction
  | ok between =>
    constructor
    · intro succeeds
      exact ⟨between, rfl, Except.ok.inj succeeds⟩
    · rintro ⟨other, same, rfl⟩
      rw [Except.ok.inj same]
      rfl

theorem map_eq_error_iff {first : Except ε α} {next : α → β} {failure : ε} :
    first.map next = .error failure ↔ first = .error failure := by
  cases first with
  | error other =>
    constructor
    · intro same
      rw [Except.error.inj same]
    · intro same
      rw [Except.error.inj same]
      rfl
  | ok value =>
    constructor
    · intro same
      contradiction
    · intro same
      contradiction

theorem mapError_eq_ok_iff {ε' : Type} {first : Except ε α} {wrap : ε → ε'} {value : α} :
    first.mapError wrap = .ok value ↔ first = .ok value := by
  cases first with
  | error inner =>
    constructor
    · intro same
      contradiction
    · intro same
      contradiction
  | ok other =>
    constructor
    · intro same
      exact congrArg Except.ok (Except.ok.inj same)
    · intro same
      rw [Except.ok.inj same]
      rfl

theorem mapError_eq_error_iff {ε' : Type} {first : Except ε α} {wrap : ε → ε'} {failure : ε'} :
    first.mapError wrap = .error failure ↔ ∃ inner, first = .error inner ∧ wrap inner = failure := by
  cases first with
  | error inner =>
    constructor
    · intro same
      exact ⟨inner, rfl, Except.error.inj same⟩
    · rintro ⟨other, same, rfl⟩
      rw [Except.error.inj same]
      rfl
  | ok value =>
    constructor
    · intro same
      contradiction
    · rintro ⟨inner, same, -⟩
      contradiction

theorem foldlM_cons_eq_ok_iff {step : β → α → Except ε β} {first : α} {items : List α} {value last : β} :
    (first :: items).foldlM step value = .ok last ↔
      ∃ between, step value first = .ok between ∧ items.foldlM step between = .ok last := by
  rw [List.foldlM_cons, bind_eq_ok_iff]

theorem mapM_cons_of_error {first : α} {failure : ε} (fails : attempt first = .error failure) (items : List α) :
    (first :: items).mapM attempt = .error failure := by
  rw [List.mapM_cons, fails]
  rfl

theorem mapM_cons_of_ok {first : α} {value : β} (succeeds : attempt first = .ok value) (items : List α) :
    (first :: items).mapM attempt = (items.mapM attempt).map (value :: ·) := by
  rw [List.mapM_cons, succeeds]
  cases items.mapM attempt <;> rfl

/-- All attempts succeed with the results that each of them has. -/
theorem mapM_eq_ok_iff {items : List α} {results : List β} :
    items.mapM attempt = .ok results ↔ items.map attempt = results.map .ok := by
  induction items generalizing results with
  | nil => cases results <;> simp [pure, Except.pure]
  | cons first items step =>
    rw [List.map_cons]
    cases result : attempt first with
    | error failure =>
      rw [mapM_cons_of_error result]
      cases results <;> simp
    | ok value =>
      rw [mapM_cons_of_ok result]
      rw [map_eq_ok_iff]
      cases results with
      | nil => simp
      | cons other results =>
        rw [List.map_cons, List.cons.injEq, ← step]
        constructor
        · rintro ⟨others, succeed, same⟩
          obtain ⟨rfl, rfl⟩ := List.cons.inj same
          exact ⟨rfl, succeed⟩
        · rintro ⟨same, succeed⟩
          obtain rfl := Except.ok.inj same
          exact ⟨results, succeed, rfl⟩

/-- Attempts fail with the first one that fails. -/
theorem mapM_eq_error_iff {items : List α} {failure : ε} :
    items.mapM attempt = .error failure ↔
      ∃ earlier item later, items = earlier ++ item :: later ∧
        (∀ before ∈ earlier, ∃ value, attempt before = .ok value) ∧ attempt item = .error failure := by
  induction items with
  | nil => simp [pure, Except.pure]
  | cons first items step =>
    cases result : attempt first with
    | error failure' =>
      rw [mapM_cons_of_error result]
      constructor
      · intro fails
        obtain rfl := Except.error.inj fails
        exact ⟨[], first, items, rfl, by simp, result⟩
      · rintro ⟨earlier, item, later, same, succeed, fails⟩
        cases earlier with
        | nil =>
          obtain ⟨rfl, -⟩ := List.cons.inj same
          rw [Except.error.inj (result.symm.trans fails)]
        | cons before earlier =>
          obtain ⟨rfl, -⟩ := List.cons.inj same
          obtain ⟨value, succeeds⟩ := succeed first List.mem_cons_self
          exact absurd (result.symm.trans succeeds) (by simp)
    | ok value =>
      rw [mapM_cons_of_ok result, map_eq_error_iff, step]
      constructor
      · rintro ⟨earlier, item, later, rfl, succeed, fails⟩
        exact ⟨first :: earlier, item, later, rfl, List.forall_mem_cons.mpr ⟨⟨value, result⟩, succeed⟩, fails⟩
      · rintro ⟨earlier, item, later, same, succeed, fails⟩
        cases earlier with
        | nil =>
          obtain ⟨rfl, -⟩ := List.cons.inj same
          exact absurd (result.symm.trans fails) (by simp)
        | cons before earlier =>
          obtain ⟨rfl, rfl⟩ := List.cons.inj same
          exact ⟨earlier, item, later, rfl, (List.forall_mem_cons.mp succeed).2, fails⟩

end Attempts

end RecordFill
