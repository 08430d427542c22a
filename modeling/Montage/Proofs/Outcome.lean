/-!
# Outcomes of steps

What a step that can fail has done when a sequence of steps succeeds. Routes
and validators are sequences of such steps, and their proofs take them apart
with the lemmas of this module.
-/

namespace Montage

variable {ε ε' α β γ : Type}

/-- A sequence succeeds just when its first step does and the rest succeeds
on what came out of it. -/
theorem bind_ok_iff {first : Except ε α} {rest : α → Except ε β} {result : β} :
    (first >>= rest) = .ok result ↔ ∃ value, first = .ok value ∧ rest value = .ok result := by
  cases first with
  | error fault => simp [bind, Except.bind]
  | ok value => simp [bind, Except.bind]

/-- What is computed to succeed has a result. -/
theorem exists_ok_of_isOk {step : Except ε α} (succeeds : step.isOk = true) :
    ∃ result, step = .ok result := by
  cases step with
  | error fault => exact absurd succeeds Bool.noConfusion
  | ok result => exact ⟨result, rfl⟩

/-- What is computed to be the result is the result. -/
theorem ok_of_toOption {step : Except ε α} {result : α} (computed : step.toOption = some result) :
    step = .ok result := by
  cases step with
  | error fault => cases computed
  | ok value => rw [Option.some.inj computed]

theorem mapError_ok_iff {step : Except ε α} {f : ε → ε'} {result : α} :
    step.mapError f = .ok result ↔ step = .ok result := by
  cases step with
  | error fault =>
      show (Except.error (f fault) : Except ε' α) = .ok result ↔ _
      simp only [reduceCtorEq]
  | ok value =>
      show (Except.ok value : Except ε' α) = .ok result ↔ _
      simp only [Except.ok.injEq]

theorem map_ok_iff {step : Except ε α} {f : α → β} {result : β} :
    step.map f = .ok result ↔ ∃ value, step = .ok value ∧ f value = result := by
  cases step <;> simp [Except.map]

/-- What is done to the result of a sequence is done to that of its last step. -/
theorem map_bind (first : Except ε α) (rest : α → Except ε β) (f : β → γ) :
    (first >>= rest).map f = first >>= fun value => (rest value).map f := by
  cases first <;> rfl

/-! ## Steps over lists -/

/-- If each step succeeds on a condition with a known value, so do all of
them. -/
theorem mapM_ok_iff {f : α → Except ε β} {holds : α → Prop} {g : α → β} {items : List α}
    (each : ∀ item value, f item = .ok value ↔ holds item ∧ value = g item) {values : List β} :
    items.mapM f = .ok values ↔ (∀ item ∈ items, holds item) ∧ values = items.map g := by
  induction items generalizing values with
  | nil => simp [pure, Except.pure, eq_comm]
  | cons item rest ih =>
      rw [List.mapM_cons, bind_ok_iff, List.forall_mem_cons]
      constructor
      · rintro ⟨value, first, remaining⟩
        obtain ⟨others, tail, last⟩ := bind_ok_iff.mp remaining
        obtain ⟨here, rfl⟩ := (each item value).mp first
        obtain ⟨there, rfl⟩ := ih.mp tail
        cases last
        exact ⟨⟨here, there⟩, rfl⟩
      · rintro ⟨⟨here, there⟩, rfl⟩
        refine ⟨g item, (each item _).mpr ⟨here, rfl⟩, ?_⟩
        exact bind_ok_iff.mpr ⟨rest.map g, ih.mpr ⟨there, rfl⟩, rfl⟩

/-- The first step that fails decides the fault. -/
theorem mapM_error_of_first {f : α → Except ε β} {earlier later : List α} {item : α} {fault : ε}
    (before : ∀ other ∈ earlier, ∃ value, f other = .ok value) (fails : f item = .error fault) :
    (earlier ++ item :: later).mapM f = .error fault := by
  induction earlier with
  | nil =>
      rw [List.nil_append, List.mapM_cons, fails]
      rfl
  | cons other rest ih =>
      rw [List.forall_mem_cons] at before
      obtain ⟨⟨value, succeeds⟩, others⟩ := before
      rw [List.cons_append, List.mapM_cons, succeeds]
      show (do let values ← (rest ++ item :: later).mapM f; pure (value :: values)) = _
      rw [ih others]
      rfl

/-- Either each step succeeds, or one of them is the first to fail. -/
theorem all_ok_or_first_error (f : α → Except ε β) (items : List α) :
    (∀ item ∈ items, ∃ value, f item = .ok value) ∨
      ∃ earlier item later fault, items = earlier ++ item :: later ∧
        (∀ other ∈ earlier, ∃ value, f other = .ok value) ∧ f item = .error fault := by
  induction items with
  | nil => exact .inl (by simp)
  | cons item rest ih =>
      cases here : f item with
      | error fault => exact .inr ⟨[], item, rest, fault, rfl, by simp, here⟩
      | ok value =>
          rcases ih with all | ⟨earlier, first, later, fault, rfl, before, fails⟩
          · exact .inl (List.forall_mem_cons.mpr ⟨⟨value, here⟩, all⟩)
          · exact .inr ⟨item :: earlier, first, later, fault, rfl,
              List.forall_mem_cons.mpr ⟨⟨value, here⟩, before⟩, fails⟩

/-! ## Steps that fail -/

/-- A step that fails, if it does, with faults of one kind. -/
structure FailsOnly (kind : ε → Prop) (step : Except ε α) : Prop where
  fault : ∀ fault, step = .error fault → kind fault

namespace FailsOnly

variable {kind : ε → Prop} {step : Except ε α}

theorem ok (value : α) : FailsOnly kind (.ok value : Except ε α) where
  fault := by
    intro fault failed
    cases failed

theorem error {fault : ε} (is : kind fault) : FailsOnly kind (.error fault : Except ε α) where
  fault := by
    intro other failed
    cases failed
    exact is

theorem bind {rest : α → Except ε β} (first : FailsOnly kind step)
    (next : ∀ value, FailsOnly kind (rest value)) : FailsOnly kind (step >>= rest) where
  fault := by
    intro fault failed
    cases step with
    | error other =>
        cases failed
        exact first.fault fault rfl
    | ok value => exact (next value).fault fault failed

theorem mapError {step : Except ε' α} {f : ε' → ε} (each : ∀ fault, kind (f fault)) :
    FailsOnly kind (step.mapError f) := by
  cases step with
  | error fault => exact error (each fault)
  | ok value => exact ok value

theorem mapM {f : α → Except ε β} {items : List α}
    (each : ∀ item, FailsOnly kind (f item)) : FailsOnly kind (items.mapM f) := by
  induction items with
  | nil => exact ok []
  | cons item rest ih =>
      rw [List.mapM_cons]
      exact (each item).bind fun value => ih.bind fun values => ok (value :: values)

theorem foldlM {f : β → α → Except ε β} {items : List α} {start : β}
    (each : ∀ state item, FailsOnly kind (f state item)) :
    FailsOnly kind (items.foldlM f start) := by
  induction items generalizing start with
  | nil => exact ok start
  | cons item rest ih =>
      rw [List.foldlM_cons]
      exact (each start item).bind fun _ => ih

end FailsOnly

end Montage
