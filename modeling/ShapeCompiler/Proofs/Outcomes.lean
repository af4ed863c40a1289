import Mathlib.Data.List.Forall2

/-! How computations end. -/

namespace ShapeCompiler.Outcomes

theorem bind_eq_ok {ε α β : Type} {first : Except ε α} {next : α → Except ε β} {result : β} :
    (first >>= next) = .ok result ↔ ∃ found, first = .ok found ∧ next found = .ok result := by
  cases first with
  | error fault => simp [Bind.bind, Except.bind]
  | ok found => simp [Bind.bind, Except.bind]

theorem map_eq_ok {ε α β : Type} {first : Except ε α} {change : α → β} {result : β} :
    first.map change = .ok result ↔ ∃ found, first = .ok found ∧ change found = result := by
  cases first with
  | error fault => simp [Except.map]
  | ok found => simp [Except.map]

theorem mapError_eq_ok {ε δ α : Type} {outcome : Except ε α} {change : ε → δ} {result : α} :
    outcome.mapError change = .ok result ↔ outcome = .ok result := by
  cases outcome with
  | error fault => simp [Except.mapError]
  | ok found => simp [Except.mapError]

theorem mapM_eq_ok {ε α β : Type} {step : α → Except ε β} {items : List α} :
    ∀ {results : List β}, items.mapM step = .ok results ↔
      List.Forall₂ (fun item result => step item = .ok result) items results := by
  induction items with
  | nil =>
      intro results
      rw [List.mapM_nil, List.forall₂_nil_left_iff]
      constructor
      · intro same
        exact (Except.ok.inj same).symm
      · intro same
        exact congrArg Except.ok same.symm
  | cons item items ih =>
      intro results
      simp only [List.mapM_cons, bind_eq_ok, List.forall₂_cons_left_iff, ih]
      constructor
      · rintro ⟨first, made, rest, others, same⟩
        exact ⟨first, rest, made, others, (Except.ok.inj same).symm⟩
      · rintro ⟨first, rest, made, others, rfl⟩
        exact ⟨first, made, rest, others, rfl⟩

theorem bind_eq_error {ε α β : Type} {first : Except ε α} {next : α → Except ε β} {fault : ε} :
    (first >>= next) = .error fault ↔
      first = .error fault ∨ ∃ found, first = .ok found ∧ next found = .error fault := by
  cases first with
  | error other => simp [Bind.bind, Except.bind]
  | ok found => simp [Bind.bind, Except.bind]

def FailsOnly {ε α : Type} (allowed : ε → Prop) (outcome : Except ε α) : Prop :=
  ∀ fault, outcome = .error fault → allowed fault

theorem failsOnly_ok {ε α : Type} (allowed : ε → Prop) (result : α) :
    FailsOnly allowed (.ok result) := by
  intro fault fails
  cases fails

theorem failsOnly_error {ε α : Type} {allowed : ε → Prop} {fault : ε} (holds : allowed fault) :
    FailsOnly allowed (.error fault : Except ε α) := by
  intro other fails
  cases fails
  exact holds

theorem FailsOnly.bind {ε α β : Type} {allowed : ε → Prop} {first : Except ε α}
    {next : α → Except ε β} (start : FailsOnly allowed first)
    (further : ∀ found, first = .ok found → FailsOnly allowed (next found)) :
    FailsOnly allowed (first >>= next) := by
  intro fault fails
  rcases bind_eq_error.mp fails with early | ⟨found, succeeds, late⟩
  · exact start fault early
  · exact further found succeeds fault late

theorem FailsOnly.map {ε α β : Type} {allowed : ε → Prop} {first : Except ε α} (change : α → β)
    (start : FailsOnly allowed first) : FailsOnly allowed (first.map change) := by
  cases first with
  | ok found => exact failsOnly_ok allowed (change found)
  | error fault => exact failsOnly_error (start fault rfl)

theorem exists_ok_of_looked {ε α β : Type} {outcome : Except ε α} {look : α → β} {seen : β}
    (looked : outcome.toOption.map look = some seen) :
    ∃ result, outcome = .ok result ∧ look result = seen := by
  obtain ⟨result, kept, same⟩ := Option.map_eq_some_iff.mp looked
  cases outcome with
  | error fault => cases kept
  | ok found => exact ⟨result, congrArg Except.ok (Option.some.inj kept), same⟩

theorem exists_mem_of_looked {ε α β γ : Type} {outcome : Except ε α} {listed : α → List β}
    {look : α → β → γ} {first : γ} {others : List γ}
    (looked : outcome.toOption.map (fun result => (listed result).map (look result)) =
      some (first :: others)) :
    ∃ result, outcome = .ok result ∧ ∃ item ∈ listed result, look result item = first := by
  obtain ⟨result, succeeds, seen⟩ := exists_ok_of_looked looked
  exact ⟨result, succeeds, List.mem_map.mp (seen ▸ List.mem_cons_self)⟩

/-- Both computations fail, with whatever faults, or both succeed with results that are related. -/
inductive Alike {ε α β : Type} (related : α → β → Prop) : Except ε α → Except ε β → Prop where
  | error (left right : ε) : Alike related (.error left) (.error right)
  | ok {left : α} {right : β} (results : related left right) : Alike related (.ok left) (.ok right)

theorem Alike.bind {ε α β γ δ : Type} {related : α → β → Prop} {afterwards : γ → δ → Prop}
    {first : Except ε α} {second : Except ε β} {next : α → Except ε γ} {other : β → Except ε δ}
    (starts : Alike related first second)
    (goes : ∀ left right, related left right → Alike afterwards (next left) (other right)) :
    Alike afterwards (first >>= next) (second >>= other) := by
  cases starts with
  | error left right => exact .error left right
  | ok results => exact goes _ _ results

theorem Alike.map {ε α β γ δ : Type} {related : α → β → Prop} {afterwards : γ → δ → Prop}
    {first : Except ε α} {second : Except ε β} {change : α → γ} {other : β → δ}
    (starts : Alike related first second)
    (goes : ∀ left right, related left right → afterwards (change left) (other right)) :
    Alike afterwards (first.map change) (second.map other) := by
  cases starts with
  | error left right => exact .error left right
  | ok results => exact .ok (goes _ _ results)

theorem alike_of_map_eq {ε α β : Type} {first second : Except ε α} {change : α → β}
    (same : first.map change = second.map change) :
    Alike (fun left right => change left = change right) first second := by
  cases first with
  | error fault =>
      cases second with
      | error other => exact .error fault other
      | ok result => cases same
  | ok found =>
      cases second with
      | error fault => cases same
      | ok result => exact .ok (Except.ok.inj same)

theorem Alike.ok_iff {ε α : Type} {first second : Except ε α} (alike : Alike Eq first second)
    (result : α) : first = .ok result ↔ second = .ok result := by
  cases alike with
  | error => simp
  | ok results => rw [results]

theorem Alike.exists_ok_iff {ε α β : Type} {related : α → β → Prop} {first : Except ε α}
    {second : Except ε β} (alike : Alike related first second) :
    (∃ result, first = .ok result) ↔ ∃ result, second = .ok result := by
  cases alike with
  | error => simp
  | ok => simp

end ShapeCompiler.Outcomes
