/-!
# Results that are a value or an error

Equations by which a result is taken apart: what must have happened for a mapped or a chained result
to be a value or an error.  A row of results fails as the first one of them that fails.
-/

namespace Except

variable {ε α β : Type} {x : Except ε α} {b : β} {e : ε}

theorem map_eq_ok_iff {f : α → β} : x.map f = .ok b ↔ ∃ a, x = .ok a ∧ f a = b := by
  cases x <;> simp [Except.map]

theorem map_eq_error_iff {f : α → β} : x.map f = .error e ↔ x = .error e := by
  cases x <;> simp [Except.map]

theorem bind_eq_ok_iff {f : α → Except ε β} : x.bind f = .ok b ↔ ∃ a, x = .ok a ∧ f a = .ok b := by
  cases x <;> simp [Except.bind]

theorem bind_eq_error_iff {f : α → Except ε β} :
    x.bind f = .error e ↔ x = .error e ∨ ∃ a, x = .ok a ∧ f a = .error e := by
  cases x <;> simp [Except.bind]

theorem mapError_eq_ok_iff {ε' : Type} {f : ε → ε'} {a : α} : x.mapError f = .ok a ↔ x = .ok a := by
  cases x with
  | error e => exact ⟨nofun, nofun⟩
  | ok b =>
      constructor
      · intro same
        rw [show b = a from Except.ok.inj same]
      · intro same
        rw [Except.ok.inj same]
        rfl

theorem mapError_eq_error_iff {ε' : Type} {f : ε → ε'} {e' : ε'} :
    x.mapError f = .error e' ↔ ∃ e, x = .error e ∧ f e = e' := by
  cases x with
  | error e =>
      constructor
      · intro same
        exact ⟨e, rfl, Except.error.inj same⟩
      · rintro ⟨_, ⟨⟩, rfl⟩
        rfl
  | ok a =>
      constructor
      · intro same
        cases same
      · rintro ⟨_, ⟨⟩, _⟩

/-- A result that is a value or an error as a condition holds or not. -/
theorem eq_ok_iff_of_decided {p : Prop} {a a' : α} (yes : p → x = .ok a) (no : ¬ p → x = .error e) :
    x = .ok a' ↔ p ∧ a' = a := by
  by_cases holds : p
  · simp [yes holds, holds, eq_comm]
  · simp [no holds, holds]

theorem eq_error_iff_of_decided {p : Prop} {a : α} {e' : ε} (yes : p → x = .ok a)
    (no : ¬ p → x = .error e) : x = .error e' ↔ ¬ p ∧ e' = e := by
  by_cases holds : p
  · simp [yes holds, holds]
  · simp [no holds, holds, eq_comm]

/-! ## Rows of results -/

section Rows

variable {σ : Type} {a : α} {rest row : List α} {f : α → Except ε β} {bs : List β}

theorem mapM_cons_eq_ok_iff :
    (a :: rest).mapM f = .ok bs ↔
      ∃ b later, f a = .ok b ∧ rest.mapM f = .ok later ∧ bs = b :: later := by
  rw [List.mapM_cons]
  constructor
  · intro computed
    obtain ⟨b, first, computed⟩ := bind_eq_ok_iff.1 computed
    obtain ⟨later, hlater, same⟩ := bind_eq_ok_iff.1 computed
    exact ⟨b, later, first, hlater, (Except.ok.inj same).symm⟩
  · rintro ⟨b, later, first, hlater, rfl⟩
    exact bind_eq_ok_iff.2 ⟨b, first, bind_eq_ok_iff.2 ⟨later, hlater, rfl⟩⟩

theorem mapM_cons_eq_error_iff :
    (a :: rest).mapM f = .error e ↔
      f a = .error e ∨ ∃ b, f a = .ok b ∧ rest.mapM f = .error e := by
  rw [List.mapM_cons]
  constructor
  · intro failed
    rcases bind_eq_error_iff.1 failed with first | ⟨b, first, failed⟩
    · exact Or.inl first
    · rcases bind_eq_error_iff.1 failed with later | ⟨_, _, contra⟩
      · exact Or.inr ⟨b, first, later⟩
      · cases contra
  · rintro (first | ⟨b, first, later⟩)
    · exact bind_eq_error_iff.2 (Or.inl first)
    · exact bind_eq_error_iff.2 (Or.inr ⟨b, first, bind_eq_error_iff.2 (Or.inl later)⟩)

theorem exists_mapM_iff : (∃ bs, row.mapM f = .ok bs) ↔ ∀ a ∈ row, ∃ b, f a = .ok b := by
  induction row with
  | nil => simp [pure, Except.pure]
  | cons a rest ih =>
      simp only [mapM_cons_eq_ok_iff, List.forall_mem_cons, ← ih]
      constructor
      · rintro ⟨_, b, later, first, hlater, -⟩
        exact ⟨⟨b, first⟩, later, hlater⟩
      · rintro ⟨⟨b, first⟩, later, hlater⟩
        exact ⟨_, b, later, first, hlater, rfl⟩

/-- A row of results fails as the first one of them that fails. -/
theorem mapM_eq_error_iff :
    row.mapM f = .error e ↔
      ∃ earlier a later, row = earlier ++ a :: later ∧ (∀ a' ∈ earlier, ∃ b, f a' = .ok b) ∧
        f a = .error e := by
  constructor
  · intro failed
    induction row with
    | nil => cases failed
    | cons a rest ih =>
        rcases mapM_cons_eq_error_iff.1 failed with first | ⟨b, first, failed⟩
        · exact ⟨[], a, rest, rfl, by simp, first⟩
        · obtain ⟨earlier, a', later, rfl, succeed, failed⟩ := ih failed
          exact ⟨a :: earlier, a', later, rfl, List.forall_mem_cons.2 ⟨⟨b, first⟩, succeed⟩, failed⟩
  · rintro ⟨earlier, a, later, rfl, succeed, failed⟩
    induction earlier with
    | nil => exact mapM_cons_eq_error_iff.2 (Or.inl failed)
    | cons a' earlier ih =>
        obtain ⟨⟨b, first⟩, succeed⟩ := List.forall_mem_cons.1 succeed
        exact mapM_cons_eq_error_iff.2 (Or.inr ⟨b, first, ih succeed⟩)

/-- A computation along a row fails at the first element that it cannot take. -/
theorem foldlM_eq_error_iff {g : σ → α → Except ε σ} {s : σ} :
    row.foldlM g s = .error e ↔
      ∃ earlier a later s', row = earlier ++ a :: later ∧ earlier.foldlM g s = .ok s' ∧
        g s' a = .error e := by
  constructor
  · intro failed
    induction row generalizing s with
    | nil => cases failed
    | cons a rest ih =>
        rw [List.foldlM_cons] at failed
        rcases bind_eq_error_iff.1 failed with first | ⟨s', taken, failed⟩
        · exact ⟨[], a, rest, s, rfl, rfl, first⟩
        · obtain ⟨earlier, a', later, s'', rfl, reached, failed⟩ := ih failed
          exact ⟨a :: earlier, a', later, s'', rfl, bind_eq_ok_iff.2 ⟨s', taken, reached⟩, failed⟩
  · rintro ⟨earlier, a, later, s', rfl, reached, failed⟩
    rw [List.foldlM_append]
    exact bind_eq_error_iff.2 (Or.inr ⟨s', reached, bind_eq_error_iff.2 (Or.inl failed)⟩)

end Rows

/-! ## What a result fails with -/

/-- Whatever the result fails with is as `P` says. -/
def FailsOnly (P : ε → Prop) (x : Except ε α) : Prop :=
  ∀ e, x = .error e → P e

variable {P : ε → Prop}

theorem failsOnly_ok (a : α) : (.ok a : Except ε α).FailsOnly P :=
  nofun

theorem failsOnly_error (he : P e) : (.error e : Except ε α).FailsOnly P := by
  rintro _ ⟨⟩
  exact he

theorem FailsOnly.map (hx : x.FailsOnly P) (f : α → β) : (x.map f).FailsOnly P :=
  fun e failed => hx e (map_eq_error_iff.1 failed)

theorem FailsOnly.bind {f : α → Except ε β} (hx : x.FailsOnly P) (hf : ∀ a, (f a).FailsOnly P) :
    (x.bind f).FailsOnly P := by
  intro e failed
  rcases bind_eq_error_iff.1 failed with first | ⟨a, -, later⟩
  · exact hx e first
  · exact hf a e later

theorem FailsOnly.mapError {ε' : Type} {f : ε → ε'} {P' : ε' → Prop} (hx : x.FailsOnly P)
    (hf : ∀ e, P e → P' (f e)) : (x.mapError f).FailsOnly P' := by
  intro e' failed
  rcases mapError_eq_error_iff.1 failed with ⟨e, inner, rfl⟩
  exact hf e (hx e inner)

end Except
