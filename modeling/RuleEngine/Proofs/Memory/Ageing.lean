import RuleEngine.Proofs.Memory.Lookup

/-!
# How a memory ages

Whatever is done to a memory, the number of the next handle only grows.  Below that number nothing
new comes to life: a handle that is dead stays dead, and a handle that is live changes only by an
operation on itself.  `Ages` says this about an earlier and a later state of a memory.
-/

namespace RuleEngine
namespace WorkingMemory

variable {m m' m'' : WorkingMemory} {touched touched' : Handle → Prop} {h : Handle} {v old : Value}
  {partition : Nat}

/-- The handle that an operation is made on. -/
def Operation.target? : Operation → Option Handle
  | insert _ _ => none
  | update h _ => some h
  | retract h => some h

/-- A memory became another one, and operations were made only on handles in `touched`. -/
structure Ages (touched : Handle → Prop) (m m' : WorkingMemory) : Prop where
  nextId_le : m.nextId ≤ m'.nextId
  dead : ∀ h, h.id < m.nextId → m.find? h = none → m'.find? h = none
  untouched : ∀ h, h.id < m.nextId → ¬ touched h → m'.find? h = m.find? h

theorem Ages.refl (touched : Handle → Prop) (m : WorkingMemory) : Ages touched m m where
  nextId_le := Nat.le_refl _
  dead _ _ dead := dead
  untouched _ _ _ := rfl

theorem Ages.trans (first : Ages touched m m') (second : Ages touched m' m'') :
    Ages touched m m'' where
  nextId_le := Nat.le_trans first.nextId_le second.nextId_le
  dead h given dead :=
    second.dead h (Nat.lt_of_lt_of_le given first.nextId_le) (first.dead h given dead)
  untouched h given apart :=
    calc
      m''.find? h = m'.find? h :=
        second.untouched h (Nat.lt_of_lt_of_le given first.nextId_le) apart
      _ = m.find? h := first.untouched h given apart

theorem Ages.mono (ages : Ages touched m m') (wider : ∀ h, touched h → touched' h) :
    Ages touched' m m' where
  nextId_le := ages.nextId_le
  dead := ages.dead
  untouched h given apart := ages.untouched h given fun there => apart (wider h there)

/-! ## Operations -/

/-- A new fact does not hide an older one. -/
theorem find?_insert_of_lt (given : h.id < m.nextId) :
    (m.insert v partition).2.find? h = m.find? h := by
  have apart : (⟨m.nextId, partition⟩ : Handle) ≠ h := by
    rintro rfl
    exact Nat.lt_irrefl _ given
  rw [find?, insert_facts, List.find?_append]
  simp [find?, apart]

theorem Ages.insert (m : WorkingMemory) (v : Value) (partition : Nat) :
    Ages touched m (m.insert v partition).2 where
  nextId_le := Nat.le_succ _
  dead _ given dead := (find?_insert_of_lt given).trans dead
  untouched _ given _ := find?_insert_of_lt given

theorem Ages.update (hu : m.update h v = .ok m') : Ages (· = h) m m' where
  nextId_le := by
    rcases update_eq_ok hu with ⟨old, -, rfl⟩
    exact Nat.le_refl _
  dead g _ dead := by
    rcases update_eq_ok hu with ⟨old, live, -⟩
    have apart : g ≠ h := by
      rintro rfl
      rw [dead] at live
      cases live
    rw [find?_update hu, if_neg apart]
    exact dead
  untouched g _ apart := by
    rw [find?_update hu, if_neg apart]

theorem Ages.retract (hr : m.retract h = .ok (old, m')) : Ages (· = h) m m' where
  nextId_le := by
    rcases retract_eq_ok hr with ⟨-, rfl⟩
    exact Nat.le_refl _
  dead g _ dead := by
    rw [find?_retract hr]
    split
    · rfl
    · exact dead
  untouched g _ apart := by
    rw [find?_retract hr, if_neg apart]

theorem Ages.perform (m : WorkingMemory) (operation : Operation) :
    Ages (fun h => operation.target? = some h) m (m.perform operation) := by
  cases operation with
  | insert v partition => exact .insert m v partition
  | update h v =>
      cases hu : m.update h v with
      | ok m' =>
          simp only [WorkingMemory.perform, hu]
          exact (Ages.update hu).mono fun g same => congrArg some same.symm
      | error e =>
          simp only [WorkingMemory.perform, hu]
          exact .refl _ m
  | retract h =>
      cases hr : m.retract h with
      | ok r =>
          simp only [WorkingMemory.perform, hr]
          exact (Ages.retract hr).mono fun g same => congrArg some same.symm
      | error e =>
          simp only [WorkingMemory.perform, hr]
          exact .refl _ m

theorem Ages.performAll (m : WorkingMemory) (operations : List Operation) :
    Ages (fun _ => True) m (operations.foldl WorkingMemory.perform m) := by
  induction operations generalizing m with
  | nil => exact .refl _ m
  | cons operation rest ih =>
      exact ((Ages.perform m operation).mono fun _ _ => trivial).trans (ih _)

/-! ## Dead handles -/

theorem contains_eq_false_iff : m.contains h = false ↔ m.find? h = none := by
  rw [contains, Option.isSome_eq_false_iff, Option.isNone_iff_eq_none]

/-- A retraction leaves its handle dead, also when it fails. -/
theorem find?_perform_retract (m : WorkingMemory) (h : Handle) :
    (m.perform (.retract h)).find? h = none := by
  cases hr : m.retract h with
  | ok r =>
      simp only [perform, hr]
      rw [find?_retract hr, if_pos rfl]
  | error e =>
      simp only [perform, hr]
      exact contains_eq_false_iff.1 (retract_eq_error_iff.1 hr).1

/-- A memory refuses operations on a dead handle. -/
theorem update_of_dead (dead : m.find? h = none) (v : Value) :
    m.update h v = .error (Cause.factNotFound h) :=
  update_eq_error_iff.2 ⟨contains_eq_false_iff.2 dead, rfl⟩

theorem retract_of_dead (dead : m.find? h = none) :
    m.retract h = .error (Cause.factNotFound h) :=
  retract_eq_error_iff.2 ⟨contains_eq_false_iff.2 dead, rfl⟩

end WorkingMemory
end RuleEngine
