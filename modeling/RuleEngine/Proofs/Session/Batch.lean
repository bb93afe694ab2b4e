import RuleEngine.Proofs.Memory.Lookup
import RuleEngine.Proofs.Results
import RuleEngine.Proofs.Session.EntryPoints

/-!
# A batch is its effects one after the other

The meaning of an effect is what the session itself would do: an insertion declares its entry point
and takes the object in through it, an update or a retraction goes to the memory.  `carryOut` says
this for one effect and `carryOutAll` for several, each on the session that the one before left.

A batch works otherwise.  It declares all entry points first and then applies the effects to a copy
of the memory.  The two agree: declaring early moves no entry point, and the copy goes through the
same memories.  The simulation keeps both memories the same while the remaining effects are run, and
compares the entry points only at the end, when all are declared.
-/

namespace RuleEngine

/-- The handle that an effect needs to be live. -/
def Effect.target? : Effect → Option Handle
  | .insert .. => none
  | .update h _ => some h
  | .retract h => some h

namespace Session

/-! ## Effects one after the other -/

/-- Carries out one effect; answers the handle of an insertion. -/
def carryOut (s : Session) : Effect → Except Error (Option Handle × Session)
  | .insert entryPoint v =>
    let (partition, s) := s.declare (entryPoint.getD s.defaultEntryPoint)
    (s.insertThrough partition v).map fun (h, s) => (some h, s)
  | .update h v =>
    s.readMemory.bind fun memory =>
      (memory.update h v).map fun memory => (none, { s with memory := memory })
  | .retract h =>
    s.readMemory.bind fun memory =>
      (memory.retract h).map fun (_, memory) => (none, { s with memory := memory })

/-- Carries out effects one after the other; answers the handles of the insertions. -/
def carryOutAll (s : Session) : List Effect → Except Error (List Handle × Session)
  | [] => .ok ([], s)
  | effect :: rest =>
    match s.carryOut effect with
    | .error e => .error e
    | .ok (inserted, s) =>
      match s.carryOutAll rest with
      | .error e => .error e
      | .ok (later, s) => .ok (inserted.toList ++ later, s)

variable {s s' : Session} {effect : Effect} {effects : List Effect} {partition : Nat} {v : Value}
  {inserted : List Handle}

/-! ## One effect -/

theorem readMemory_of_intact (intact : s.broken = false) : s.readMemory = .ok s.memory := by
  simp [readMemory, intact]

theorem carryOut_insert (intact : s.broken = false) (entryPoint : Option String) (v : Value) :
    s.carryOut (.insert entryPoint v) =
      let declared := s.declare (entryPoint.getD s.defaultEntryPoint)
      .ok (some ⟨s.memory.nextId, declared.1⟩,
        { declared.2 with memory := (s.memory.insert v declared.1).2 }) := by
  simp [carryOut, insertThrough, readMemory, intact, Except.map]

theorem carryOut_update (intact : s.broken = false) (h : Handle) (v : Value) :
    s.carryOut (.update h v) =
      (s.memory.update h v).map fun memory => (none, { s with memory := memory }) := by
  rw [carryOut, readMemory_of_intact intact]
  rfl

theorem carryOut_retract (intact : s.broken = false) (h : Handle) :
    s.carryOut (.retract h) =
      (s.memory.retract h).map fun r => (none, { s with memory := r.2 }) := by
  rw [carryOut, readMemory_of_intact intact]
  rfl

theorem carryOut_keeps (intact : s.broken = false) (rooted : s.Rooted) {h : Option Handle}
    (done : s.carryOut effect = .ok (h, s')) : s'.broken = false ∧ s'.Rooted := by
  cases effect with
  | insert entryPoint v =>
      rw [carryOut_insert intact] at done
      simp only [Except.ok.injEq, Prod.mk.injEq] at done
      rcases done with ⟨-, rfl⟩
      exact ⟨declare_broken.trans intact, rooted.declare _⟩
  | update h v =>
      rw [carryOut_update intact] at done
      rcases Except.map_eq_ok_iff.1 done with ⟨memory, -, same⟩
      simp only [Prod.mk.injEq] at same
      rcases same with ⟨-, rfl⟩
      exact ⟨intact, rooted⟩
  | retract h =>
      rw [carryOut_retract intact] at done
      rcases Except.map_eq_ok_iff.1 done with ⟨r, -, same⟩
      simp only [Prod.mk.injEq] at same
      rcases same with ⟨-, rfl⟩
      exact ⟨intact, rooted⟩

/-- An effect fails exactly when it needs a handle that is not live, and its error names the
handle. -/
theorem carryOut_eq_error_iff (intact : s.broken = false) {e : Error} :
    s.carryOut effect = .error e ↔
      ∃ h, effect.target? = some h ∧ s.memory.contains h = false ∧ e = Cause.factNotFound h := by
  cases effect with
  | insert entryPoint v => simp [carryOut_insert intact, Effect.target?]
  | update h v =>
      rw [carryOut_update intact, Except.map_eq_error_iff, WorkingMemory.update_eq_error_iff]
      simp [Effect.target?]
  | retract h =>
      rw [carryOut_retract intact, Except.map_eq_error_iff, WorkingMemory.retract_eq_error_iff]
      simp [Effect.target?]

/-! ## The batch -/

theorem applyAllTo_with_memory (s : Session) (kept memory : WorkingMemory)
    (effects : List Effect) :
    ({ s with memory := kept } : Session).applyAllTo memory effects =
      s.applyAllTo memory effects := by
  have one : ∀ memory effect,
      ({ s with memory := kept } : Session).applyTo memory effect = s.applyTo memory effect := by
    intro memory effect
    cases effect <;> rfl
  induction effects generalizing memory with
  | nil => rfl
  | cons effect rest ih =>
      unfold applyAllTo
      simp only [one, ih]

/-- The declarations of a batch begin with that of its first insertion. -/
theorem Rooted.declareNamed_insert (rooted : s.Rooted) (entryPoint : Option String)
    (rest : List Effect) :
    s.declareNamed (.insert entryPoint v :: rest) =
      (s.declare (entryPoint.getD s.defaultEntryPoint)).2.declareNamed rest := by
  rw [declareNamed_cons]
  cases entryPoint with
  -- an insertion without a name goes through the default entry point, which is declared already
  | none => simp [Effect.entryPoint?, rooted.declare_default]
  | some name => rfl

/-- After all declarations of a batch an insertion goes through the partition that its entry point
had when it was declared. -/
theorem Rooted.partitionOf_declareNamed (rooted : s.Rooted) (entryPoint : Option String)
    (rest : List Effect) :
    (s.declareNamed (.insert entryPoint v :: rest)).partitionOf entryPoint =
      .ok (s.declare (entryPoint.getD s.defaultEntryPoint)).1 := by
  have declared : (s.declareNamed (.insert entryPoint v :: rest)).entryPoints.find?
      (entryPoint.getD s.defaultEntryPoint) =
        some (s.declare (entryPoint.getD s.defaultEntryPoint)).1 := by
    rw [rooted.declareNamed_insert]
    refine find?_declareNamed_of_find? ?_ rest
    rw [find?_declare, if_pos rfl]
  simp only [partitionOf, declareNamed_defaultEntryPoint, declared]

/-- Effects carried out one after the other go through the memories of the batch, and leave the
entry points that the batch declares. -/
theorem carryOutAll_eq (intact : s.broken = false) (rooted : s.Rooted) (effects : List Effect) :
    s.carryOutAll effects =
      ((s.declareNamed effects).applyAllTo s.memory effects).map fun r =>
        (r.1, { s.declareNamed effects with memory := r.2 }) := by
  -- `s` stands for the session before the remaining effects; the batch sees its memory, and the
  -- entry points after all declarations that remain
  induction effects generalizing s with
  | nil => rfl
  | cons effect rest ih =>
      cases effect with
      | insert entryPoint v =>
          have hroot := rooted.declare (entryPoint.getD s.defaultEntryPoint)
          have tail := ih (s := { (s.declare (entryPoint.getD s.defaultEntryPoint)).2 with
            memory := (s.memory.insert v (s.declare (entryPoint.getD s.defaultEntryPoint)).1).2 })
            (declare_broken.trans intact) hroot
          rw [declareNamed_with_memory, applyAllTo_with_memory] at tail
          rw [carryOutAll, carryOut_insert intact]
          simp only [tail]
          rw [applyAllTo, applyTo, rooted.partitionOf_declareNamed, rooted.declareNamed_insert]
          simp only [WorkingMemory.insert_handle]
          cases applyAllTo _ _ rest <;> rfl
      | update h v =>
          rw [carryOutAll, carryOut_update intact, applyAllTo, applyTo]
          cases s.memory.update h v with
          | error e => rfl
          | ok memory =>
              have tail := ih (s := { s with memory := memory }) intact rooted
              rw [declareNamed_with_memory, applyAllTo_with_memory] at tail
              simp only [Except.map, tail]
              have same : s.declareNamed (.update h v :: rest) = s.declareNamed rest :=
                declareNamed_cons _ _ _
              rw [same]
              cases applyAllTo _ _ rest <;> rfl
      | retract h =>
          rw [carryOutAll, carryOut_retract intact, applyAllTo, applyTo]
          cases s.memory.retract h with
          | error e => rfl
          | ok r =>
              have tail := ih (s := { s with memory := r.2 }) intact rooted
              rw [declareNamed_with_memory, applyAllTo_with_memory] at tail
              simp only [Except.map, tail]
              have same : s.declareNamed (.retract h :: rest) = s.declareNamed rest :=
                declareNamed_cons _ _ _
              rw [same]
              cases applyAllTo _ _ rest <;> rfl

theorem applyBatch_of_broken (broken : s.broken = true) (effects : List Effect) :
    s.applyBatch effects = (.error brokenError, s.declareNamed effects) := by
  have unread : (s.declareNamed effects).readMemory = .error brokenError := by
    simp [readMemory, broken]
  simp only [applyBatch, unread]

theorem applyBatch_of_intact (intact : s.broken = false) (effects : List Effect) :
    s.applyBatch effects =
      match (s.declareNamed effects).applyAllTo s.memory effects with
      | .error e => (.error e, s.declareNamed effects)
      | .ok (inserted, memory) => (.ok inserted, { s.declareNamed effects with memory := memory }) := by
  have read : (s.declareNamed effects).readMemory = .ok s.memory := by
    rw [readMemory_of_intact (declareNamed_broken.trans intact), declareNamed_memory]
  cases applied : (s.declareNamed effects).applyAllTo s.memory effects <;>
    simp only [applyBatch, read, applied]

/-- A batch leaves what its effects leave one after the other; when one of them fails, it fails with
the same error and leaves the memory as it was. -/
theorem applyBatch_eq (intact : s.broken = false) (rooted : s.Rooted) (effects : List Effect) :
    s.applyBatch effects =
      match s.carryOutAll effects with
      | .ok (inserted, s') => (.ok inserted, s')
      | .error e => (.error e, s.declareNamed effects) := by
  rw [carryOutAll_eq intact rooted, applyBatch_of_intact intact]
  cases applyAllTo _ _ effects <;> rfl

/-! ## Where a run of effects fails -/

/-- Every effect finds its handle live when it is its turn. -/
def FindsAll (s : Session) (effects : List Effect) : Prop :=
  ∀ earlier effect rest, effects = earlier ++ effect :: rest →
    ∀ inserted mid, s.carryOutAll earlier = .ok (inserted, mid) →
      ∀ h, effect.target? = some h → mid.memory.contains h = true

/-- Some effect finds its handle dead when it is its turn, and those before it do not. -/
def MissesFirst (s : Session) (effects : List Effect) (h : Handle) : Prop :=
  ∃ earlier effect rest inserted mid, effects = earlier ++ effect :: rest ∧
    s.carryOutAll earlier = .ok (inserted, mid) ∧
      effect.target? = some h ∧ mid.memory.contains h = false

theorem carryOutAll_append (s : Session) (earlier rest : List Effect) :
    s.carryOutAll (earlier ++ rest) =
      match s.carryOutAll earlier with
      | .error e => .error e
      | .ok (inserted, mid) => (mid.carryOutAll rest).map fun r => (inserted ++ r.1, r.2) := by
  induction earlier generalizing s with
  | nil =>
      simp only [List.nil_append, carryOutAll]
      cases s.carryOutAll rest <;> rfl
  | cons effect earlier ih =>
      rw [List.cons_append, carryOutAll, carryOutAll]
      cases s.carryOut effect with
      | error e => rfl
      | ok r =>
          simp only [ih]
          cases r.2.carryOutAll earlier with
          | error e => rfl
          | ok r' =>
              simp only
              cases r'.2.carryOutAll rest <;> simp [Except.map]

theorem carryOutAll_keeps (intact : s.broken = false) (rooted : s.Rooted)
    (done : s.carryOutAll effects = .ok (inserted, s')) : s'.broken = false ∧ s'.Rooted := by
  induction effects generalizing s inserted with
  | nil =>
      simp only [carryOutAll, Except.ok.injEq, Prod.mk.injEq] at done
      exact done.2 ▸ ⟨intact, rooted⟩
  | cons effect rest ih =>
      rw [carryOutAll] at done
      cases first : s.carryOut effect with
      | error e => simp [first] at done
      | ok r =>
          have ⟨intact', rooted'⟩ := carryOut_keeps intact rooted first
          cases later : r.2.carryOutAll rest with
          | error e => simp [first, later] at done
          | ok r' =>
              rcases r' with ⟨inserted', final⟩
              simp only [first, later, Except.ok.injEq, Prod.mk.injEq] at done
              rcases done with ⟨-, rfl⟩
              exact ih intact' rooted' later

/-- Effects fail one after the other exactly when one of them misses its handle, and the error is
that of the first which does. -/
theorem carryOutAll_eq_error_iff (intact : s.broken = false) (rooted : s.Rooted) {e : Error} :
    s.carryOutAll effects = .error e ↔
      ∃ h, s.MissesFirst effects h ∧ e = Cause.factNotFound h := by
  constructor
  · intro failed
    -- the first failure is here, or it is the first one of the rest
    induction effects generalizing s with
    | nil => simp [carryOutAll] at failed
    | cons effect rest ih =>
        rw [carryOutAll] at failed
        cases first : s.carryOut effect with
        | error e' =>
            simp only [first, Except.error.injEq] at failed
            subst failed
            rcases (carryOut_eq_error_iff intact).1 first with ⟨h, target, dead, rfl⟩
            exact ⟨h, ⟨[], effect, rest, [], s, rfl, rfl, target, dead⟩, rfl⟩
        | ok r =>
            have ⟨intact', rooted'⟩ := carryOut_keeps intact rooted first
            have hlater : r.2.carryOutAll rest = .error e := by
              cases later : r.2.carryOutAll rest with
              | error e' => simpa [first, later] using failed
              | ok r' => simp [first, later] at failed
            rcases ih intact' rooted' hlater with
              ⟨h, ⟨earlier, next, rest', inserted, mid, rfl, before, target, dead⟩, rfl⟩
            refine ⟨h, ⟨effect :: earlier, next, rest', r.1.toList ++ inserted, mid, rfl, ?_, target,
              dead⟩, rfl⟩
            rw [carryOutAll, first]
            simp only [before]
  · rintro ⟨h, ⟨earlier, effect, rest, inserted, mid, rfl, before, target, dead⟩, rfl⟩
    have intact' := (carryOutAll_keeps intact rooted before).1
    have fails := (carryOut_eq_error_iff intact').2 ⟨h, target, dead, rfl⟩
    rw [carryOutAll_append, before]
    simp only [carryOutAll, fails]
    rfl

theorem findsAll_iff : s.FindsAll effects ↔ ∀ h, ¬ s.MissesFirst effects h := by
  constructor
  · rintro finds h ⟨earlier, effect, rest, inserted, mid, split, before, target, dead⟩
    have live := finds earlier effect rest split inserted mid before h target
    simp [live] at dead
  · intro never earlier effect rest split inserted mid before h target
    cases live : mid.memory.contains h with
    | true => rfl
    | false =>
        exact absurd ⟨earlier, effect, rest, inserted, mid, split, before, target, live⟩ (never h)

/-- Effects succeed one after the other exactly when each of them finds its handle. -/
theorem exists_carryOutAll_iff (intact : s.broken = false) (rooted : s.Rooted) :
    (∃ r, s.carryOutAll effects = .ok r) ↔ s.FindsAll effects := by
  rw [findsAll_iff]
  constructor
  · rintro ⟨r, done⟩ h misses
    have failed := (carryOutAll_eq_error_iff intact rooted).2 ⟨h, misses, rfl⟩
    rw [done] at failed
    cases failed
  · intro never
    cases result : s.carryOutAll effects with
    | ok r => exact ⟨r, rfl⟩
    | error e =>
        rcases (carryOutAll_eq_error_iff intact rooted).1 result with ⟨h, misses, -⟩
        exact absurd misses (never h)

end Session
end RuleEngine
