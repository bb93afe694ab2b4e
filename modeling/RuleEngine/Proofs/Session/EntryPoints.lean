import RuleEngine.Session

/-!
# Declared entry points

Declaring an entry point gives it a partition, once: later declarations of the name answer the same
partition, and declarations of other names do not move it.  Nothing else in the session changes.
-/

namespace RuleEngine
namespace Session

variable {s : Session} {name other : String} {partition : Nat}

/-! ## One declaration -/

/-- An entry point that is declared already is only looked up. -/
theorem declare_eq_of_find? (found : s.entryPoints.find? name = some partition) :
    s.declare name = (partition, s) := by
  unfold declare
  rw [found]

/-- An entry point that is new gets the number of entry points before it as its partition. -/
theorem declare_eq_of_none (absent : s.entryPoints.find? name = none) :
    s.declare name =
      (min s.entryPoints.size maxPartition,
        { s with entryPoints := s.entryPoints.insert name (min s.entryPoints.size maxPartition) }) := by
  unfold declare
  rw [absent]

theorem find?_declare (s : Session) (name other : String) :
    (s.declare name).2.entryPoints.find? other =
      if other = name then some (s.declare name).1 else s.entryPoints.find? other := by
  cases found : s.entryPoints.find? name with
  | some partition =>
      rw [declare_eq_of_find? found]
      split
      · rename_i same
        rw [same, found]
      · rfl
  | none => rw [declare_eq_of_none found, Table.find?_insert]

theorem find?_declare_of_find? (found : s.entryPoints.find? other = some partition) (name : String) :
    (s.declare name).2.entryPoints.find? other = some partition := by
  rw [find?_declare]
  split
  · rename_i same
    rw [same] at found
    rw [declare_eq_of_find? found]
  · exact found

/-- A declaration changes the table of entry points and nothing else. -/
theorem declare_snd (s : Session) (name : String) :
    (s.declare name).2 = { s with entryPoints := (s.declare name).2.entryPoints } := by
  unfold declare
  split <;> rfl

theorem size_declare (s : Session) (name : String) :
    (s.declare name).2.entryPoints.size =
      s.entryPoints.size + if (s.entryPoints.find? name).isNone then 1 else 0 := by
  cases found : s.entryPoints.find? name with
  | some partition => simp [declare_eq_of_find? found]
  | none => simp [declare_eq_of_none found, Table.size_insert_of_none found]

@[simp] theorem declare_memory : (s.declare name).2.memory = s.memory := by
  rw [declare_snd]

@[simp] theorem declare_broken : (s.declare name).2.broken = s.broken := by
  rw [declare_snd]

@[simp] theorem declare_globals : (s.declare name).2.globals = s.globals := by
  rw [declare_snd]

@[simp] theorem declare_defaultEntryPoint :
    (s.declare name).2.defaultEntryPoint = s.defaultEntryPoint := by
  rw [declare_snd]

/-- What a declaration does to the entry points does not depend on the memory. -/
theorem declare_with_memory (s : Session) (name : String) (memory : WorkingMemory) :
    ({ s with memory := memory } : Session).declare name =
      ((s.declare name).1, { (s.declare name).2 with memory := memory }) := by
  unfold declare
  cases s.entryPoints.find? name <;> rfl

/-! ## The default entry point -/

/-- The default entry point is declared. -/
def Rooted (s : Session) : Prop :=
  ∃ partition, s.entryPoints.find? s.defaultEntryPoint = some partition

theorem rooted_start (defaultEntryPoint : String) (types : GlobalTypes) :
    (start defaultEntryPoint types).Rooted := by
  unfold Rooted start
  rw [declare_defaultEntryPoint, find?_declare, if_pos rfl]
  exact ⟨_, rfl⟩

theorem Rooted.declare (hs : s.Rooted) (name : String) : (s.declare name).2.Rooted := by
  rcases hs with ⟨partition, found⟩
  refine ⟨partition, ?_⟩
  rw [declare_defaultEntryPoint]
  exact find?_declare_of_find? found name

theorem Rooted.declare_default (hs : s.Rooted) : (s.declare s.defaultEntryPoint).2 = s := by
  rcases hs with ⟨partition, found⟩
  rw [declare_eq_of_find? found]

/-! ## The declarations of a batch -/

variable {effects : List Effect} {effect : Effect}

theorem declareNamed_cons (s : Session) (effect : Effect) (effects : List Effect) :
    s.declareNamed (effect :: effects) =
      match effect.entryPoint? with
      | some name => (s.declare name).2.declareNamed effects
      | none => s.declareNamed effects := by
  unfold declareNamed
  cases h : effect.entryPoint? <;> simp [h]

/-- What every single declaration keeps, the declarations of a batch keep. -/
theorem declareNamed_keeps {P : Session → Prop} (step : ∀ s name, P s → P (s.declare name).2)
    (hs : P s) (effects : List Effect) : P (s.declareNamed effects) :=
  List.foldlRecOn _ _ hs fun s hs name _ => step s name hs

theorem find?_declareNamed_of_find? (found : s.entryPoints.find? name = some partition)
    (effects : List Effect) : (s.declareNamed effects).entryPoints.find? name = some partition :=
  declareNamed_keeps (P := fun t => t.entryPoints.find? name = some partition)
    (fun _ other found => find?_declare_of_find? found other) found effects

theorem declareNamed_snd (s : Session) (effects : List Effect) :
    s.declareNamed effects = { s with entryPoints := (s.declareNamed effects).entryPoints } := by
  refine declareNamed_keeps (P := fun t => t = { s with entryPoints := t.entryPoints }) ?_ rfl effects
  intro t name ht
  rw [declare_snd t name]
  generalize (t.declare name).2.entryPoints = entryPoints
  rw [ht]

@[simp] theorem declareNamed_memory : (s.declareNamed effects).memory = s.memory := by
  rw [declareNamed_snd]

@[simp] theorem declareNamed_broken : (s.declareNamed effects).broken = s.broken := by
  rw [declareNamed_snd]

@[simp] theorem declareNamed_globals : (s.declareNamed effects).globals = s.globals := by
  rw [declareNamed_snd]

@[simp] theorem declareNamed_defaultEntryPoint :
    (s.declareNamed effects).defaultEntryPoint = s.defaultEntryPoint := by
  rw [declareNamed_snd]

theorem declareNamed_with_memory (s : Session) (effects : List Effect) (memory : WorkingMemory) :
    ({ s with memory := memory } : Session).declareNamed effects =
      { s.declareNamed effects with memory := memory } := by
  induction effects generalizing s with
  | nil => rfl
  | cons effect rest ih =>
      rw [declareNamed_cons, declareNamed_cons]
      split
      · rw [declare_with_memory]
        exact ih _
      · exact ih _

theorem contains_declareNamed (named : effect ∈ effects) (hname : effect.entryPoint? = some name) :
    ∃ partition, (s.declareNamed effects).entryPoints.find? name = some partition := by
  induction effects generalizing s with
  | nil => simp at named
  | cons first rest ih =>
      rw [declareNamed_cons]
      rcases List.mem_cons.1 named with rfl | named
      · have declared := find?_declare s name name
        rw [if_pos rfl] at declared
        rw [hname]
        -- declared by this effect, and not moved by the later ones
        exact ⟨_, find?_declareNamed_of_find? declared rest⟩
      · split <;> exact ih named

/-- All entry points that effects name are declared. -/
def DeclaresAll (s : Session) (effects : List Effect) : Prop :=
  ∀ effect ∈ effects, ∀ name, effect.entryPoint? = some name →
    ∃ partition, s.entryPoints.find? name = some partition

/-- A batch declares nothing new when all entry points that it names are declared. -/
theorem DeclaresAll.declareNamed_eq (declared : s.DeclaresAll effects) :
    s.declareNamed effects = s := by
  induction effects with
  | nil => rfl
  | cons first rest ih =>
      have ⟨hfirst, hrest⟩ := List.forall_mem_cons.1 declared
      rw [declareNamed_cons]
      split
      · rename_i name hname
        rcases hfirst name hname with ⟨partition, found⟩
        rw [declare_eq_of_find? found]
        exact ih hrest
      · exact ih hrest

/-- The table of entry points stays as it is exactly when a batch names no new entry point. -/
theorem declareNamed_entryPoints_eq_iff :
    (s.declareNamed effects).entryPoints = s.entryPoints ↔ s.DeclaresAll effects := by
  constructor
  · intro same effect named name hname
    rw [← same]
    exact contains_declareNamed named hname
  · intro declared
    rw [declared.declareNamed_eq]

theorem size_le_declareNamed (s : Session) (effects : List Effect) :
    s.entryPoints.size ≤ (s.declareNamed effects).entryPoints.size := by
  refine declareNamed_keeps (P := fun t => s.entryPoints.size ≤ t.entryPoints.size) ?_ (Nat.le_refl _)
    effects
  intro t name bound
  rw [size_declare]
  omega

/-- A batch that names a new entry point makes the table of entry points grow. -/
theorem size_lt_declareNamed (new : ¬ s.DeclaresAll effects) :
    s.entryPoints.size < (s.declareNamed effects).entryPoints.size := by
  induction effects with
  | nil => exact absurd (fun _ named => by simp at named) new
  | cons first rest ih =>
      rw [declareNamed_cons]
      split
      · rename_i name hname
        cases found : s.entryPoints.find? name with
        | none =>
            -- the table grows here and does not shrink afterwards
            have grown := size_declare s name
            have later := size_le_declareNamed (s.declare name).2 rest
            simp only [found, Option.isNone_none, if_true] at grown
            omega
        | some partition =>
            rw [declare_eq_of_find? found]
            refine ih fun declared => new (List.forall_mem_cons.2 ⟨?_, declared⟩)
            intro other hother
            rw [hname, Option.some.injEq] at hother
            exact ⟨partition, hother ▸ found⟩
      · rename_i unnamed
        refine ih fun declared => new (List.forall_mem_cons.2 ⟨?_, declared⟩)
        intro other hother
        simp [unnamed] at hother

end Session
end RuleEngine
