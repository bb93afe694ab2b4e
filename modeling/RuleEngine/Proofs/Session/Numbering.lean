import RuleEngine.Proofs.Session.EntryPoints

/-!
# The numbers of entry points

A new entry point gets the number of those before it as its partition, although the table of entry
points is sorted by name.  So the partitions number the entry points in the order in which they were
declared, beginning with the default one, as long as the numbers fit.
-/

namespace RuleEngine
namespace Session

variable {s s' : Session} {names : List String} {name : String} {partition : Nat}

/-- The entry points of a session are `names`, in the order in which they were declared. -/
structure Numbered (names : List String) (s : Session) : Prop where
  nodup : names.Nodup
  head_eq : names.head? = some s.defaultEntryPoint
  size_eq : s.entryPoints.size = names.length
  declared_iff : ∀ name, (∃ partition, s.entryPoints.find? name = some partition) ↔ name ∈ names
  numbers : names.length ≤ UInt32.size → ∀ partition name, names[partition]? = some name →
    s.entryPoints.find? name = some partition

/-- The number of an entry point is its place in the order of declaration. -/
theorem Numbered.find?_iff (hs : s.Numbered names) (fits : names.length ≤ UInt32.size) :
    s.entryPoints.find? name = some partition ↔ names[partition]? = some name := by
  constructor
  · intro found
    have declared := (hs.declared_iff name).1 ⟨partition, found⟩
    -- the name has a place, and that is the partition it was found with
    rcases List.mem_iff_getElem?.1 declared with ⟨place, there⟩
    rw [hs.numbers fits place name there, Option.some.injEq] at found
    rw [← found]
    exact there
  · exact hs.numbers fits partition name

theorem Numbered.of_entryPoints (hs : s.Numbered names) (same : s'.entryPoints = s.entryPoints)
    (root : s'.defaultEntryPoint = s.defaultEntryPoint) : s'.Numbered names where
  nodup := hs.nodup
  head_eq := by
    rw [root]
    exact hs.head_eq
  size_eq := by
    rw [same]
    exact hs.size_eq
  declared_iff := by
    rw [same]
    exact hs.declared_iff
  numbers := by
    rw [same]
    exact hs.numbers

theorem numbered_start (defaultEntryPoint : String) (types : GlobalTypes) :
    (start defaultEntryPoint types).Numbered [defaultEntryPoint] := by
  have found : ∀ name, (start defaultEntryPoint types).entryPoints.find? name =
      if name = defaultEntryPoint then some 0 else none := by
    intro name
    rw [start, find?_declare]
    rfl
  constructor
  case nodup => exact List.pairwise_singleton _ _
  case head_eq =>
    rw [start, declare_defaultEntryPoint]
    rfl
  case size_eq => exact size_declare _ _
  case declared_iff =>
    intro name
    rw [found, List.mem_singleton]
    split
    · rename_i root
      exact ⟨fun _ => root, fun _ => ⟨0, rfl⟩⟩
    · rename_i other
      exact ⟨nofun, fun root => absurd root other⟩
  case numbers =>
    intro _ partition name there
    rcases partition with _ | later
    · rw [found, if_pos (Option.some.inj there).symm]
    · cases there

/-- A declaration adds a new name to the others, and does nothing with a name that is declared. -/
theorem Numbered.declare (hs : s.Numbered names) (name : String) :
    (s.declare name).2.Numbered (if name ∈ names then names else names ++ [name]) := by
  split
  · rename_i declared
    rcases (hs.declared_iff name).2 declared with ⟨partition, found⟩
    rw [declare_eq_of_find? found]
    exact hs
  · rename_i new
    have absent : s.entryPoints.find? name = none := by
      cases found : s.entryPoints.find? name with
      | none => rfl
      | some partition => exact absurd ((hs.declared_iff name).1 ⟨partition, found⟩) new
    have number : (s.declare name).1 = min names.length maxPartition := by
      rw [declare_eq_of_none absent, hs.size_eq]
    constructor
    case nodup =>
      refine List.nodup_append.2 ⟨hs.nodup, List.pairwise_singleton _ _, ?_⟩
      intro other there last here
      rw [List.mem_singleton.1 here]
      rintro rfl
      exact new there
    case head_eq =>
      rw [declare_defaultEntryPoint, List.head?_append, hs.head_eq]
      rfl
    case size_eq =>
      rw [size_declare, absent, hs.size_eq, List.length_append]
      rfl
    case declared_iff =>
      intro other
      rw [find?_declare, List.mem_append, List.mem_singleton]
      split
      · rename_i same
        exact ⟨fun _ => Or.inr same, fun _ => ⟨_, rfl⟩⟩
      · rename_i apart
        rw [hs.declared_iff]
        exact (or_iff_left apart).symm
    case numbers =>
      intro fits partition other there
      rw [List.length_append, List.length_singleton] at fits
      rw [find?_declare, number]
      rcases Nat.lt_or_ge partition names.length with earlier | last
      · -- an earlier entry point keeps its number
        rw [List.getElem?_append_left earlier] at there
        have apart : other ≠ name := by
          rintro rfl
          exact new (List.mem_of_getElem? there)
        rw [if_neg apart]
        exact hs.numbers (by omega) partition other there
      · -- the new one gets the next number, which fits
        rw [List.getElem?_append_right last] at there
        rcases gap : partition - names.length with _ | later
        · rw [gap] at there
          rw [if_pos (Option.some.inj there).symm]
          have room : names.length ≤ maxPartition := by
            unfold maxPartition
            omega
          rw [Nat.min_eq_left room]
          exact congrArg some (by omega)
        · rw [gap] at there
          cases there

end Session
end RuleEngine
