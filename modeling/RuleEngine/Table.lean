/-!
# Tables

A table maps names to values.  Its entries are listed in ascending order of their names and no name
occurs twice, so two tables with the same content are the same table, whatever the order in which
the content was put in.

`put` and `find` work on the bare list of entries; the type `Table` adds the proof that the list is
ascending.
-/

namespace RuleEngine

/-! ## Ascending lists of entries -/

namespace Entries

variable {α : Type}

def Ascending (entries : List (String × α)) : Prop :=
  entries.Pairwise fun a b => a.1 < b.1

/-- Puts a value under a name, in place of the value that was there. -/
def put (name : String) (value : α) : List (String × α) → List (String × α)
  | [] => [(name, value)]
  | entry :: rest =>
    if name < entry.1 then
      (name, value) :: entry :: rest
    else if name = entry.1 then
      (name, value) :: rest
    else
      entry :: put name value rest

def find? (name : String) (entries : List (String × α)) : Option α :=
  (entries.find? (·.1 = name)).map (·.2)

theorem mem_put {name : String} {value : α} {entries : List (String × α)} {e : String × α}
    (h : e ∈ put name value entries) : e = (name, value) ∨ e ∈ entries := by
  induction entries with
  | nil => simpa [put] using h
  | cons entry rest ih =>
      unfold put at h
      split at h
      · simpa using h
      · split at h
        · rcases List.mem_cons.1 h with h | h
          · exact Or.inl h
          · exact Or.inr (List.mem_cons_of_mem _ h)
        · rcases List.mem_cons.1 h with h | h
          · exact Or.inr (h ▸ List.mem_cons_self)
          · exact (ih h).imp_right (List.mem_cons_of_mem _)

theorem ascending_put {name : String} {value : α} {entries : List (String × α)}
    (h : Ascending entries) : Ascending (put name value entries) := by
  induction entries with
  | nil => simp [put, Ascending]
  | cons entry rest ih =>
      have ⟨first, later⟩ := List.pairwise_cons.1 h
      unfold put
      split
      · rename_i below
        refine List.pairwise_cons.2 ⟨fun e he => ?_, h⟩
        rcases List.mem_cons.1 he with he | he
        · exact he ▸ below
        · exact String.lt_trans below (first e he)
      · split
        · rename_i same
          exact List.pairwise_cons.2 ⟨fun e he => same ▸ first e he, later⟩
        · rename_i notBelow notSame
          refine List.pairwise_cons.2 ⟨fun e he => ?_, ih later⟩
          rcases mem_put he with he | he
          · subst he
            exact Std.lt_of_le_of_ne (String.not_lt.1 notBelow) (Ne.symm notSame)
          · exact first e he

theorem find?_put {name : String} {value : α} {entries : List (String × α)} (other : String) :
    find? other (put name value entries) =
      if other = name then some value else find? other entries := by
  induction entries with
  | nil => by_cases h : other = name <;> simp [put, find?, h, eq_comm]
  | cons entry rest ih =>
      unfold put
      split
      · by_cases h : name = other
        · simp [find?, h]
        · simp [find?, List.find?_cons, h, Ne.symm h]
      · split
        · rename_i same
          by_cases h : name = other
          · simp [find?, h]
          · simp [find?, h, Ne.symm h, ← same]
        · rename_i notSame
          unfold find? at ih ⊢
          by_cases h : entry.1 = other
          · have apart : other ≠ name := fun e => notSame (e.symm.trans h.symm)
            simp [h, apart]
          · simpa [List.find?_cons, h] using ih

theorem length_put_of_none {name : String} {value : α} {entries : List (String × α)}
    (absent : find? name entries = none) : (put name value entries).length = entries.length + 1 := by
  induction entries with
  | nil => rfl
  | cons entry rest ih =>
      have apart : entry.1 ≠ name := by
        intro same
        simp [find?, same] at absent
      have later : find? name rest = none := by
        simpa [find?, List.find?_cons, apart] using absent
      unfold put
      split
      · rfl
      · rw [if_neg (Ne.symm apart), List.length_cons, ih later, List.length_cons]

end Entries

/-! ## Tables -/

/-- A finite map from names to values. -/
structure Table (α : Type) where
  entries : List (String × α)
  ascending : Entries.Ascending entries

namespace Table

variable {α : Type}

def empty : Table α :=
  ⟨[], .nil⟩

instance : Inhabited (Table α) := ⟨empty⟩

def find? (t : Table α) (name : String) : Option α :=
  Entries.find? name t.entries

def contains (t : Table α) (name : String) : Bool :=
  (t.find? name).isSome

/-- The table with a value under a name, in place of the value that was there. -/
def insert (t : Table α) (name : String) (value : α) : Table α :=
  ⟨Entries.put name value t.entries, Entries.ascending_put t.ascending⟩

theorem find?_insert (t : Table α) (name : String) (value : α) (other : String) :
    (t.insert name value).find? other = if other = name then some value else t.find? other :=
  Entries.find?_put other

def erase (t : Table α) (name : String) : Table α :=
  ⟨t.entries.filter (·.1 ≠ name), t.ascending.filter _⟩

def names (t : Table α) : List String :=
  t.entries.map (·.1)

def size (t : Table α) : Nat :=
  t.entries.length

theorem size_insert_of_none {t : Table α} {name : String} {value : α}
    (absent : t.find? name = none) : (t.insert name value).size = t.size + 1 :=
  Entries.length_put_of_none absent

/-- The entries inserted one after the other, so that the last one under a name counts. -/
def insertAll (t : Table α) (entries : List (String × α)) : Table α :=
  entries.foldl (fun t e => t.insert e.1 e.2) t

/-- The table of a list of entries; the last one under a name counts. -/
def ofList (entries : List (String × α)) : Table α :=
  empty.insertAll entries

/-- What is found after insertions was inserted or was there before. -/
theorem mem_of_find?_insertAll {t : Table α} {entries : List (String × α)} {name : String} {value : α}
    (found : (t.insertAll entries).find? name = some value) :
    (name, value) ∈ entries ∨ t.find? name = some value := by
  induction entries generalizing t with
  | nil => exact Or.inr found
  | cons entry rest ih =>
      rcases ih found with later | earlier
      · exact Or.inl (List.mem_cons_of_mem _ later)
      · rw [find?_insert] at earlier
        split at earlier
        · rename_i here
          have same : (name, value) = entry := by rw [here, ← Option.some.inj earlier]
          exact Or.inl (same ▸ List.mem_cons_self)
        · exact Or.inr earlier

theorem mem_of_find?_ofList {entries : List (String × α)} {name : String} {value : α}
    (found : (ofList entries).find? name = some value) : (name, value) ∈ entries :=
  (mem_of_find?_insertAll found).resolve_right nofun

end Table
end RuleEngine
