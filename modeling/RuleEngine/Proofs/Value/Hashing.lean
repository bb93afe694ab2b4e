import Mathlib.Algebra.BigOperators.Group.List.Basic
import Mathlib.Data.UInt
import RuleEngine.Proofs.Memory.Index

/-!
# Equal values are hashed alike

What a value feeds to a hash function depends on the value up to equality only.  The entries of equal
maps may stand in different orders, and so may the fields of a fact while it is hashed; but each is
hashed on its own and the hashes are added up, and a sum does not depend on the order of its terms.

So equal values can stand for each other as keys: of maps, and of the index of a working memory.
-/

namespace RuleEngine
namespace Value

variable {finish : List Nat → UInt64}

/-! ## Sums of hashes -/

theorem feedFields_eq_sum (fields : List (String × Value)) :
    feedFields finish fields = (fields.map fun e => finish (feedField finish e)).sum := by
  induction fields with
  | nil => rfl
  | cons field rest ih => simp [feedFields, ih]

theorem feedEntries_eq_sum (entries : List (Value × Value)) :
    feedEntries finish entries = (entries.map fun e => finish (feedEntry finish e)).sum := by
  induction entries with
  | nil => rfl
  | cons entry rest ih => simp [feedEntries, ih]

theorem feedFields_perm {fields order : List (String × Value)} (hperm : order.Perm fields) :
    feedFields finish order = feedFields finish fields := by
  simp only [feedFields_eq_sum]
  exact (hperm.map _).sum_eq

theorem feedEntries_perm {entries order : List (Value × Value)} (hperm : order.Perm entries) :
    feedEntries finish order = feedEntries finish entries := by
  simp only [feedEntries_eq_sum]
  exact (hperm.map _).sum_eq

/-! ## Maps by content -/

theorem congruentEntry (e : Value × Value) : CongruentEntry e :=
  .of_parts (congruent e.1) (congruent e.2)

/-- Entries with equal keys and equal values. -/
def EqualEntries (e f : Value × Value) : Prop :=
  (e.1 == f.1) = true ∧ (e.2 == f.2) = true

theorem equalEntries_iff {e f : Value × Value} :
    EqualEntries e f ↔ beqEntry e = beqEntry f := by
  have whole : EqualEntries e f ↔ beqEntry e f = true := by
    simp [EqualEntries, beqEntry_eq, BEq.beq]
  constructor
  · intro equal
    exact congruentEntry e f (whole.1 equal)
  · intro alike
    have itself : beqEntry f f = true := by simp [beqEntry_eq, beq_self]
    exact whole.2 (alike ▸ itself)

/-- Two maps are equal when they have equal entries, in whatever order. -/
theorem map_beq_iff {entries entries' : List (Value × Value)} :
    (map entries == map entries') = true ↔
      ∃ order, order.Perm entries' ∧ List.Forall₂ EqualEntries entries order := by
  have parts : (map entries == map entries') = beqEntries entries entries' := by
    simp [BEq.beq, beq]
  simp only [parts]
  constructor
  · intro equal
    rcases exists_partners (fun e _ => congruentEntry e) equal with ⟨order, hperm, alike⟩
    exact ⟨order, hperm.symm, alike.imp fun _ _ => equalEntries_iff.2⟩
  · rintro ⟨order, hperm, alike⟩
    -- neither equal entries nor their order make a difference to what the map is equal to
    have same : beqEntries entries = beqEntries entries' :=
      calc
        beqEntries entries = beqEntries order :=
          beqEntries_of_alike (alike.imp fun _ _ => equalEntries_iff.1)
        _ = beqEntries entries' := beqEntries_perm hperm fun e _ => congruentEntry e
    have itself : beqEntries entries' entries' = true :=
      beqEntries_self fun e _ => ⟨beq_self e.1, beq_self e.2⟩
    exact same ▸ itself

/-! ## Equal values feed the same words -/

theorem feedField_eq (e : String × Value) :
    feedField finish e = e.1.length :: e.1.toList.map Char.toNat ++ feed finish e.2 := by
  cases e
  simp only [feedField]

theorem feedEntry_eq (e : Value × Value) :
    feedEntry finish e = feed finish e.1 ++ feed finish e.2 := by
  cases e
  simp only [feedEntry]

/-- Values that are equal to a value feed the same words as it does. -/
def FedAlike (finish : List Nat → UInt64) (v : Value) : Prop :=
  ∀ w, beq v w = true → feed finish v = feed finish w

theorem feedFields_congr {fields others : List (String × Value)}
    (parts : ∀ e ∈ fields, FedAlike finish e.2) (h : beqFields fields others = true) :
    fields.length = others.length ∧ feedFields finish fields = feedFields finish others := by
  induction fields generalizing others with
  | nil =>
      cases others with
      | nil => exact ⟨rfl, rfl⟩
      | cons other rest => cases h
  | cons field rest ih =>
      cases others with
      | nil => cases h
      | cons other rest' =>
          have equal :
              (field.1 = other.1 ∧ beq field.2 other.2 = true) ∧ beqFields rest rest' = true := by
            simpa [beqFields, beqField_eq] using h
          rcases equal with ⟨⟨hname, hvalue⟩, htail⟩
          rcases List.forall_mem_cons.1 parts with ⟨hfield, hrest⟩
          rcases ih hrest htail with ⟨lengths, hashes⟩
          have first : feedField finish field = feedField finish other := by
            simp only [feedField_eq, hname, hfield _ hvalue]
          exact ⟨congrArg (· + 1) lengths, by simp only [feedFields, first, hashes]⟩

theorem feedItems_congr {items others : List Value} (parts : ∀ v ∈ items, FedAlike finish v)
    (h : beqItems items others = true) :
    items.length = others.length ∧ feedItems finish items = feedItems finish others := by
  induction items generalizing others with
  | nil =>
      cases others with
      | nil => exact ⟨rfl, rfl⟩
      | cons other rest => cases h
  | cons item rest ih =>
      cases others with
      | nil => cases h
      | cons other rest' =>
          have equal : beq item other = true ∧ beqItems rest rest' = true := by
            simpa [beqItems] using h
          rcases List.forall_mem_cons.1 parts with ⟨hitem, hrest⟩
          rcases ih hrest equal.2 with ⟨lengths, words⟩
          exact ⟨congrArg (· + 1) lengths, by simp only [feedItems, hitem _ equal.1, words]⟩

theorem feedEntries_congr {entries order : List (Value × Value)}
    (parts : ∀ e ∈ entries, FedAlike finish e.1 ∧ FedAlike finish e.2)
    (h : List.Forall₂ EqualEntries entries order) :
    feedEntries finish entries = feedEntries finish order := by
  induction h with
  | nil => rfl
  | @cons entry other rest rest' equal _ ih =>
      rcases List.forall_mem_cons.1 parts with ⟨⟨hkey, hvalue⟩, hrest⟩
      have first : feedEntry finish entry = feedEntry finish other := by
        simp only [feedEntry_eq, hkey _ equal.1, hvalue _ equal.2]
      simp only [feedEntries, first, ih hrest]

theorem fedAlike (v : Value) : FedAlike finish v := by
  -- only a fact, a vector or a map may equal a value other than itself
  induction v using nested_induction with
  | fact inst name fields ih =>
      intro w h
      cases w with
      | fact inst' name' others =>
          have equal : name = name' ∧ beqFields fields others = true := by simpa [beq] using h
          rcases feedFields_congr ih equal.2 with ⟨lengths, hashes⟩
          simp only [feed, equal.1, lengths, hashes]
      | _ => cases h
  | vec items ih =>
      intro w h
      cases w with
      | vec others =>
          have items_equal : beqItems items others = true := by simpa [beq] using h
          rcases feedItems_congr ih items_equal with ⟨lengths, words⟩
          simp only [feed, lengths, words]
      | _ => cases h
  | map entries ih =>
      intro w h
      cases w with
      | map others =>
          rcases map_beq_iff.1 h with ⟨order, hperm, equal⟩
          have lengths : entries.length = others.length := equal.length_eq.trans hperm.length_eq
          have hashes : feedEntries finish entries = feedEntries finish others :=
            calc
              feedEntries finish entries = feedEntries finish order := feedEntries_congr ih equal
              _ = feedEntries finish others := feedEntries_perm hperm
          simp only [feed, lengths, hashes]
      | _ => cases h
  | _ =>
      intro w h
      cases w <;> simp_all [beq]

/-! ## Values as keys -/

theorem lookup_congr {k k' : Value} (same : (k == k') = true) (entries : List (Value × Value)) :
    lookup k entries = lookup k' entries := by
  simp only [lookup, BEq.congr_right same]

theorem equalEntries_refl (e : Value × Value) : EqualEntries e e :=
  ⟨BEq.rfl, BEq.rfl⟩

theorem putEntry_congr {k k' : Value} (same : (k == k') = true) (v : Value)
    (entries : List (Value × Value)) :
    List.Forall₂ EqualEntries (putEntry k v entries) (putEntry k' v entries) := by
  induction entries with
  | nil => exact .cons ⟨same, BEq.rfl⟩ .nil
  | cons entry rest ih =>
      simp only [putEntry, BEq.congr_right same]
      split
      · exact List.forall₂_same.2 fun e _ => equalEntries_refl e
      · exact .cons (equalEntries_refl entry) ih

/-- Equal values other than facts have one key in the index of a working memory. -/
theorem key_congr {v w : Value} (same : (v == w) = true) (no_fact : v.factName? = none) :
    (Identity.of v == Identity.of w) = true := by
  have equal : beq v w = true := same
  cases v with
  | fact inst name fields => cases no_fact
  | source id =>
      cases w with
      | source id' =>
          have stream : id = id' := by simpa [beq] using equal
          exact stream ▸ BEq.rfl
      | _ => cases equal
  | _ =>
      cases w with
      | fact | source => cases equal
      | _ => exact same

theorem holder?_congr {v w : Value} (same : (v == w) = true) (no_fact : v.factName? = none)
    (m : WorkingMemory) : m.holder? v = m.holder? w :=
  congrArg List.head? (IdentityIndex.handles_congr (key_congr same no_fact) m.identities)

/-- Equality of values is an equivalence relation, and equal values feed the same words to every hash
function.  Maps are equal when they have equal entries, in whatever order these stand; and the order
of the fields of a fact does not show in what it feeds, nor does its instance.

So an equal key finds what was stored under a key of a map, and takes its place when something is
stored; and working memory, which looks up facts by instance, answers the same to any other two
values that are equal. -/
theorem equal_values_interchangeable :
    ((∀ v : Value, v == v) ∧ (∀ v w : Value, v == w → w == v) ∧
      ∀ u v w : Value, u == v → v == w → u == w) ∧
    (∀ (finish : List Nat → UInt64) (v w : Value), v == w → v.feed finish = w.feed finish) ∧
    (∀ entries entries', map entries == map entries' ↔
      ∃ order, order.Perm entries' ∧ List.Forall₂ EqualEntries entries order) ∧
    (∀ finish inst inst' name fields order, order.Perm fields →
      (fact inst name order).feed finish = (fact inst' name fields).feed finish) ∧
    (∀ k k' : Value, k == k' → ∀ entries,
      lookup k entries = lookup k' entries ∧
        ∀ v, map (putEntry k v entries) == map (putEntry k' v entries)) ∧
    ∀ v w : Value, v == w → v.factName? = none →
      ∀ m : WorkingMemory, m.holder? v = m.holder? w := by
  refine ⟨⟨fun _ => BEq.rfl, fun _ _ => BEq.symm, fun _ _ _ => BEq.trans⟩,
    fun finish v w same => fedAlike v w same, fun _ _ => map_beq_iff, ?_, ?_,
    fun v w same no_fact m => holder?_congr same no_fact m⟩
  · intro finish inst inst' name fields order hperm
    simp only [feed, hperm.length_eq, feedFields_perm hperm]
  · intro k k' same entries
    refine ⟨lookup_congr same entries, fun v => ?_⟩
    exact map_beq_iff.2 ⟨_, .refl _, putEntry_congr same v entries⟩

/-- A NaN is a key of the ledger, and a fact with a map in a field stands under it. -/
def ledger : Value :=
  map [(float ⟨0x7ff8000000000001⟩, vec [fact ⟨1⟩ "Entry" [("marks", map [(int 1, nil), (int 2, nil)])]]),
    (string "feed", source ⟨3⟩)]

/-- The ledger with another instance of the fact, and with the entries of both maps turned round. -/
def ledgerTurned : Value :=
  map [(string "feed", source ⟨3⟩),
    (float ⟨0x7ff8000000000001⟩, vec [fact ⟨2⟩ "Entry" [("marks", map [(int 2, nil), (int 1, nil)])]])]

theorem turned_ledger_interchangeable :
    (ledger == ledgerTurned) = true ∧ (ledgerTurned == ledger) = true ∧
      ledger.digest = ledgerTurned.digest ∧
      lookup ledger [(nil, nil), (ledgerTurned, int 7)] = some (int 7) ∧
      (WorkingMemory.empty.insert ledgerTurned 0).2.holder? ledger = some ⟨0, 0⟩ ∧
      (fact ⟨1⟩ "Entry" [("a", nil), ("b", ledger)]).digest =
        (fact ⟨2⟩ "Entry" [("b", ledger), ("a", nil)]).digest := by
  rcases equal_values_interchangeable with ⟨⟨-, symmetric, -⟩, fed, -, turned, keys, holders⟩
  have same : (ledger == ledgerTurned) = true := rfl
  refine ⟨same, symmetric _ _ same, congrArg mixWords (fed mixWords _ _ same), ?_, ?_, ?_⟩
  · exact (keys _ _ same _).1.trans rfl
  · exact (holders _ _ same rfl _).trans rfl
  · exact congrArg mixWords (turned mixWords _ _ _ _ _ (.swap _ _ _))

end Value
end RuleEngine
