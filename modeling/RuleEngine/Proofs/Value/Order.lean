import RuleEngine.Proofs.Memory.Index
import RuleEngine.Proofs.Numeric.Rounding
import RuleEngine.Value.Order

/-!
# Coherence of the order of values

Integers are compared exactly with each other, and by what they are rounded to with floating point
numbers.  The two fit together because rounding keeps the order: a chain of comparisons that passes
through a floating point number is a chain of roundings, and the integers at its ends, which are
compared exactly, can only stand in the order of their roundings.  Nothing is said of ties, and there
is nothing to say: integers that differ may tie with the same floating point number.
-/

namespace RuleEngine

/-! ## Floating point numbers and handles -/

namespace Binary64

theorem compare?_eq_lt_iff {x y : Binary64} :
    x.compare? y = some .lt ↔ x.isNaN = false ∧ y.isNaN = false ∧ x.rank < y.rank := by
  unfold compare?
  cases x.isNaN <;> cases y.isNaN <;> simp [Int.compare_eq_lt]

theorem compare?_swap (x y : Binary64) : y.compare? x = (x.compare? y).map Ordering.swap := by
  unfold compare?
  rw [Bool.or_comm]
  cases x.isNaN || y.isNaN with
  | true => rfl
  | false => exact congrArg some Std.OrientedCmp.eq_swap

end Binary64

theorem Handle.order_swap (a b : Handle) : b.order a = (a.order b).swap := by
  rw [order, order, Ordering.swap_then, ← Std.OrientedCmp.eq_swap, ← Std.OrientedCmp.eq_swap]

namespace Value

variable {a b c : Value}

/-! ## What stands below what -/

/-- Where a number stands among the floating point numbers: an integer at its rounding, and a NaN
nowhere. -/
def place? : Value → Option Int
  | int n => some (Binary64.ofInt n.toInt).rank
  | float x => if x.isNaN then none else some x.rank
  | _ => none

/-- One value stands below another: scalars of one kind in their own order, and two numbers that are
not both integers in the order of their places. -/
inductive Below : Value → Value → Prop where
  | bools {a b : Bool} (less : compare a b = .lt) : Below (bool a) (bool b)
  | ints {m n : Int64} (less : m.toInt < n.toInt) : Below (int m) (int n)
  | strings {a b : String} (less : compare a b = .lt) : Below (string a) (string b)
  | handles {a b : Handle} (less : a.order b = .lt) : Below (handle a) (handle b)
  | places {a b : Value} {i j : Int} (first : a.place? = some i) (second : b.place? = some j)
      (mixed : a.int? = none ∨ b.int? = none) (less : i < j) : Below a b

theorem natAbs_toInt_le (n : Int64) : n.toInt.natAbs ≤ 2 ^ 63 := by
  have lower := n.le_toInt
  have upper := n.toInt_lt
  omega

theorem place?_int (n : Int64) : (int n).place? = some (Binary64.ofInt n.toInt).rank := rfl

theorem place?_float {x : Binary64} (number : x.isNaN = false) :
    (float x).place? = some x.rank := by
  simp only [place?, number, Bool.false_eq_true, if_false]

/-- Only numbers have a place. -/
theorem place?_cases {i : Int} (placed : a.place? = some i) :
    (∃ n, a = int n ∧ (Binary64.ofInt n.toInt).rank = i) ∨
      ∃ x, a = float x ∧ x.isNaN = false ∧ x.rank = i := by
  cases a with
  | int n => exact Or.inl ⟨n, rfl, Option.some.inj placed⟩
  | float x =>
      cases number : x.isNaN with
      | true => simp [place?, number] at placed
      | false => exact Or.inr ⟨x, rfl, number, by simpa [place?, number] using placed⟩
  | _ => cases placed

/-- Of two integers, the greater one has no lower place. -/
theorem place_mono {m n : Int64} (h : m.toInt ≤ n.toInt) :
    (Binary64.ofInt m.toInt).rank ≤ (Binary64.ofInt n.toInt).rank :=
  Binary64.rank_ofInt_mono h (natAbs_toInt_le m) (natAbs_toInt_le n)

theorem lt_of_place_lt {m n : Int64}
    (h : (Binary64.ofInt m.toInt).rank < (Binary64.ofInt n.toInt).rank) : m.toInt < n.toInt :=
  Int.not_le.1 fun above => Int.not_le.2 h (place_mono above)

/-- An integer meets a floating point number as its rounding, which is never a NaN. -/
theorem isNaN_ofInt_toInt (n : Int64) : (Binary64.ofInt n.toInt).isNaN = false :=
  Binary64.isNaN_ofInt (natAbs_toInt_le n)

theorem compare?_eq_lt_iff : a.compare? b = some .lt ↔ Below a b := by
  constructor
  · intro less
    unfold compare? at less
    split at less
    · cases less
    · exact .bools (Option.some.inj less)
    · exact .ints (Int.compare_eq_lt.1 (Option.some.inj less))
    · have ⟨hx, hy, order⟩ := Binary64.compare?_eq_lt_iff.1 less
      exact .places (place?_float hx) (place?_float hy) (Or.inl rfl) order
    · have ⟨_, hy, order⟩ := Binary64.compare?_eq_lt_iff.1 less
      exact .places (place?_int _) (place?_float hy) (Or.inr rfl) order
    · have ⟨hx, _, order⟩ := Binary64.compare?_eq_lt_iff.1 less
      exact .places (place?_float hx) (place?_int _) (Or.inl rfl) order
    · exact .strings (Option.some.inj less)
    · exact .handles (Option.some.inj less)
    · cases less
  · intro below
    cases below with
    | bools less => exact congrArg some less
    | ints less => exact congrArg some (Int.compare_eq_lt.2 less)
    | strings less => exact congrArg some less
    | handles less => exact congrArg some less
    | places first second mixed less =>
        rcases place?_cases first with ⟨m, rfl, rfl⟩ | ⟨x, rfl, hx, rfl⟩
        · rcases place?_cases second with ⟨n, rfl, rfl⟩ | ⟨y, rfl, hy, rfl⟩
          -- two integers are not compared by their places
          · rcases mixed with none | none <;> cases none
          · exact Binary64.compare?_eq_lt_iff.2 ⟨isNaN_ofInt_toInt m, hy, less⟩
        · rcases place?_cases second with ⟨n, rfl, rfl⟩ | ⟨y, rfl, hy, rfl⟩
          · exact Binary64.compare?_eq_lt_iff.2 ⟨hx, isNaN_ofInt_toInt n, less⟩
          · exact Binary64.compare?_eq_lt_iff.2 ⟨hx, hy, less⟩

/-! ## Transitivity -/

/-- Places in order put the values in order, also when both are integers. -/
theorem Below.of_places {i j : Int} (first : a.place? = some i) (second : b.place? = some j)
    (less : i < j) : Below a b := by
  rcases place?_cases first with ⟨m, rfl, rfl⟩ | ⟨x, rfl, -, -⟩
  · rcases place?_cases second with ⟨n, rfl, rfl⟩ | ⟨y, rfl, -, -⟩
    · exact .ints (lt_of_place_lt less)
    · exact .places first second (Or.inr rfl) less
  · exact .places first second (Or.inl rfl) less

theorem Below.trans (hab : Below a b) (hbc : Below b c) : Below a c := by
  cases hab with
  | bools less =>
      cases hbc with
      | bools less' => exact .bools (Std.TransCmp.lt_trans less less')
      | places first => cases first
  | ints less =>
      cases hbc with
      | ints less' => exact .ints (Int.lt_trans less less')
      -- the rounding of the least integer is not above that of the middle one
      | places first second _ less' =>
          have between := place_mono (Int.le_of_lt less)
          rw [place?_int, Option.some.injEq] at first
          exact .of_places (place?_int _) second (by omega)
  | strings less =>
      cases hbc with
      | strings less' => exact .strings (Std.TransCmp.lt_trans less less')
      | places first => cases first
  | handles less =>
      cases hbc with
      | handles less' => exact .handles (Handle.order_lt_trans less less')
      | places first => cases first
  | places first second _ less =>
      cases hbc with
      | bools | strings | handles => cases second
      | ints less' =>
          have between := place_mono (Int.le_of_lt less')
          rw [place?_int, Option.some.injEq] at second
          exact .of_places first (place?_int _) (by omega)
      | places middle last _ less' =>
          rw [second, Option.some.injEq] at middle
          exact .of_places first last (by omega)

/-! ## Both directions -/

theorem compare?_swap (a b : Value) : b.compare? a = (a.compare? b).map Ordering.swap := by
  cases a with
  | nil => cases b <;> rfl
  | bool a =>
      cases b with
      | bool b => exact congrArg some Std.OrientedCmp.eq_swap
      | _ => rfl
  | int m =>
      cases b with
      | int n => exact congrArg some Std.OrientedCmp.eq_swap
      | float y => exact Binary64.compare?_swap _ y
      | _ => rfl
  | float x =>
      cases b with
      | int n => exact Binary64.compare?_swap x _
      | float y => exact Binary64.compare?_swap x y
      | _ => rfl
  | string a =>
      cases b with
      | string b => exact congrArg some Std.OrientedCmp.eq_swap
      | _ => rfl
  | handle a =>
      cases b with
      | handle b => exact congrArg some (Handle.order_swap a b)
      | _ => rfl
  | fact | vec | map | source => cases b <;> rfl

/-! ## Equal values -/

/-- Equal values are the same value, or of a kind that has no order. -/
theorem eq_or_unordered (same : beq a b = true) :
    a = b ∨ ∀ c : Value, a.compare? c = none ∧ b.compare? c = none := by
  cases a with
  | nil =>
      cases b with
      | nil => exact Or.inl rfl
      | _ => cases same
  | bool a =>
      cases b with
      | bool b => exact Or.inl (congrArg bool (eq_of_beq same))
      | _ => cases same
  | int m =>
      cases b with
      | int n => exact Or.inl (congrArg int (eq_of_beq same))
      | _ => cases same
  | float x =>
      cases b with
      | float y => exact Or.inl (congrArg float (eq_of_beq same))
      | _ => cases same
  | string a =>
      cases b with
      | string b => exact Or.inl (congrArg string (eq_of_beq same))
      | _ => cases same
  | handle a =>
      cases b with
      | handle b => exact Or.inl (congrArg handle (eq_of_beq same))
      | _ => cases same
  | fact | vec | map | source =>
      cases b with
      | fact | vec | map | source => exact Or.inr fun c => by cases c <;> exact ⟨rfl, rfl⟩
      | _ => cases same

theorem compare?_congr (same : beq a b = true) (c : Value) : a.compare? c = b.compare? c := by
  rcases eq_or_unordered same with rfl | unordered
  · rfl
  · rw [(unordered c).1, (unordered c).2]

/-- A NaN is compared with nothing. -/
theorem compare?_of_isNaN {x : Binary64} (nan : x.isNaN = true) (v : Value) :
    (float x).compare? v = none := by
  cases v with
  | float y => simp [compare?, Binary64.compare?, nan]
  | int n => simp [compare?, Binary64.compare?, nan]
  | _ => rfl

/-- The order of values is coherent:

* comparing two values the other way round gives the reverse answer, and none where there was none;
* what lies below something lies below all that this lies below, also when integers, which are compared
  exactly with each other, and floating point numbers, with which they are compared by their
  roundings, follow each other in any way;
* equal values are compared alike with everything;
* a NaN is compared with nothing. -/
theorem order_coherent :
    (∀ a b : Value, b.compare? a = (a.compare? b).map Ordering.swap) ∧
    (∀ a b c : Value, a.compare? b = some .lt → b.compare? c = some .lt →
      a.compare? c = some .lt) ∧
    (∀ a b : Value, (a == b) = true → ∀ c : Value,
      a.compare? c = b.compare? c ∧ c.compare? a = c.compare? b) ∧
    ∀ (x : Binary64) (v : Value), x.isNaN = true → (float x).compare? v = none := by
  refine ⟨compare?_swap, ?_, ?_, fun x v nan => compare?_of_isNaN nan v⟩
  · intro a b c first second
    have chain : Below a c := (compare?_eq_lt_iff.1 first).trans (compare?_eq_lt_iff.1 second)
    exact compare?_eq_lt_iff.2 chain
  · intro a b same c
    have alike := compare?_congr same c
    exact ⟨alike, by rw [compare?_swap a c, compare?_swap b c, alike]⟩

/-- Two instances of a fact that are equal. -/
def point (inst : Nat) : Value :=
  fact ⟨inst⟩ "Point" [("x", int 0)]

/-- An integer that is rounded down to the one before it, and the next floating point number. -/
theorem rounded_integer_between :
    (int 9007199254740992).compare? (int 9007199254740993) = some .lt ∧
      (int 9007199254740993).compare? (float ⟨0x4340000000000000⟩) = some .eq ∧
      (int 9007199254740993).compare? (float ⟨0x4340000000000001⟩) = some .lt ∧
      (int 9007199254740992).compare? (float ⟨0x4340000000000001⟩) = some .lt ∧
      (float ⟨0x7ff8000000000000⟩).compare? (float ⟨0x7ff8000000000000⟩) = none ∧
      ∀ c : Value, (point 0).compare? c = (point 1).compare? c ∧
        c.compare? (point 0) = c.compare? (point 1) := by
  have exactly : (int 9007199254740992).compare? (int 9007199254740993) = some .lt := by
    decide +kernel
  have tie : (int 9007199254740993).compare? (float ⟨0x4340000000000000⟩) = some .eq := by
    decide +kernel
  have rounded : (int 9007199254740993).compare? (float ⟨0x4340000000000001⟩) = some .lt := by
    decide +kernel
  have ⟨_, transitive, equal, nan⟩ := order_coherent
  exact ⟨exactly, tie, rounded, transitive _ _ _ exactly rounded, nan _ _ (by decide),
    equal (point 0) (point 1) (by decide +kernel)⟩

end Value
end RuleEngine
