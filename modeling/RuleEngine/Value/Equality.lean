import RuleEngine.Value.Basic

/-!
# Equality of values

Values are equal by content, with three refinements.  Floating point numbers are equal when their
bits are, so a NaN equals itself and the two zeros differ.  The instances of facts do not count.
Sources have no content of their own and are equal when they are the same stream.

Two maps are equal when their entries can be paired off as equal; the order of entries does not
count.  `feed` is the data by which a hash function sees a value: equal values feed the same data.
-/

namespace RuleEngine

/-- A list without the first item for which the test holds, if there is one. -/
def takeFirst? {α : Type} (test : α → Bool) : List α → Option (List α)
  | [] => none
  | a :: rest => if test a then some rest else (takeFirst? test rest).map (a :: ·)

theorem takeFirst?_eq {α : Type} (test : α → Bool) (items : List α) :
    takeFirst? test items = if items.any test then some (items.eraseP test) else none := by
  induction items with
  | nil => rfl
  | cons a rest ih =>
      cases h : test a with
      | true => simp [takeFirst?, h]
      | false =>
          cases hr : rest.any test <;> simp_all [takeFirst?]

namespace Value

/-! ## Equality -/

mutual

/-- Whether two values are equal. -/
def beq : Value → Value → Bool
  | nil, nil => true
  | bool a, bool b => a == b
  | int a, int b => a == b
  | float a, float b => a == b
  | string a, string b => a == b
  | handle a, handle b => a == b
  | fact _ a fields, fact _ b fields' => a == b && beqFields fields fields'
  | vec items, vec items' => beqItems items items'
  | map entries, map entries' => beqEntries entries entries'
  | source a, source b => a == b
  | _, _ => false
termination_by structural v => v

def beqField : String × Value → String × Value → Bool
  | (a, v), (b, w) => a == b && beq v w
termination_by structural v => v

/-- Whether two lists of fields agree position by position. -/
def beqFields : List (String × Value) → List (String × Value) → Bool
  | [], [] => true
  | a :: rest, b :: rest' => beqField a b && beqFields rest rest'
  | _, _ => false
termination_by structural v => v

/-- Whether two lists of items agree position by position. -/
def beqItems : List Value → List Value → Bool
  | [], [] => true
  | v :: rest, w :: rest' => beq v w && beqItems rest rest'
  | _, _ => false
termination_by structural v => v

def beqEntry : Value × Value → Value × Value → Bool
  | (k, v), e => beq k e.1 && beq v e.2
termination_by structural v => v

/-- Whether the entries of two lists can be paired off: each entry of the first list takes the first
entry of the second that equals it and that no earlier entry has taken. -/
def beqEntries : List (Value × Value) → List (Value × Value) → Bool
  | [], entries' => entries'.isEmpty
  | e :: rest, entries' =>
    -- one pass, so that equal entries are compared once however deep they are
    match takeFirst? (beqEntry e) entries' with
    | some others => beqEntries rest others
    | none => false
termination_by structural v => v

end

instance : BEq Value := ⟨beq⟩

/-! ## Hashing -/

mutual

/-- The words that a value feeds to a hash function.  The fields of a fact and the entries of a map
are hashed one by one with `finish` and their hashes are added up, so that their order does not
show. -/
def feed (finish : List Nat → UInt64) : Value → List Nat
  | nil => [0]
  | bool b => [1, b.toNat]
  | int n => [2, n.toUInt64.toNat]
  | float x => [3, x.bits.toNat]
  | string s => 4 :: s.length :: s.toList.map Char.toNat
  | handle h => [5, h.id, h.partition]
  | fact _ typeName fields =>
    6 :: typeName.length :: typeName.toList.map Char.toNat ++
      [fields.length, (feedFields finish fields).toNat]
  | vec items => 7 :: items.length :: feedItems finish items
  | map entries => [8, entries.length, (feedEntries finish entries).toNat]
  | source id => [9, id.index]

def feedField (finish : List Nat → UInt64) : String × Value → List Nat
  | (name, v) => name.length :: name.toList.map Char.toNat ++ feed finish v

def feedFields (finish : List Nat → UInt64) : List (String × Value) → UInt64
  | [] => 0
  | e :: rest => finish (feedField finish e) + feedFields finish rest

def feedItems (finish : List Nat → UInt64) : List Value → List Nat
  | [] => []
  | v :: rest => feed finish v ++ feedItems finish rest

def feedEntry (finish : List Nat → UInt64) : Value × Value → List Nat
  | (k, v) => feed finish k ++ feed finish v

def feedEntries (finish : List Nat → UInt64) : List (Value × Value) → UInt64
  | [] => 0
  | e :: rest => finish (feedEntry finish e) + feedEntries finish rest

end

def mixWords (words : List Nat) : UInt64 :=
  words.foldl (fun h w => (h ^^^ .ofNat w) * 0x100000001b3) 0xcbf29ce484222325

/-- The hash of a value. -/
def digest (v : Value) : UInt64 :=
  mixWords (v.feed mixWords)

/-! ## Maps -/

def lookup (key : Value) (entries : List (Value × Value)) : Option Value :=
  (entries.find? fun e => e.1 == key).map (·.2)

/-- The entries with a value under a key, in place of the value that was there. -/
def putEntry (key value : Value) : List (Value × Value) → List (Value × Value)
  | [] => [(key, value)]
  | entry :: rest =>
    if entry.1 == key then (entry.1, value) :: rest else entry :: putEntry key value rest

/-- The map of a list of entries; the last one under a key counts. -/
def mapOfList (entries : List (Value × Value)) : Value :=
  map (entries.foldl (fun es e => putEntry e.1 e.2 es) [])

end Value
end RuleEngine
