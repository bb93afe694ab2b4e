/-!
# Keystreams

A keystream is an endless sequence of words that a seed determines: ChaCha with eight rounds, whose
key is expanded from the seed by a linear congruential generator with a permuted output.  All
arithmetic wraps.

The state of the cipher is four rows of four words.  A round mixes the columns; mixing the diagonals
is mixing the columns of the rows turned against each other.
-/

namespace RuleEngine
namespace Keystream

/-! ## Rows -/

/-- Four words side by side. -/
structure Row where
  a : UInt32
  b : UInt32
  c : UInt32
  d : UInt32

def turnWord (x : UInt32) (n : UInt32) : UInt32 :=
  (x <<< n) ||| (x >>> (32 - n))

namespace Row

def words (r : Row) : List UInt32 :=
  [r.a, r.b, r.c, r.d]

def add (r s : Row) : Row :=
  ⟨r.a + s.a, r.b + s.b, r.c + s.c, r.d + s.d⟩

/-- The differences of the bits of two rows, turned to the left. -/
def mix (r s : Row) (n : UInt32) : Row :=
  ⟨turnWord (r.a ^^^ s.a) n, turnWord (r.b ^^^ s.b) n, turnWord (r.c ^^^ s.c) n,
    turnWord (r.d ^^^ s.d) n⟩

def turn (r : Row) : Row :=
  ⟨r.b, r.c, r.d, r.a⟩

end Row

/-! ## Blocks -/

/-- The state of the cipher. -/
structure State where
  r0 : Row
  r1 : Row
  r2 : Row
  r3 : Row

namespace State

def words (s : State) : List UInt32 :=
  s.r0.words ++ s.r1.words ++ s.r2.words ++ s.r3.words

def add (s t : State) : State :=
  ⟨s.r0.add t.r0, s.r1.add t.r1, s.r2.add t.r2, s.r3.add t.r3⟩

def mixColumns (s : State) : State :=
  let r0 := s.r0.add s.r1
  let r3 := s.r3.mix r0 16
  let r2 := s.r2.add r3
  let r1 := s.r1.mix r2 12
  let r0 := r0.add r1
  let r3 := r3.mix r0 8
  let r2 := r2.add r3
  let r1 := r1.mix r2 7
  ⟨r0, r1, r2, r3⟩

def doubleRound (s : State) : State :=
  let s := s.mixColumns
  -- the diagonals stand below each other once the rows are turned
  let s := (State.mk s.r0 s.r1.turn s.r2.turn.turn s.r3.turn.turn.turn).mixColumns
  ⟨s.r0, s.r1.turn.turn.turn, s.r2.turn.turn, s.r3.turn⟩

end State

def constants : Row :=
  ⟨0x61707865, 0x3320646e, 0x79622d32, 0x6b206574⟩

/-! ## Keys -/

def expandStep (s : UInt64) : UInt64 :=
  s * 6364136223846793005 + 11634580027462260723

/-- The word that a state of the generator gives out: bits from its middle, turned to the right by
its topmost bits. -/
def expandWord (s : UInt64) : UInt32 :=
  let turns : UInt32 := (s >>> 59).toUInt32
  -- to the right by `turns` is to the left by the rest of the word
  turnWord (((s >>> 18) ^^^ s) >>> 27).toUInt32 (32 - turns)

def expandStates (count : Nat) (seed : UInt64) : List UInt64 :=
  match count with
  | 0 => []
  | n + 1 => expandStep seed :: expandStates n (expandStep seed)

def keyRows (seed : UInt64) : Row × Row :=
  match (expandStates 8 seed).map expandWord with
  | [a, b, c, d, e, f, g, h] => (⟨a, b, c, d⟩, ⟨e, f, g, h⟩)
  | _ => (⟨0, 0, 0, 0⟩, ⟨0, 0, 0, 0⟩)

/-! ## Words of the stream -/

/-- The words of a block: four double rounds, added to the state before them. -/
def block (seed : UInt64) (counter : Nat) : List UInt32 :=
  let (r1, r2) := keyRows seed
  let low := UInt32.ofNat counter
  let high := UInt32.ofNat (counter / UInt32.size)
  let initial : State := ⟨constants, r1, r2, ⟨low, high, 0, 0⟩⟩
  (initial.doubleRound.doubleRound.doubleRound.doubleRound.add initial).words

/-- The long word at a place of the stream: two successive words, the lower half first. -/
def longWord (seed : UInt64) (place : Nat) : UInt64 :=
  match (block seed (place / 8)).drop (2 * (place % 8)) with
  | low :: high :: _ => low.toUInt64 ||| (high.toUInt64 <<< 32)
  | _ => 0

end Keystream
end RuleEngine
