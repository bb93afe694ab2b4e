import RuleEngine.Naming.Keystream

/-!
# Tokens

Generated names carry a token, so that two builds in one package do not get the same name.  Tokens
are drawn from a source, one after the other.  They are not negative as signed 64-bit words.
-/

namespace RuleEngine

/-- A source of tokens: a keystream and the number of tokens drawn from it.

A random source only stands in for a generator that nobody can foresee: its seed is picked anew for each
source and is not known beforehand.  Two copies of it go on from one place and draw the same tokens,
where a generator that is shared would give each of them tokens of its own. -/
inductive TokenStream where
  | random (seed : UInt64) (drawn : Nat)
  | seeded (seed : UInt64) (drawn : Nat)
deriving DecidableEq

namespace TokenStream

def tokenAt (seed : UInt64) (place : Nat) : UInt64 :=
  Keystream.longWord seed place >>> 1

def draw : TokenStream → UInt64 × TokenStream
  | random seed drawn => (tokenAt seed drawn, random seed (drawn + 1))
  | seeded seed drawn => (tokenAt seed drawn, seeded seed (drawn + 1))

def drawMany (source : TokenStream) : Nat → List UInt64 × TokenStream
  | 0 => ([], source)
  | n + 1 =>
    let (token, source) := source.draw
    let (later, source) := source.drawMany n
    (token :: later, source)

def debug : TokenStream → String
  | random .. => "TokenSource::Random"
  | seeded .. => "TokenSource::Seeded"

end TokenStream
end RuleEngine
