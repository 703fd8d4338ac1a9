/-!
# A generator of random words

A generator of 64-bit words with one word of state.  At each word the state goes up by an odd
constant, and the word is the state with its bits mixed by two rounds of shifting and multiplying.
All arithmetic is modulo `2 ^ 64`.
-/

namespace TwistyCube

/-- The state of a generator of random words. -/
structure WordSource where
  state : UInt64
  deriving DecidableEq

namespace WordSource

/-- The bits of a state, mixed. -/
def mix (s : UInt64) : UInt64 :=
  let s := (s ^^^ (s >>> 30)) * 0xBF58476D1CE4E5B9
  let s := (s ^^^ (s >>> 27)) * 0x94D049BB133111EB
  s ^^^ (s >>> 31)

/-- The generator after one word. -/
def advance (g : WordSource) : WordSource := ⟨g.state + 0x9E3779B97F4A7C15⟩

/-- The first words of a generator. -/
def words (g : WordSource) : Nat → List UInt64
  | 0 => []
  | n + 1 => mix g.advance.state :: g.advance.words n

end WordSource

end TwistyCube
