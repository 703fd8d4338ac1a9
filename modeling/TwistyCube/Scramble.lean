import TwistyCube.Execution

/-!
# Scrambles

Letters are drawn from a supply of random 64-bit words.  A word is multiplied by fourteen, the
number of letters.  The high 64 bits of the product pick a letter, and the word is thrown away
unless the low 64 bits are below fourteen times `2 ^ 60`.  The products that pick one letter are
fourteen apart, so each letter is picked by exactly `2 ^ 60` words.

A scramble performs forty random quarter turns.  What it returns is enough to perform the same
moves again, or to undo them.
-/

namespace TwistyCube

universe u

/-! ## Random moves -/

namespace Letter

/-- The product of a word and the number of letters. -/
def scaled (v : UInt64) : Nat := v.toNat * all.length

/-- The number of words that pick one letter: a sixteenth of all words. -/
def wordsPerLetter : Nat := UInt64.size / 16

/-- The letter that a word picks, or nothing if the word is to be thrown away. -/
def ofWord? (v : UInt64) : Option Letter :=
  if scaled v % UInt64.size < all.length * wordsPerLetter then all[scaled v / UInt64.size]?
  else none

/-- Draws a letter from a supply of words, and returns the words that are left.  There is nothing
to return if the supply has no word that picks a letter. -/
def draw : List UInt64 → Option (Letter × List UInt64)
  | [] => none
  | v :: rest =>
    match ofWord? v with
    | some k => some (k, rest)
    | none => draw rest

end Letter

namespace Algorithm

/-- Draws a number of clockwise quarter turns from a supply of words, and returns the words that
are left.  There is nothing to return if the supply runs out first. -/
def draw : Nat → List UInt64 → Option (Algorithm × List UInt64)
  | 0, words => some ([], words)
  | n + 1, words => do
    let (k, words) ← Letter.draw words
    let (a, words) ← draw n words
    return (.quarter k :: a, words)

end Algorithm

/-! ## Scrambling -/

def scrambleLength : Nat := 40

/-- What a scramble returns. -/
structure Scramble (α : Type u) where
  /-- The moves that were drawn. -/
  moves : Algorithm
  /-- The cube after them. -/
  cube : Cube α
  /-- The records, oldest first. -/
  log : Array Event
  /-- The words that were not taken from the supply. -/
  rest : List UInt64

/-- Scrambles a cube with moves drawn from a supply of words, unless the supply runs out first. -/
def Cube.scramble {α : Type u} (words : List UInt64) (c : Cube α) : Option (Scramble α) :=
  (Algorithm.draw scrambleLength words).map fun (moves, rest) =>
    let o := c.applyMoves moves
    ⟨moves, o.cube, #[.scrambling moves] ++ o.log, rest⟩

end TwistyCube
