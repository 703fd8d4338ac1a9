/-!
# Move letters

The fourteen letters of move notation.  A capital names the turn of one face or, for `M`, of the
middle slice; `x`, `y` and `z` rotate the whole cube; `u`, `d`, `r` and `l` turn a face together
with the slice behind it.  Letters differ by case alone in four places, so case matters throughout.
-/

namespace TwistyCube

/-- The letter of a move, which says what turns.  Letters are ordered as they are listed here. -/
inductive Letter where
  -- A layer: up, down, right, left, front or back.
  | U
  | D
  | R
  | L
  | F
  | B
  -- The slice between left and right, turning the way the left layer does.
  | M
  -- The whole cube, turning the way the right, the top and the front layer do.
  | x
  | y
  | z
  -- A layer and the slice next to it.
  | u
  | d
  | r
  | l
  deriving DecidableEq, Ord

namespace Letter

/-- Every letter, in the order of the notation table.  Random letters are drawn from this list. -/
def all : List Letter := [U, x, y, z, D, R, L, F, B, M, u, d, r, l]

/-- The character the letter is written as. -/
def symbol : Letter → Char
  | U => 'U'
  | D => 'D'
  | R => 'R'
  | L => 'L'
  | F => 'F'
  | B => 'B'
  | M => 'M'
  | x => 'x'
  | y => 'y'
  | z => 'z'
  | u => 'u'
  | d => 'd'
  | r => 'r'
  | l => 'l'

/-- The name of the letter, in which a turn of two layers ends in `w` for wide. -/
def name : Letter → String
  | U => "U"
  | D => "D"
  | R => "R"
  | L => "L"
  | F => "F"
  | B => "B"
  | M => "M"
  | x => "X"
  | y => "Y"
  | z => "Z"
  | u => "Uw"
  | d => "Dw"
  | r => "Rw"
  | l => "Lw"

/-- The letter written as a character. -/
def ofSymbol? (c : Char) : Option Letter := all.find? fun k => k.symbol == c

/-! ## Lemmas -/

theorem mem_all (k : Letter) : k ∈ all := by
  cases k <;> decide

theorem nodup_all : all.Nodup := by decide

@[simp] theorem ofSymbol?_symbol (k : Letter) : ofSymbol? k.symbol = some k := by
  cases k <;> decide

/-- Only a letter's own symbol is read as that letter. -/
theorem ofSymbol?_eq_some_iff {c : Char} {k : Letter} : ofSymbol? c = some k ↔ c = k.symbol := by
  constructor
  · intro h
    have := List.find?_some h
    simpa using (beq_iff_eq.1 this).symm
  · rintro rfl
    exact ofSymbol?_symbol k

end Letter

end TwistyCube
