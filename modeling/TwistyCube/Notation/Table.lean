import TwistyCube.Notation.Move
import TwistyCube.Primitive

/-!
# The notation table

What each letter means, for a clockwise and for an anticlockwise quarter.  Only the clockwise turn
of the top layer and the clockwise rotations are performed directly.  Everything else is made of
other moves: a turn of another face is a turn of the top layer between two rotations that bring that
face to the top and back, a slice or a wide turn is made of face turns and a rotation, and an
anticlockwise quarter of what is performed directly is three clockwise quarters.

`Move.steps` counts the entries that are looked up before a move is down to primitive moves.  The
moves that a move is made of have fewer steps than the move itself, so looking up comes to an end.
-/

namespace TwistyCube

inductive Direction where
  | clockwise
  | anticlockwise
  deriving DecidableEq

inductive Entry where
  /-- The move is performed directly. -/
  | primitive (p : Primitive)
  /-- The move is made of other moves. -/
  | compound (a : Algorithm)
  deriving DecidableEq

namespace Letter

def entry : Letter → Direction → Entry
  | U, .clockwise => .primitive .turnTop
  | U, .anticlockwise => .compound [⟨U, .double⟩, ⟨U, .single⟩]
  | x, .clockwise => .primitive (.rotate .x)
  | x, .anticlockwise => .compound [⟨x, .double⟩, ⟨x, .single⟩]
  | y, .clockwise => .primitive (.rotate .y)
  | y, .anticlockwise => .compound [⟨y, .double⟩, ⟨y, .single⟩]
  | z, .clockwise => .primitive (.rotate .z)
  | z, .anticlockwise => .compound [⟨z, .double⟩, ⟨z, .single⟩]
  -- The layer of another side is brought to the top, turned there, and taken back.
  | D, .clockwise => .compound [⟨x, .double⟩, ⟨U, .single⟩, ⟨x, .double⟩]
  | D, .anticlockwise => .compound [⟨x, .double⟩, ⟨U, .inverse⟩, ⟨x, .double⟩]
  | R, .clockwise => .compound [⟨z, .inverse⟩, ⟨U, .single⟩, ⟨z, .single⟩]
  | R, .anticlockwise => .compound [⟨z, .inverse⟩, ⟨U, .inverse⟩, ⟨z, .single⟩]
  | L, .clockwise => .compound [⟨z, .single⟩, ⟨U, .single⟩, ⟨z, .inverse⟩]
  | L, .anticlockwise => .compound [⟨z, .single⟩, ⟨U, .inverse⟩, ⟨z, .inverse⟩]
  | F, .clockwise => .compound [⟨x, .single⟩, ⟨U, .single⟩, ⟨x, .inverse⟩]
  | F, .anticlockwise => .compound [⟨x, .single⟩, ⟨U, .inverse⟩, ⟨x, .inverse⟩]
  | B, .clockwise => .compound [⟨x, .inverse⟩, ⟨U, .single⟩, ⟨x, .single⟩]
  | B, .anticlockwise => .compound [⟨x, .inverse⟩, ⟨U, .inverse⟩, ⟨x, .single⟩]
  -- The layers on both sides of the slice are turned one way, and the whole cube the other way.
  | M, .clockwise => .compound [⟨L, .inverse⟩, ⟨R, .single⟩, ⟨x, .inverse⟩]
  | M, .anticlockwise => .compound [⟨L, .single⟩, ⟨R, .inverse⟩, ⟨x, .single⟩]
  -- Two layers are turned by turning the third one and then the whole cube.
  | u, .clockwise => .compound [⟨D, .single⟩, ⟨y, .single⟩]
  | u, .anticlockwise => .compound [⟨D, .inverse⟩, ⟨y, .inverse⟩]
  | d, .clockwise => .compound [⟨U, .single⟩, ⟨y, .inverse⟩]
  | d, .anticlockwise => .compound [⟨U, .inverse⟩, ⟨y, .single⟩]
  | r, .clockwise => .compound [⟨L, .single⟩, ⟨x, .single⟩]
  | r, .anticlockwise => .compound [⟨L, .inverse⟩, ⟨x, .inverse⟩]
  | l, .clockwise => .compound [⟨R, .single⟩, ⟨x, .inverse⟩]
  | l, .anticlockwise => .compound [⟨R, .inverse⟩, ⟨x, .single⟩]

/-- The number of entries looked up for a quarter turn of a letter, from its own entry down to
primitive moves. -/
def steps : Letter → Direction → Nat
  | U, .clockwise | x, .clockwise | y, .clockwise | z, .clockwise => 1
  | U, .anticlockwise | x, .anticlockwise | y, .anticlockwise | z, .anticlockwise => 4
  | D, .clockwise => 6
  | D, .anticlockwise => 9
  | R, .clockwise | L, .clockwise | F, .clockwise | B, .clockwise => 7
  | R, .anticlockwise | L, .anticlockwise | F, .anticlockwise | B, .anticlockwise => 10
  | M, .clockwise => 22
  | M, .anticlockwise => 19
  | u, .clockwise => 8
  | u, .anticlockwise => 14
  | d, .clockwise | d, .anticlockwise => 6
  | r, .clockwise => 9
  | r, .anticlockwise => 15
  | l, .clockwise | l, .anticlockwise => 12

end Letter

namespace Move

/-- The sense in which the table is looked up for a move.  A half turn is begun as a clockwise
quarter. -/
def direction (m : Move) : Direction :=
  match m.amount with
  | .single => .clockwise
  | .inverse => .anticlockwise
  | .double => .clockwise

/-- The entry that is looked up for a move. -/
def entry (m : Move) : Entry := m.letter.entry m.direction

/-- What is still to be done once the entry of a move has been carried out: the second quarter of a
half turn, and nothing otherwise. -/
def remainder (m : Move) : Algorithm :=
  match m.amount with
  | .single => []
  | .inverse => []
  | .double => [quarter m.letter]

/-- The moves that stand in the place of a move once its entry has been carried out. -/
def expansion (m : Move) : Algorithm :=
  match m.entry with
  | .primitive _ => m.remainder
  | .compound a => a ++ m.remainder

/-- The number of entries looked up for a move, from its own entry down to primitive moves. -/
def steps (m : Move) : Nat :=
  match m.amount with
  | .single => m.letter.steps .clockwise
  | .inverse => m.letter.steps .anticlockwise
  | .double => 2 * m.letter.steps .clockwise

theorem steps_le (m : Move) : m.steps ≤ 44 := by
  obtain ⟨k, a⟩ := m
  cases k <;> cases a <;> decide

end Move

namespace Algorithm

/-- The number of entries looked up for the moves of an algorithm. -/
def steps : Algorithm → Nat
  | [] => 0
  | m :: a => m.steps + steps a

theorem steps_append (a b : Algorithm) : steps (a ++ b) = steps a + steps b := by
  induction a with
  | nil => exact (Nat.zero_add _).symm
  | cons m a ih =>
    show m.steps + steps (a ++ b) = m.steps + steps a + steps b
    rw [ih, Nat.add_assoc]

theorem steps_le_of_mem {m : Move} {a : Algorithm} (h : m ∈ a) : m.steps ≤ steps a := by
  induction h with
  | head a => exact Nat.le_add_right ..
  | tail n _ ih => exact Nat.le_trans ih (Nat.le_add_left ..)

end Algorithm

/-- Looking up the entry of a move is one step, and the moves that take its place need the rest. -/
theorem Move.steps_eq (m : Move) : m.steps = Algorithm.steps m.expansion + 1 := by
  obtain ⟨k, a⟩ := m
  cases k <;> cases a <;> decide

end TwistyCube
