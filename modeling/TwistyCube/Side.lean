import TwistyCube.Six

/-!
# Sides and axes

A side is a direction as the viewer sees it.  Each side is occupied by exactly one physical face,
and which one changes when the cube is turned.

The whole cube is rotated about one of three axes.  A clockwise quarter rotation carries the face at
each side to the next side, and leaves each face's grid standing on another of its edges:
`Axis.correction` says by how many clockwise quarters the grid that arrives at a side has to be
turned for its top row to be again the one next to the top side.
-/

namespace TwistyCube

universe u

/-! ## Sides -/

/-- A direction relative to the viewer.  Sides are ordered as they are listed here. -/
inductive Side where
  | front
  | right
  | back
  | left
  | top
  | bottom
  deriving DecidableEq, Ord

namespace Side

instance : Sixfold Side where
  members := ⟨front, right, back, left, top, bottom⟩
  position
    | front => .first
    | right => .second
    | back => .third
    | left => .fourth
    | top => .fifth
    | bottom => .sixth
  nth_position s := by cases s <;> rfl
  position_nth n := by cases n <;> rfl

/-- Every side, in the order in which a cube is drawn. -/
abbrev all : List Side := Sixfold.all Side

def name : Side → String
  | front => "Front"
  | right => "Right"
  | back => "Back"
  | left => "Left"
  | top => "Top"
  | bottom => "Bottom"

end Side

/-- One value for each side. -/
abbrev Sides (α : Type u) := Six Side α

/-! ## Axes -/

inductive Axis where
  /-- From left to right; rotations about it turn the way the right face turns. -/
  | x
  /-- From bottom to top; rotations about it turn the way the top face turns. -/
  | y
  /-- From back to front; rotations about it turn the way the front face turns. -/
  | z
  deriving DecidableEq

namespace Axis

/-- The capital letter that names the axis. -/
def name : Axis → String
  | x => "X"
  | y => "Y"
  | z => "Z"

/-- The side to which a clockwise quarter rotation carries what is at a side. -/
def target : Axis → Side → Side
  | x, .front => .top
  | x, .top => .back
  | x, .back => .bottom
  | x, .bottom => .front
  | y, .front => .left
  | y, .left => .back
  | y, .back => .right
  | y, .right => .front
  | z, .top => .right
  | z, .right => .bottom
  | z, .bottom => .left
  | z, .left => .top
  | _, s => s

/-- The side from which a clockwise quarter rotation brings what arrives at a side. -/
def source : Axis → Side → Side
  | x, .top => .front
  | x, .back => .top
  | x, .bottom => .back
  | x, .front => .bottom
  | y, .left => .front
  | y, .back => .left
  | y, .right => .back
  | y, .front => .right
  | z, .right => .top
  | z, .bottom => .right
  | z, .left => .bottom
  | z, .top => .left
  | _, s => s

/-- The clockwise quarters by which the grid that has arrived at a side is to be turned. -/
def correction : Axis → Side → Nat
  -- The two faces on the axis turn in their places, one of them as seen from behind.
  | x, .right => 1
  | x, .back => 2
  | x, .left => 3
  | x, .bottom => 2
  | x, _ => 0
  | y, .top => 1
  | y, .bottom => 3
  | y, _ => 0
  | z, .back => 3
  | z, _ => 1

@[simp] theorem source_target (a : Axis) (s : Side) : a.source (a.target s) = s := by
  cases a <;> cases s <;> rfl

@[simp] theorem target_source (a : Axis) (s : Side) : a.target (a.source s) = s := by
  cases a <;> cases s <;> rfl

/-- What arrives at two sides comes from two sides. -/
theorem source_injective (a : Axis) {s t : Side} (h : a.source s = a.source t) : s = t := by
  rw [← target_source a s, h, target_source]

end Axis

end TwistyCube
