import TwistyCube.Cube

/-!
# Primitive moves

The two kinds of move that a cube performs directly: a clockwise quarter turn of the top layer, and
a clockwise quarter rotation of the whole cube about an axis.  Turning the top layer is the only
one that carries stickers from one face to another.
-/

namespace TwistyCube

universe u

/-- A move that is performed directly. -/
inductive Primitive where
  | turnTop
  | rotate (a : Axis)
  deriving DecidableEq

def Primitive.name : Primitive → String
  | turnTop => "UpperTurn"
  | rotate a => "Rotate(" ++ a.name ++ ")"

namespace Cube

variable {α : Type u}

/-- Turns the top layer clockwise by a quarter.  The top rows of the four sides around it each move
one place to the left, and the grid on top turns. -/
def turnTop (c : Cube α) : Cube α :=
  c.mapSides fun
    -- The rows are those of the cube before the turn, so none of them is overwritten on the way.
    | .front, g => { g with top := (c.view .right).top }
    | .right, g => { g with top := (c.view .back).top }
    | .back, g => { g with top := (c.view .left).top }
    | .left, g => { g with top := (c.view .front).top }
    | .top, g => g.rotate
    | .bottom, g => g

/-- Rotates the whole cube clockwise by a quarter about an axis.  Each face moves to its new side,
and its grid is turned so that its top row is again the one next to the top side. -/
def rotate (a : Axis) (c : Cube α) : Cube α :=
  mapSides (fun s g => g.turn (a.correction s)) { c with orientation := c.orientation.rotate a }

def perform (p : Primitive) (c : Cube α) : Cube α :=
  match p with
  | .turnTop => c.turnTop
  | .rotate a => c.rotate a

/-! ## What is seen after a primitive move -/

@[simp] theorem orientation_turnTop (c : Cube α) : c.turnTop.orientation = c.orientation := rfl

@[simp] theorem orientation_rotate (a : Axis) (c : Cube α) :
    (c.rotate a).orientation = c.orientation.rotate a := rfl

/-- A rotation brings to each side what was at the source of that side, turned upright. -/
@[simp] theorem view_rotate (a : Axis) (c : Cube α) (s : Side) :
    (c.rotate a).view s = (c.view (a.source s)).turn (a.correction s) := by
  rw [rotate, view_mapSides]
  simp [view, face]

end Cube

end TwistyCube
