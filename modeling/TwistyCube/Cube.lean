import TwistyCube.Grid
import TwistyCube.Orientation

/-!
# Cubes

A cube is one grid of stickers for each physical face, and an orientation that says which face is
at which side.  Rotating the whole cube therefore moves no sticker from one grid to another.  The
view from outside is by side: `Cube.view` is the grid that is seen at a side.
-/

namespace TwistyCube

universe u v

/-- A cube with stickers of type `α`. -/
structure Cube (α : Type u) where
  /-- The grid of each physical face. -/
  grids : Faces (Grid α)
  orientation : Orientation
  deriving DecidableEq

namespace Cube

variable {α : Type u} {β : Type v}

/-- The cube with given grids, held in the canonical orientation. -/
def ofGrids (grids : Faces (Grid α)) : Cube α := ⟨grids, .canonical⟩

/-- The solved cube held in a given orientation: each face covered with its own colour. -/
def solvedIn (o : Orientation) : Cube Color :=
  ⟨Six.ofFn fun f => Grid.filled f.color, o⟩

/-- The solved cube in the canonical orientation. -/
def solved : Cube Color := solvedIn .canonical

/-! ## What is on a cube -/

def face (c : Cube α) (f : Face) : Grid α := c.grids.get f

def view (c : Cube α) (s : Side) : Grid α := c.face (c.orientation.face s)

/-- All stickers, grid by grid in the order of the faces. -/
def stickers (c : Cube α) : List α := c.grids.toList.flatMap Grid.toList

def count [DecidableEq α] (c : Cube α) (a : α) : Nat := c.stickers.count a

/-- Whether each face shows one colour only, however the cube is held. -/
def isSolved [DecidableEq α] (c : Cube α) : Bool := c.grids.toList.all Grid.isUniform

/-! ## Changing a cube -/

/-- Applies to the grid seen at each side what a function gives for that side. -/
def mapSides (h : Side → Grid α → Grid β) (c : Cube α) : Cube β where
  grids := Six.ofFn fun f => h (c.orientation.sideOf f) (c.face f)
  orientation := c.orientation

def map (h : α → β) (c : Cube α) : Cube β where
  grids := c.grids.map (Grid.map h)
  orientation := c.orientation

/-! ## Lemmas -/

theorem view_sideOf (c : Cube α) (f : Face) : c.view (c.orientation.sideOf f) = c.face f := by
  rw [view, Orientation.face_sideOf]

@[simp] theorem orientation_mapSides (h : Side → Grid α → Grid β) (c : Cube α) :
    (c.mapSides h).orientation = c.orientation := rfl

@[simp] theorem view_mapSides (h : Side → Grid α → Grid β) (c : Cube α) (s : Side) :
    (c.mapSides h).view s = h s (c.view s) := by
  simp [view, mapSides, face]

@[simp] theorem orientation_map (h : α → β) (c : Cube α) :
    (c.map h).orientation = c.orientation := rfl

@[simp] theorem view_map (h : α → β) (c : Cube α) (s : Side) :
    (c.map h).view s = (c.view s).map h := by
  simp [view, map, face]

/-- Two cubes are equal if they are held in the same orientation and look the same from every
side. -/
theorem ext_view {c d : Cube α} (ho : c.orientation = d.orientation)
    (h : ∀ s, c.view s = d.view s) : c = d := by
  obtain ⟨g, o⟩ := c
  obtain ⟨k, p⟩ := d
  subst ho
  have hgrids : g = k := Six.ext_get fun f => by
    have hf := h (o.sideOf f)
    rwa [view_sideOf ⟨g, o⟩ f, view_sideOf ⟨k, o⟩ f] at hf
  rw [hgrids]

end Cube

end TwistyCube
