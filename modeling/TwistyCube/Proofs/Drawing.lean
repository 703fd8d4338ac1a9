import TwistyCube.Picture
import TwistyCube.Proofs.Loading

/-!
# Drawn cubes

A drawing goes side by side, whatever faces are there, and loading goes face by face.  In the
canonical orientation the two orders are the same, so the letters of a drawing are loaded as the
cube that shows in the canonical orientation what has been drawn.  Nothing that is seen is lost in a
drawing, and nothing else gets into it.

Main result: `Cube.parse_drawn`.
-/

namespace TwistyCube

universe u

variable {α : Type u}

namespace Cube

/-- The cube that shows in the canonical orientation what is seen of a cube. -/
def asSeen (c : Cube α) : Cube α :=
  ofGrids ⟨c.view .front, c.view .right, c.view .back, c.view .left, c.view .top, c.view .bottom⟩

/-- What is seen of a cube does not change when its faces are renamed for their sides. -/
theorem view_asSeen (c : Cube α) (s : Side) : c.asSeen.view s = c.view s := by
  cases s <;> rfl

/-- A cube is what is seen of it exactly if it is held in the canonical orientation. -/
theorem asSeen_eq_self_iff {c : Cube α} : c.asSeen = c ↔ c.orientation = .canonical := by
  constructor
  · -- The other cube is in the canonical orientation by its making.
    intro h
    rw [← h]
    rfl
  · intro h
    exact ext_view h.symm c.view_asSeen

/-- The letters in a drawing are those of the stickers that are seen, in the order of the sides. -/
theorem filter_draw (c : Cube Color) :
    c.draw.filter Text.isColorLetter = c.asSeen.stickers.map Color.letter := by
  -- The sides come in the order in which the faces lie in the canonical orientation.
  rw [draw, List.filter_flatMap, stickers, List.map_flatMap]
  simp only [Grid.filter_draw]
  rfl

/-- The letters of a drawing are loaded as what is seen. -/
theorem parse_keepColorLetters_render (c : Cube Color) :
    parse (Text.keepColorLetters c.render) = .ok c.asSeen := by
  apply parse_of_stickers
  -- None of the letters that are kept is blank, and each is read as its colour.
  rw [readColors_eq_ok_iff, Text.keepColorLetters, render, Text.marks, String.toList_ofList,
    String.toList_ofList, filter_draw]
  exact map_read_letters c.asSeen.stickers

/-- Two cubes have the same drawing exactly if they look the same from every side. -/
theorem render_eq_iff {c d : Cube Color} : c.render = d.render ↔ ∀ s, c.view s = d.view s := by
  constructor
  · intro h s
    -- What is seen can be loaded from the drawing, so equal drawings show the same.
    have hloaded : (.ok c.asSeen : Except StickerError (Cube Color)) = .ok d.asSeen := by
      rw [← parse_keepColorLetters_render, h, parse_keepColorLetters_render]
    rw [← view_asSeen c, Except.ok.inj hloaded, view_asSeen]
  · intro h
    simp only [render, draw, h]

/-- The letters of a cube's drawing are loaded as the cube that has, face by face, the grids seen
side by side.  It is the cube that was drawn exactly if that is held in the canonical orientation.
And two cubes have the same drawing exactly if they look the same from every side. -/
theorem parse_drawn (c d : Cube Color) :
    parse (Text.keepColorLetters c.render) = .ok c.asSeen ∧
      (c.asSeen = c ↔ c.orientation = .canonical) ∧
      (c.render = d.render ↔ ∀ s, c.view s = d.view s) :=
  ⟨parse_keepColorLetters_render c, asSeen_eq_self_iff, render_eq_iff⟩

end Cube

end TwistyCube
