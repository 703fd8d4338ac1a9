import TwistyCube.StickerText

/-!
# Drawing a cube

A cube is drawn side by side of the view, whatever faces are there: three rows of letters with
bars between them, a ruled line below each row, and an empty line below each side.

Bars and lines have no character that is the letter of a colour, so the stickers can be told from
what is drawn around them: `Row.filter_draw`, `Grid.filter_draw`.
-/

namespace TwistyCube

/-- What stands between two stickers of a row. -/
def pictureBar : List Char := [' ', ' ', '|', ' ', ' ']

/-- The line below each row. -/
def pictureRule : List Char :=
  ['—', ' ', ' ', '┼', ' ', ' ', '—', ' ', ' ', '┼', ' ', ' ', '—', '\n']

/-! ## The picture -/

/-- A row of stickers and the line below it. -/
def Row.draw (r : Row Color) : List Char :=
  r.left.letter :: pictureBar ++ r.middle.letter :: pictureBar ++ r.right.letter :: '\n' ::
    pictureRule

def Grid.draw (g : Grid Color) : List Char := g.rows.flatMap Row.draw ++ ['\n']

/-- The characters of the drawing of a cube. -/
def Cube.draw (c : Cube Color) : List Char := Side.all.flatMap fun s => (c.view s).draw

def Cube.render (c : Cube Color) : String := String.ofList c.draw

/-! ## The letters in a drawing -/

namespace Text

/-- Whether a character is the small letter of a colour. -/
def isColorLetter (c : Char) : Bool := ['r', 'g', 'o', 'b', 'y', 'w'].contains c

/-- A text without the characters that are not small letters of colours. -/
def keepColorLetters (text : String) : String := String.ofList (text.toList.filter isColorLetter)

@[simp] theorem isColorLetter_letter (k : Color) : isColorLetter k.letter = true := by
  cases k <;> decide

/-- Bars and lines have no letters. -/
@[simp] theorem filter_pictureBar : pictureBar.filter isColorLetter = [] := by decide

@[simp] theorem filter_pictureRule : pictureRule.filter isColorLetter = [] := by decide

@[simp] theorem isColorLetter_newline : isColorLetter '\n' = false := by decide

end Text

theorem Row.filter_draw (r : Row Color) : r.draw.filter Text.isColorLetter = r.letters := by
  simp [draw, letters, toList]

/-- The letters in a drawn grid are those of its stickers, row by row. -/
theorem Grid.filter_draw (g : Grid Color) : g.draw.filter Text.isColorLetter = g.letters := by
  -- The letters of a grid are listed at once, and those of a drawing row by row.
  have hrows : g.letters = g.rows.flatMap Row.letters := List.map_flatMap
  rw [draw, List.filter_append, List.filter_flatMap, hrows]
  simp [Row.filter_draw]

end TwistyCube
