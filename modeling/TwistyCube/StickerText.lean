import TwistyCube.Cube
import TwistyCube.Text.Quoted

/-!
# Stickers as text

Grids and cubes written as the letters of their stickers: row by row, and for a cube face by face.
On reading, blank characters may stand anywhere and letters may be of either case.  A character that
is no colour is reported before the number of stickers is looked at.
-/

namespace TwistyCube

universe u

/-! ## Writing -/

def Row.letters (r : Row Color) : List Char := r.toList.map Color.letter

def Grid.letters (g : Grid Color) : List Char := g.toList.map Color.letter

/-- The letters of a cube as one word for each physical face, with single spaces between them. -/
def Cube.stickerText (c : Cube Color) : String :=
  String.intercalate " " (c.grids.toList.map fun g => String.ofList g.letters)

/-! ## Reading -/

/-- A fault in the stickers of a grid or a cube. -/
inductive StickerError where
  /-- The character is the letter of no colour. -/
  | notAColor (c : Char)
  /-- There are too few stickers or too many. -/
  | wrongCount (expected found : Nat)
  deriving DecidableEq

def StickerError.message : StickerError → String
  | .notAColor c => "invalid sticker " ++ Text.quoteChar c ++ ", expected one of r, g, o, b, y, w"
  | .wrongCount expected found =>
    "expected " ++ toString expected ++ " stickers, found " ++ toString found

/-- The colour a character stands for; any other character is a fault. -/
def Color.read (c : Char) : Except StickerError Color :=
  match ofChar? c with
  | some k => .ok k
  | none => .error (.notAColor c)

/-- The colours in a text, blank characters left out. -/
def readColors (text : String) : Except StickerError (List Color) :=
  (text.toList.filter (!Text.isBlank ·)).mapM Color.read

/-- Reads grids for all faces off the front of a list of stickers, and returns what is left of the
list. -/
def Faces.ofStickers? {α : Type u} (stickers : List α) : Option (Faces (Grid α) × List α) := do
  let (red, rest) ← Grid.ofStickers? stickers
  let (green, rest) ← Grid.ofStickers? rest
  let (orange, rest) ← Grid.ofStickers? rest
  let (blue, rest) ← Grid.ofStickers? rest
  let (yellow, rest) ← Grid.ofStickers? rest
  let (white, rest) ← Grid.ofStickers? rest
  return (⟨red, green, orange, blue, yellow, white⟩, rest)

/-- Reads the nine stickers of a grid. -/
def Grid.parse (text : String) : Except StickerError (Grid Color) := do
  let colors ← readColors text
  match ofStickers? colors with
  | some (g, []) => .ok g
  -- There are too few stickers for a grid, or some are left over.
  | _ => .error (.wrongCount 9 colors.length)

/-- Reads the fifty-four stickers of a cube, held in the canonical orientation. -/
def Cube.parse (text : String) : Except StickerError (Cube Color) := do
  let colors ← readColors text
  match Faces.ofStickers? colors with
  | some (grids, []) => .ok (ofGrids grids)
  | _ => .error (.wrongCount 54 colors.length)

end TwistyCube
