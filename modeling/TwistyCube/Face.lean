import TwistyCube.Six

/-!
# Colours and faces

The six colours of a sticker, the lower case letter each is written with, and the reading of a
letter.  Reading ignores the case of the letter, and only that: the fold is the one of the basic
Latin letters, so no other character that looks or lowers like one of them is a colour.

A physical face is a piece of the cube: it keeps its identity wherever the cube is turned to.  It
is named after the colour that covers it when the cube is solved.
-/

namespace TwistyCube

universe u

/-! ## Colours -/

/-- The colour of a single sticker.  Colours are ordered as they are listed here. -/
inductive Color where
  | red
  | green
  | orange
  | blue
  | yellow
  | white
  deriving DecidableEq, Ord

namespace Color

instance : Sixfold Color where
  members := ⟨red, green, orange, blue, yellow, white⟩
  position
    | red => .first
    | green => .second
    | orange => .third
    | blue => .fourth
    | yellow => .fifth
    | white => .sixth
  nth_position k := by cases k <;> rfl
  position_nth n := by cases n <;> rfl

abbrev all : List Color := Sixfold.all Color

def name : Color → String
  | red => "Red"
  | green => "Green"
  | orange => "Orange"
  | blue => "Blue"
  | yellow => "Yellow"
  | white => "White"

/-- The lower case letter the colour is written with. -/
def letter : Color → Char
  | red => 'r'
  | green => 'g'
  | orange => 'o'
  | blue => 'b'
  | yellow => 'y'
  | white => 'w'

/-- The colour a character stands for, in either case. -/
def ofChar? (c : Char) : Option Color :=
  all.find? fun k => k.letter == c.toLower

@[simp] theorem ofChar?_letter (k : Color) : ofChar? k.letter = some k := by
  cases k <;> decide

@[simp] theorem ofChar?_toUpper_letter (k : Color) : ofChar? k.letter.toUpper = some k := by
  cases k <;> decide

end Color

/-! ## Faces -/

/-- A physical face of the cube.  Faces are ordered as they are listed here. -/
inductive Face where
  | red
  | green
  | orange
  | blue
  | yellow
  | white
  deriving DecidableEq, Ord

namespace Face

instance : Sixfold Face where
  members := ⟨red, green, orange, blue, yellow, white⟩
  position
    | red => .first
    | green => .second
    | orange => .third
    | blue => .fourth
    | yellow => .fifth
    | white => .sixth
  nth_position f := by cases f <;> rfl
  position_nth n := by cases n <;> rfl

abbrev all : List Face := Sixfold.all Face

/-- The colour that covers the face of a solved cube. -/
def color : Face → Color
  | red => .red
  | green => .green
  | orange => .orange
  | blue => .blue
  | yellow => .yellow
  | white => .white

/-- A face has the name of its colour. -/
def name (f : Face) : String := f.color.name

/-- A face is written with the capital of its colour's letter. -/
def letter (f : Face) : Char := f.color.letter.toUpper

end Face

/-- One value for each physical face. -/
abbrev Faces (α : Type u) := Six Face α

end TwistyCube
