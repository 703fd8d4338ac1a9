import TwistyCube.Notation.Letter
import TwistyCube.Text.Quoted

/-!
# Moves and algorithms

A move is a letter and an amount of turning.  It is written as the letter's symbol followed by the
amount's suffix, and reading accepts exactly what writing produces.

An algorithm is a sequence of moves.  It is written with single spaces between the moves, and read
from any text whose words are written moves.
-/

namespace TwistyCube

/-! ## Amounts -/

/-- How far a move turns.  Amounts are ordered as they are listed here. -/
inductive Amount where
  /-- A clockwise quarter. -/
  | single
  /-- An anticlockwise quarter. -/
  | inverse
  /-- A half turn. -/
  | double
  deriving DecidableEq, Ord

namespace Amount

def all : List Amount := [single, inverse, double]

def name : Amount → String
  | single => "Single"
  | inverse => "Inverse"
  | double => "Double"

/-- What is written after the letter. -/
def suffix : Amount → List Char
  | single => []
  | inverse => ['\'']
  | double => ['2']

/-- The amount written as a suffix. -/
def ofSuffix? (s : List Char) : Option Amount := all.find? fun a => a.suffix == s

/-- The amount that undoes an amount. -/
def opposite : Amount → Amount
  | single => inverse
  | inverse => single
  | double => double

theorem mem_all (a : Amount) : a ∈ all := by
  cases a <;> decide

@[simp] theorem ofSuffix?_suffix (a : Amount) : ofSuffix? a.suffix = some a := by
  cases a <;> decide

/-- Only an amount's own suffix is read as that amount. -/
theorem ofSuffix?_eq_some_iff {s : List Char} {a : Amount} :
    ofSuffix? s = some a ↔ s = a.suffix := by
  constructor
  · intro h
    have := List.find?_some h
    exact (beq_iff_eq.1 this).symm
  · rintro rfl
    exact ofSuffix?_suffix a

@[simp] theorem opposite_opposite (a : Amount) : a.opposite.opposite = a := by
  cases a <;> rfl

end Amount

/-! ## Moves -/

/-- A fault in move notation. -/
inductive MoveError where
  /-- The text is not the written form of any move. -/
  | unknown (text : String)
  deriving DecidableEq

def MoveError.message : MoveError → String
  | .unknown text => "unknown move token " ++ Text.quote text

/-- A letter and how far it turns.  Moves are ordered by letter, and by amount for one letter. -/
structure Move where
  letter : Letter
  amount : Amount
  deriving DecidableEq, Ord

namespace Move

/-- A clockwise quarter turn of a letter. -/
def quarter (k : Letter) : Move := ⟨k, .single⟩

/-- The move that undoes a move. -/
def inverse (m : Move) : Move := { m with amount := m.amount.opposite }

def toChars (m : Move) : List Char := m.letter.symbol :: m.amount.suffix

/-- The written form: the symbol and the suffix. -/
def render (m : Move) : String := String.ofList m.toChars

/-- The move with given characters as its written form. -/
def ofChars? : List Char → Option Move
  | [] => none
  | c :: suffix => do
    let letter ← Letter.ofSymbol? c
    let amount ← Amount.ofSuffix? suffix
    return ⟨letter, amount⟩

/-- Reads one move.  Nothing may stand before or after it; a text that is not a written form is
reported as it stands. -/
def parse (text : String) : Except MoveError Move :=
  match ofChars? text.toList with
  | some m => .ok m
  | none => .error (.unknown text)

@[simp] theorem inverse_inverse (m : Move) : m.inverse.inverse = m := by
  simp [inverse]

/-- Reading accepts exactly what writing produces. -/
theorem ofChars?_eq_some_iff {s : List Char} {m : Move} : ofChars? s = some m ↔ s = m.toChars := by
  cases s with
  | nil => simp [ofChars?, toChars]
  | cons c suffix =>
    obtain ⟨k, a⟩ := m
    simp [ofChars?, toChars, Option.bind_eq_some_iff, Letter.ofSymbol?_eq_some_iff,
      Amount.ofSuffix?_eq_some_iff]

end Move

/-! ## Algorithms -/

/-- A sequence of moves, performed from first to last. -/
abbrev Algorithm := List Move

namespace Algorithm

/-- The algorithm that undoes an algorithm: the inverses of its moves, from last to first. -/
def inverse (a : Algorithm) : Algorithm := a.reverse.map Move.inverse

/-- The written form: the moves with single spaces between them. -/
def render (a : Algorithm) : String := String.ofList (Text.joinWords (a.map Move.toChars))

/-- Reads an algorithm from the words of a text.  The first word that is no move is the fault. -/
def parse (text : String) : Except MoveError Algorithm := (Text.words text).mapM Move.parse

@[simp] theorem inverse_nil : inverse [] = [] := rfl

theorem inverse_append (a b : Algorithm) : inverse (a ++ b) = inverse b ++ inverse a := by
  simp [inverse]

@[simp] theorem inverse_inverse (a : Algorithm) : inverse (inverse a) = a := by
  simp [inverse, List.map_reverse, Function.comp_def]

end Algorithm

end TwistyCube
