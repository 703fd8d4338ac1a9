/-!
# Grids of nine stickers

The stickers of one face, as a three by three grid.  The top row is the one next to whatever side
is on top when the face is looked at from outside the cube.  The stickers may be of any type:
colours are the usual choice, and labels that tell all stickers apart make a move visible as the
permutation that it is.
-/

namespace TwistyCube

universe u v

/-- Three stickers in a row. -/
structure Row (α : Type u) where
  left : α
  middle : α
  right : α
  deriving DecidableEq

namespace Row

variable {α : Type u} {β : Type v}

def get (r : Row α) : Fin 3 → α
  | 0 => r.left
  | 1 => r.middle
  | 2 => r.right

def toList (r : Row α) : List α := [r.left, r.middle, r.right]

def map (h : α → β) (r : Row α) : Row β := ⟨h r.left, h r.middle, h r.right⟩

/-- Reads a row off the front of a list of stickers, and returns what is left of the list. -/
def ofStickers? : List α → Option (Row α × List α)
  | a :: b :: c :: rest => some (⟨a, b, c⟩, rest)
  | _ => none

@[simp] theorem get_map (h : α → β) (r : Row α) (j : Fin 3) : (r.map h).get j = h (r.get j) := by
  match j with
  | 0 => rfl
  | 1 => rfl
  | 2 => rfl

end Row

/-- Nine stickers in three rows. -/
structure Grid (α : Type u) where
  top : Row α
  middle : Row α
  bottom : Row α
  deriving DecidableEq

namespace Grid

variable {α : Type u} {β : Type v}

/-- A row of the grid, counted from the top. -/
def row (g : Grid α) : Fin 3 → Row α
  | 0 => g.top
  | 1 => g.middle
  | 2 => g.bottom

def get (g : Grid α) (i j : Fin 3) : α := (g.row i).get j

/-- The sticker in a row and a column, if there are such a row and such a column. -/
def get? (g : Grid α) (i j : Nat) : Option α :=
  if h : i < 3 ∧ j < 3 then some (g.get ⟨i, h.1⟩ ⟨j, h.2⟩) else none

/-- Holds in each row and column what a function gives. -/
def ofFn (h : Fin 3 → Fin 3 → α) : Grid α :=
  ⟨⟨h 0 0, h 0 1, h 0 2⟩, ⟨h 1 0, h 1 1, h 1 2⟩, ⟨h 2 0, h 2 1, h 2 2⟩⟩

def filled (a : α) : Grid α := ofFn fun _ _ => a

/-- The sticker in the middle, which no turn of the face moves. -/
def centre (g : Grid α) : α := g.middle.middle

def rows (g : Grid α) : List (Row α) := [g.top, g.middle, g.bottom]

def toList (g : Grid α) : List α := g.rows.flatMap Row.toList

def map (h : α → β) (g : Grid α) : Grid β := ⟨g.top.map h, g.middle.map h, g.bottom.map h⟩

/-- Whether all stickers are equal to the one in the middle. -/
def isUniform [DecidableEq α] (g : Grid α) : Bool := g.toList.all (· == g.centre)

/-- The grid turned clockwise by a quarter: the left column, read upwards, becomes the top row. -/
def rotate (g : Grid α) : Grid α :=
  ⟨⟨g.bottom.left, g.middle.left, g.top.left⟩,
   ⟨g.bottom.middle, g.middle.middle, g.top.middle⟩,
   ⟨g.bottom.right, g.middle.right, g.top.right⟩⟩

/-- The grid turned clockwise by a number of quarters. -/
def turn (g : Grid α) : Nat → Grid α
  | 0 => g
  | k + 1 => (g.turn k).rotate

/-- Reads a grid off the front of a list of stickers, row by row, and returns what is left of the
list. -/
def ofStickers? (stickers : List α) : Option (Grid α × List α) := do
  let (top, rest) ← Row.ofStickers? stickers
  let (middle, rest) ← Row.ofStickers? rest
  let (bottom, rest) ← Row.ofStickers? rest
  return (⟨top, middle, bottom⟩, rest)

/-! ## Lemmas -/

@[simp] theorem get_ofFn (h : Fin 3 → Fin 3 → α) (i j : Fin 3) : (ofFn h).get i j = h i j := by
  match i, j with
  | 0, 0 | 0, 1 | 0, 2 | 1, 0 | 1, 1 | 1, 2 | 2, 0 | 2, 1 | 2, 2 => rfl

@[simp] theorem ofFn_get (g : Grid α) : ofFn g.get = g := rfl

/-- Two grids are equal if they agree in each row and column. -/
theorem ext_get {g k : Grid α} (h : ∀ i j, g.get i j = k.get i j) : g = k := by
  rw [← ofFn_get g, ← ofFn_get k, funext fun i => funext (h i)]

@[simp] theorem get_map (h : α → β) (g : Grid α) (i j : Fin 3) :
    (g.map h).get i j = h (g.get i j) := by
  match i with
  | 0 | 1 | 2 => exact Row.get_map h _ j

/-- A clockwise quarter turn brings to row `i` and column `j` the sticker of column `i` that is `j`
rows from the bottom. -/
theorem get_rotate (g : Grid α) (i j : Fin 3) : g.rotate.get i j = g.get j.rev i := by
  match i, j with
  | 0, 0 | 0, 1 | 0, 2 | 1, 0 | 1, 1 | 1, 2 | 2, 0 | 2, 1 | 2, 2 => rfl

theorem turn_turn (g : Grid α) (j k : Nat) : (g.turn j).turn k = g.turn (j + k) := by
  induction k with
  | zero => rfl
  | succ k ih => exact congrArg rotate ih

@[simp] theorem length_toList (g : Grid α) : g.toList.length = 9 := rfl

@[simp] theorem ofStickers?_toList_append (g : Grid α) (rest : List α) :
    ofStickers? (g.toList ++ rest) = some (g, rest) := rfl

end Grid

end TwistyCube
