/-!
# Words

Blank characters separate words and are skipped between stickers.  They are those with the Unicode
property `White_Space`: twenty-five of them, most of them outside the basic Latin block.

A text is a run of words with blank characters before, between and after them.  `splitWords` finds
the words, and `joinWords` writes words with a single space between neighbours.
-/

namespace TwistyCube.Text

/-! ## Blank characters -/

/-- Whether the code point of a character is in one of some ranges, both ends of them included. -/
def isWithin (ranges : List (Nat × Nat)) (c : Char) : Bool :=
  ranges.any fun (first, last) => first ≤ c.toNat && c.toNat ≤ last

/-- The code points of the blank characters. -/
def blankRanges : List (Nat × Nat) :=
  [(0x09, 0x0D), (0x20, 0x20), (0x85, 0x85), (0xA0, 0xA0), (0x1680, 0x1680), (0x2000, 0x200A),
   (0x2028, 0x2029), (0x202F, 0x202F), (0x205F, 0x205F), (0x3000, 0x3000)]

def isBlank (c : Char) : Bool := isWithin blankRanges c

/-- The ranges hold twenty-five code points. -/
example : (blankRanges.map fun (first, last) => last + 1 - first).sum = 25 := by decide

/-! ## Splitting and joining -/

/-- The words of a text: its longest runs of characters that are not blank. -/
def splitWords (text : List Char) : List (List Char) :=
  match _h : text.dropWhile isBlank with
  | [] => []
  | c :: rest =>
    (c :: rest.takeWhile (!isBlank ·)) :: splitWords (rest.dropWhile (!isBlank ·))
termination_by text.length
decreasing_by
  have hle : (text.dropWhile isBlank).length ≤ text.length :=
    (List.dropWhile_sublist isBlank).length_le
  have hrest : (rest.dropWhile (!isBlank ·)).length ≤ rest.length :=
    (List.dropWhile_sublist (!isBlank ·)).length_le
  rw [_h, List.length_cons] at hle
  omega

/-- The words of a text, as strings. -/
def words (text : String) : List String := (splitWords text.toList).map String.ofList

/-- Words with a single space between neighbours. -/
def joinWords : List (List Char) → List Char
  | [] => []
  | [w] => w
  | w :: v :: rest => w ++ ' ' :: joinWords (v :: rest)

end TwistyCube.Text
