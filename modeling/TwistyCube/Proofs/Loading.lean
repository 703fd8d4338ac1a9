import TwistyCube.Proofs.Reading
import TwistyCube.StickerText

/-!
# Loading stickers

A grid is loaded from nine letters and a cube from fifty-four, with blank characters anywhere and
letters of either case.  The two are read by one rule: the first character that is no colour is
reported, then a wrong number, and otherwise the stickers lie in the order in which they are read.
So six texts that are grids make a text that is a cube, however it is spaced, and stickers that are
written are loaded again.

Main results:
- `Grid.parse_eq_ok_iff`, `Cube.parse_eq_ok_iff`: what is loaded has the stickers that are read.
- `Cube.loads_parse`: the rule for grids and cubes, and what follows for texts put together.
-/

namespace TwistyCube

universe u v

variable {α : Type u} {β : Type v}

/-! ## Letters of colours -/

namespace Color

/-- The character is the letter of the colour, small or capital. -/
def NamedBy (k : Color) (c : Char) : Prop := c = k.letter ∨ c = k.letter.toUpper

theorem ofChar?_eq_some_iff {c : Char} {k : Color} : ofChar? c = some k ↔ k.NamedBy c := by
  constructor
  · intro h
    have hlower : k.letter = c.toLower := by simpa using List.find?_some h
    by_cases hcapital : c.val ≥ 'A'.val ∧ c.val ≤ 'Z'.val
    · -- A capital stands thirty-two places before its small letter.
      have hplaces : k.letter.val = c.val + 32 := by
        rw [hlower]
        exact congrArg Char.val (dif_pos hcapital)
      have hletter : k.letter.val = k.letter.toUpper.val + 32 := by
        cases k <;> decide
      right
      apply Char.ext
      exact (UInt32.add_left_inj 32).1 (hplaces.symm.trans hletter)
    · -- Any other character is its own small letter.
      have hsame : c.toLower = c := dif_neg hcapital
      exact .inl (hlower.trans hsame).symm
  · rintro (rfl | rfl)
    · exact ofChar?_letter k
    · exact ofChar?_toUpper_letter k

theorem read_eq_ok_iff {c : Char} {k : Color} : read c = .ok k ↔ k.NamedBy c := by
  rw [← ofChar?_eq_some_iff, read]
  cases ofChar? c <;> simp

/-- A character that names no colour is reported as it stands. -/
theorem read_eq_error_iff {c : Char} {e : StickerError} :
    read c = .error e ↔ (¬ ∃ k, NamedBy k c) ∧ e = .notAColor c := by
  simp only [← ofChar?_eq_some_iff, read]
  cases ofChar? c <;> simp [eq_comm]

theorem isBlank_of_namedBy {k : Color} {c : Char} (h : k.NamedBy c) : Text.isBlank c = false := by
  rcases h with rfl | rfl
  · cases k <;> decide
  · cases k <;> decide

/-- The case of a colour's letter does not matter. -/
theorem NamedBy.recase {k : Color} {c : Char} (h : k.NamedBy c) :
    k.NamedBy c.toLower ∧ k.NamedBy c.toUpper := by
  unfold NamedBy at h ⊢
  rcases h with rfl | rfl
  · cases k <;> decide
  · cases k <;> decide

end Color

namespace Text

/-- The characters of a text that are not blank. -/
def marks (text : String) : List Char := text.toList.filter (!isBlank ·)

end Text

/-! ## Stickers in their places -/

theorem Row.ofStickers?_eq_some_iff {l rest : List α} {r : Row α} :
    ofStickers? l = some (r, rest) ↔ l = r.toList ++ rest := by
  constructor
  · intro h
    unfold ofStickers? at h
    split at h
    · cases h
      rfl
    · cases h
  · rintro rfl
    rfl

/-- The stickers of a grid are the first nine of the list, row by row. -/
theorem Grid.ofStickers?_eq_some_iff {l rest : List α} {g : Grid α} :
    ofStickers? l = some (g, rest) ↔ l = g.toList ++ rest := by
  constructor
  · intro h
    -- Each row takes its stickers from what the row above it has left.
    simp only [ofStickers?, Option.bind_eq_bind, Option.bind_eq_some_iff, Prod.exists,
      Row.ofStickers?_eq_some_iff] at h
    obtain ⟨top, _, rfl, middle, _, rfl, bottom, _, rfl, h⟩ := h
    cases h
    rfl
  · rintro rfl
    exact ofStickers?_toList_append g rest

theorem Faces.ofStickers?_eq_some_iff {l rest : List α} {t : Faces (Grid α)} :
    ofStickers? l = some (t, rest) ↔ l = t.toList.flatMap Grid.toList ++ rest := by
  constructor
  · intro h
    -- Each grid takes its stickers from what the grid before it has left.
    simp only [ofStickers?, Option.bind_eq_bind, Option.bind_eq_some_iff, Prod.exists,
      Grid.ofStickers?_eq_some_iff] at h
    obtain ⟨red, _, rfl, green, _, rfl, orange, _, rfl, blue, _, rfl, yellow, _, rfl, white, _, rfl,
      h⟩ := h
    cases h
    rfl
  · rintro rfl
    rfl

theorem Row.exists_toList_append {l : List α} {n : Nat} (h : l.length = 3 + n) :
    ∃ (r : Row α) (rest : List α), l = r.toList ++ rest ∧ rest.length = n := by
  match l with
  -- Fewer than three stickers are excluded by the length.
  | [] | [_] | [_, _] =>
    simp only [List.length_cons, List.length_nil] at h
    omega
  | a :: b :: c :: rest =>
    refine ⟨⟨a, b, c⟩, rest, rfl, ?_⟩
    simp only [List.length_cons] at h
    omega

theorem Grid.exists_toList_append {l : List α} {n : Nat} (h : l.length = 9 + n) :
    ∃ (g : Grid α) (rest : List α), l = g.toList ++ rest ∧ rest.length = n := by
  obtain ⟨top, l₁, rfl, h₁⟩ := Row.exists_toList_append (h.trans (Nat.add_assoc 3 6 n))
  obtain ⟨middle, l₂, rfl, h₂⟩ := Row.exists_toList_append (h₁.trans (Nat.add_assoc 3 3 n))
  obtain ⟨bottom, rest, rfl, hrest⟩ := Row.exists_toList_append h₂
  exact ⟨⟨top, middle, bottom⟩, rest, rfl, hrest⟩

/-- A list of fifty-four stickers is that of six grids. -/
theorem Faces.exists_toList {l : List α} (h : l.length = 54) :
    ∃ t : Faces (Grid α), l = t.toList.flatMap Grid.toList := by
  obtain ⟨red, l₁, rfl, h₁⟩ := Grid.exists_toList_append (h.trans (Nat.add_assoc 9 45 0))
  obtain ⟨green, l₂, rfl, h₂⟩ := Grid.exists_toList_append (h₁.trans (Nat.add_assoc 9 36 0))
  obtain ⟨orange, l₃, rfl, h₃⟩ := Grid.exists_toList_append (h₂.trans (Nat.add_assoc 9 27 0))
  obtain ⟨blue, l₄, rfl, h₄⟩ := Grid.exists_toList_append (h₃.trans (Nat.add_assoc 9 18 0))
  obtain ⟨yellow, l₅, rfl, h₅⟩ := Grid.exists_toList_append (h₄.trans (Nat.add_assoc 9 9 0))
  obtain ⟨white, rest, rfl, hrest⟩ := Grid.exists_toList_append h₅
  -- Six times nine is all of them, so nothing is left.
  obtain rfl : rest = [] := List.length_eq_zero_iff.1 hrest
  exact ⟨⟨red, green, orange, blue, yellow, white⟩, rfl⟩

/-- In lists of equal lengths that are put together, what is at a place is found by division. -/
theorem getElem?_flatMap_of_length {n : Nat} {f : α → List β} (hf : ∀ a, (f a).length = n)
    (l : List α) (i : Nat) {j : Nat} (hj : j < n) :
    (l.flatMap f)[n * i + j]? = l[i]?.bind fun a => (f a)[j]? := by
  induction l generalizing i with
  | nil => simp
  | cons a l ih =>
    rw [List.flatMap_cons]
    cases i with
    | zero =>
      -- The place is within the first list.
      have hfirst : n * 0 + j < (f a).length := by
        rw [hf]
        omega
      rw [List.getElem?_append_left hfirst]
      simp
    | succ i =>
      -- The place is behind the first list, and is found in the others one list earlier.
      have hlater : n * (i + 1) + j - (f a).length = n * i + j := by
        rw [hf, Nat.mul_succ]
        omega
      have hle : (f a).length ≤ n * (i + 1) + j := by
        rw [hf, Nat.mul_succ]
        omega
      rw [List.getElem?_append_right hle, hlater, ih]
      rfl

theorem Grid.getElem?_toList (g : Grid α) (i j : Fin 3) :
    g.toList[3 * i.val + j.val]? = some (g.get i j) := by
  have hlength : ∀ r : Row α, r.toList.length = 3 := fun _ => rfl
  rw [toList, getElem?_flatMap_of_length hlength g.rows i.val j.isLt]
  have hrow : g.rows[i.val]? = some (g.row i) := by
    match i with
    | 0 | 1 | 2 => rfl
  rw [hrow]
  match j with
  | 0 | 1 | 2 => rfl

/-- The stickers of a cube are listed face by face, each of them row by row. -/
theorem Cube.getElem?_stickers (c : Cube α) (f : Face) (i j : Fin 3) :
    c.stickers[9 * Face.all.idxOf f + 3 * i.val + j.val]? = some ((c.face f).get i j) := by
  have hj : 3 * i.val + j.val < 9 := by omega
  -- The faces are laid out like the rows of a grid, with nine places for each.
  rw [stickers, Nat.add_assoc, getElem?_flatMap_of_length Grid.length_toList _ _ hj,
    Six.toList_eq_map, List.getElem?_map, List.getElem?_idxOf (Sixfold.mem_all f)]
  exact (c.face f).getElem?_toList i j

theorem Cube.length_stickers (c : Cube α) : c.stickers.length = 54 := rfl

/-! ## Reading grids and cubes -/

/-- Colours are read from a text exactly if they are read from its characters that are not blank,
one from each. -/
theorem readColors_eq_ok_iff {text : String} {colors : List Color} :
    readColors text = .ok colors ↔ (Text.marks text).map Color.read = colors.map Except.ok :=
  mapM_eq_ok_iff

/-- As many colours are read as there are characters that are not blank. -/
theorem length_of_readColors {text : String} {colors : List Color}
    (h : readColors text = .ok colors) : colors.length = (Text.marks text).length :=
  length_eq_of_readable (readColors_eq_ok_iff.1 h)

/-- The character that is read as a colour that has been read. -/
theorem exists_mark_of_readColors {text : String} {colors : List Color}
    (h : readColors text = .ok colors) {n : Nat} {k : Color} (hk : colors[n]? = some k) :
    ∃ c ∈ (Text.marks text)[n]?, k.NamedBy c := by
  -- Both lists are compared at one place.
  have hat := congrArg (fun l => l[n]?) (readColors_eq_ok_iff.1 h)
  simp only [List.getElem?_map, hk, Option.map_some, Option.map_eq_some_iff] at hat
  obtain ⟨c, hc, hread⟩ := hat
  exact ⟨c, hc, Color.read_eq_ok_iff.1 hread⟩

/-- What comes of loading a number of stickers from characters.  The first character that is no
colour is reported, however many there are.  If all are colours, a wrong number is reported.  If the
number is right, the characters are loaded as something that shows them. -/
inductive Loads (n : Nat) (marks : List Char) (Shows : β → Prop) : Except StickerError β → Prop
  | notAColor {before rest : List Char} {c : Char} (hmarks : marks = before ++ c :: rest)
      (hbefore : ∀ b ∈ before, ∃ k, Color.NamedBy k b) (hc : ¬ ∃ k, Color.NamedBy k c) :
      Loads n marks Shows (.error (.notAColor c))
  | wrongCount (hcolors : ∀ c ∈ marks, ∃ k, Color.NamedBy k c) (hn : marks.length ≠ n) :
      Loads n marks Shows (.error (.wrongCount n marks.length))
  | loaded {b : β} (hcolors : ∀ c ∈ marks, ∃ k, Color.NamedBy k c) (hn : marks.length = n)
      (hb : Shows b) : Loads n marks Shows (.ok b)

namespace Loads

variable {n : Nat} {text : String} {Shows : β → Prop} {parsed : Except StickerError β}

/-- Loading goes by the rule if it reads the colours, then looks at their number, and then puts them
in their places. -/
theorem of_readColors (herror : ∀ e, readColors text = .error e → parsed = .error e)
    (hcount : ∀ colors, readColors text = .ok colors → colors.length ≠ n →
      parsed = .error (.wrongCount n colors.length))
    (hshows : ∀ colors, readColors text = .ok colors → colors.length = n →
      ∃ b, parsed = .ok b ∧ Shows b) :
    Loads n (Text.marks text) Shows parsed := by
  cases hread : readColors text with
  | error e =>
    rw [herror e hread]
    -- The fault of a list is that of its first character that cannot be read.
    obtain ⟨before, colors, c, rest, hmarks, hbefore, hc⟩ := mapM_eq_error_iff.1 hread
    obtain ⟨hnone, rfl⟩ := Color.read_eq_error_iff.1 hc
    have hcolors := exists_readable_iff.1 ⟨colors, hbefore⟩
    simp only [Color.read_eq_ok_iff] at hcolors
    exact .notAColor hmarks hcolors hnone
  | ok colors =>
    -- All characters name colours, and only their number is left to decide.
    have hcolors := exists_readable_iff.1 ⟨colors, readColors_eq_ok_iff.1 hread⟩
    simp only [Color.read_eq_ok_iff] at hcolors
    have hlength := length_of_readColors hread
    by_cases hn : colors.length = n
    · obtain ⟨b, hb, hshown⟩ := hshows colors hread hn
      rw [hb]
      exact .loaded hcolors (hlength ▸ hn) hshown
    · rw [hcount colors hread hn, hlength]
      exact .wrongCount hcolors (hlength ▸ hn)

/-- What can be said of all that shows the characters can be said of what is loaded. -/
theorem imp {marks : List Char} {Shows' : β → Prop} (h : Loads n marks Shows parsed)
    (himp : ∀ b, Shows b → Shows' b) : Loads n marks Shows' parsed := by
  cases h with
  | notAColor hmarks hbefore hc => exact .notAColor hmarks hbefore hc
  | wrongCount hcolors hn => exact .wrongCount hcolors hn
  | loaded hcolors hn hb => exact .loaded hcolors hn (himp _ hb)

theorem shows_of_ok {marks : List Char} {b : β} (h : Loads n marks Shows (.ok b)) : Shows b := by
  cases h with
  | loaded _ _ hb => exact hb

end Loads

namespace Grid

theorem parse_of_toList {text : String} {g : Grid Color} (h : readColors text = .ok g.toList) :
    parse text = .ok g := by
  rw [parse, h]
  rfl

/-- A grid is loaded by the rule, from nine characters. -/
theorem loads_toList (text : String) :
    Loads 9 (Text.marks text) (fun g : Grid Color => readColors text = .ok g.toList)
      (parse text) := by
  apply Loads.of_readColors
  · intro e h
    rw [parse, h]
    rfl
  · intro colors h hn
    simp only [parse, h, bind, Except.bind]
    split
    · next g hg =>
      -- A grid with nothing left over would have nine stickers.
      rw [ofStickers?_eq_some_iff, List.append_nil] at hg
      exact absurd (hg ▸ g.length_toList) hn
    · rfl
  · intro colors h hn
    -- Nine stickers are those of a grid, with nothing left over.
    obtain ⟨g, rest, rfl, hrest⟩ := exists_toList_append (hn.trans (Nat.add_zero 9).symm)
    obtain rfl : rest = [] := List.length_eq_zero_iff.1 hrest
    rw [List.append_nil] at h
    exact ⟨g, parse_of_toList h, h⟩

/-- A text is loaded as a grid if the grid's stickers are read from it. -/
theorem parse_eq_ok_iff {text : String} {g : Grid Color} :
    parse text = .ok g ↔ readColors text = .ok g.toList := by
  refine ⟨?_, parse_of_toList⟩
  intro h
  exact (h ▸ loads_toList text).shows_of_ok

end Grid

namespace Cube

theorem parse_of_stickers {text : String} {grids : Faces (Grid Color)}
    (h : readColors text = .ok (ofGrids grids).stickers) : parse text = .ok (ofGrids grids) := by
  rw [parse, h]
  rfl

/-- A cube is loaded by the rule, from fifty-four characters. -/
theorem loads_stickers (text : String) :
    Loads 54 (Text.marks text)
      (fun c : Cube Color => c.orientation = .canonical ∧ readColors text = .ok c.stickers)
      (parse text) := by
  apply Loads.of_readColors
  · intro e h
    rw [parse, h]
    rfl
  · intro colors h hn
    simp only [parse, h, bind, Except.bind]
    split
    · next grids hgrids =>
      -- Six grids with nothing left over would have fifty-four stickers.
      rw [Faces.ofStickers?_eq_some_iff, List.append_nil] at hgrids
      exact absurd (hgrids ▸ (ofGrids grids).length_stickers) hn
    · rfl
  · intro colors h hn
    obtain ⟨grids, rfl⟩ := Faces.exists_toList hn
    exact ⟨ofGrids grids, parse_of_stickers h, rfl, h⟩

/-- A text is loaded as a cube if the cube's stickers are read from it and the cube is held in the
canonical orientation. -/
theorem parse_eq_ok_iff {text : String} {c : Cube Color} :
    parse text = .ok c ↔ c.orientation = .canonical ∧ readColors text = .ok c.stickers := by
  constructor
  · intro h
    exact (h ▸ loads_stickers text).shows_of_ok
  · obtain ⟨grids, o⟩ := c
    rintro ⟨rfl, h⟩
    exact parse_of_stickers h

end Cube

/-! ## Spacing and case -/

namespace Text

/-- A text in which blank characters have been inserted and letters have been put into another
case. -/
inductive Restyled : List Char → List Char → Prop
  | nil : Restyled [] []
  | insert {c : Char} {s t : List Char} (hc : isBlank c = true) (h : Restyled s t) :
      Restyled s (c :: t)
  | recase {c d : Char} {s t : List Char} (hd : d = c ∨ d = c.toLower ∨ d = c.toUpper)
      (h : Restyled s t) : Restyled (c :: s) (d :: t)

/-- Whether a text is another one in a new style, decided character by character: each has been
inserted or is the next of the old text. -/
def isRestyled : List Char → List Char → Bool
  | [], [] => true
  | _ :: _, [] => false
  | [], d :: t => isBlank d && isRestyled [] t
  | c :: s, d :: t =>
    (isBlank d && isRestyled (c :: s) t) ||
      (d == c || d == c.toLower || d == c.toUpper) && isRestyled s t

theorem isRestyled_iff {s t : List Char} : isRestyled s t = true ↔ Restyled s t := by
  constructor
  · intro h
    -- The new text decides how far the old one has been used up.
    induction t generalizing s with
    | nil =>
      cases s with
      | nil => exact .nil
      | cons c s => cases h
    | cons d t ih =>
      cases s with
      | nil =>
        simp only [isRestyled, Bool.and_eq_true] at h
        exact .insert h.1 (ih h.2)
      | cons c s =>
        simp only [isRestyled, Bool.and_eq_true, Bool.or_eq_true, beq_iff_eq, or_assoc] at h
        rcases h with ⟨hd, h⟩ | ⟨hd, h⟩
        · exact .insert hd (ih h)
        · exact .recase hd (ih h)
  · -- A rule of the relation is a branch of the decision, whatever is left of the old text.
    intro h
    induction h with
    | nil => rfl
    | @insert d s t hd _ ih =>
      cases s with
      | nil => simp [isRestyled, hd, ih]
      | cons c s => simp [isRestyled, hd, ih]
    | recase hd _ ih =>
      simp only [isRestyled, Bool.and_eq_true, Bool.or_eq_true, beq_iff_eq, or_assoc]
      exact .inr ⟨hd, ih⟩

instance (s t : List Char) : Decidable (Restyled s t) := decidable_of_iff _ isRestyled_iff

/-- Blank characters have no case. -/
theorem case_of_isBlank {c : Char} (h : isBlank c = true) : c.toLower = c ∧ c.toUpper = c := by
  -- None of them stands among the letters from A to z.
  have houtside : c.toNat < 'A'.toNat ∨ 'z'.toNat < c.toNat := by
    simp only [isBlank, isWithin, blankRanges, List.any_cons, List.any_nil, Bool.or_eq_true,
      Bool.and_eq_true, decide_eq_true_eq, Bool.false_eq_true, or_false, Char.reduceToNat] at h ⊢
    omega
  simp only [Char.reduceToNat] at houtside
  constructor
  · have hcapital : ¬ (c.val ≥ 'A'.val ∧ c.val ≤ 'Z'.val) := by
      simp only [ge_iff_le, UInt32.le_iff_toNat_le, Char.toNat_val, Char.reduceToNat]
      omega
    exact dif_neg hcapital
  · have hsmall : ¬ (c.val ≥ 'a'.val ∧ c.val ≤ 'z'.val) := by
      simp only [ge_iff_le, UInt32.le_iff_toNat_le, Char.toNat_val, Char.reduceToNat]
      omega
    exact dif_neg hsmall

/-- Colours that are read from characters are read from them in another style. -/
theorem Restyled.map_read {s t : List Char} (h : Restyled s t) {colors : List Color}
    (hs : (s.filter (!isBlank ·)).map Color.read = colors.map Except.ok) :
    (t.filter (!isBlank ·)).map Color.read = colors.map Except.ok := by
  -- Each rule keeps the colours: what is inserted is passed over, and what is put into another case
  -- names the same colour or is blank as before.
  induction h generalizing colors with
  | nil => exact hs
  | @insert c s t hc _ ih =>
    rw [List.filter_cons_of_neg (by simp [hc])]
    exact ih hs
  | @recase c d s t hd _ ih =>
    by_cases hc : isBlank c = true
    · obtain rfl : d = c := by
        obtain ⟨hlower, hupper⟩ := case_of_isBlank hc
        rwa [hlower, hupper, or_self, or_self] at hd
      rw [List.filter_cons_of_neg (by simp [hc])] at hs ⊢
      exact ih hs
    · rw [List.filter_cons_of_pos (by simp [hc]), List.map_cons] at hs
      obtain ⟨k, colors, rfl, hk, hrest⟩ := List.map_eq_cons_iff.1 hs.symm
      have hnamed : k.NamedBy c := Color.read_eq_ok_iff.1 hk.symm
      -- The character names the same colour in the new style, so it is not blank there.
      have hdnamed : k.NamedBy d := by
        rcases hd with rfl | rfl | rfl
        · exact hnamed
        · exact hnamed.recase.1
        · exact hnamed.recase.2
      rw [List.filter_cons_of_pos (by simp [Color.isBlank_of_namedBy hdnamed]), List.map_cons,
        List.map_cons, Color.read_eq_ok_iff.2 hdnamed, ih hrest.symm]

/-- Single spaces between texts add nothing to what is not blank. -/
theorem filter_intercalate (texts : List (List Char)) :
    ([' '].intercalate texts).filter (!isBlank ·) =
      texts.flatMap (List.filter (!isBlank ·)) := by
  induction texts with
  | nil => rfl
  | cons s texts ih =>
    cases texts with
    | nil => simp [List.intercalate]
    | cons t texts =>
      -- A space stands between this text and the next, and is filtered out.
      have hspace : [' '].filter (!isBlank ·) = [] := by decide
      rw [List.intercalate_cons_cons, List.filter_append, List.filter_append, hspace,
        List.append_nil, ih]
      rfl

end Text

/-! ## Texts put together and stickers written -/

namespace Cube

/-- The colours of stickers are read from their letters. -/
theorem map_read_letters (colors : List Color) :
    ((colors.map Color.letter).filter (!Text.isBlank ·)).map Color.read =
      colors.map Except.ok := by
  induction colors with
  | nil => rfl
  | cons k colors ih =>
    have hnamed : k.NamedBy k.letter := .inl rfl
    rw [List.map_cons, List.filter_cons_of_pos (by simp [Color.isBlank_of_namedBy hnamed]),
      List.map_cons, List.map_cons, Color.read_eq_ok_iff.2 hnamed, ih]

theorem flatMap_letters (c : Cube Color) :
    c.grids.toList.flatMap Grid.letters = c.stickers.map Color.letter :=
  List.map_flatMap.symm

/-- What the texts of six grids make, in whatever style, is loaded as the cube of the grids. -/
theorem parse_of_grids {texts : Faces String} {grids : Faces (Grid Color)}
    (hgrids : ∀ f, Grid.parse (texts.get f) = .ok (grids.get f)) {text : String}
    (htext : Text.Restyled (texts.toList.flatMap String.toList) text.toList) :
    parse text = .ok (ofGrids grids) := by
  -- Each text by itself is read as the stickers of its grid.
  have hread : ∀ f, ((texts.get f).toList.filter (!Text.isBlank ·)).map Color.read =
      (grids.get f).toList.map Except.ok := by
    intro f
    exact readColors_eq_ok_iff.1 (Grid.parse_eq_ok_iff.1 (hgrids f))
  -- So the texts one after the other are read as the stickers of the cube.
  have htogether :
      ((texts.toList.flatMap String.toList).filter (!Text.isBlank ·)).map Color.read =
        (ofGrids grids).stickers.map Except.ok := by
    simp only [stickers, ofGrids, Six.toList_eq_map, List.flatMap_map, List.filter_flatMap,
      List.map_flatMap, hread]
  exact parse_of_stickers (readColors_eq_ok_iff.2 (htext.map_read htogether))

/-- What the letters of a cube's stickers make, in whatever style, is loaded as the cube of the same
grids. -/
theorem parse_of_letters (c : Cube Color) {text : String}
    (htext : Text.Restyled (c.grids.toList.flatMap Grid.letters) text.toList) :
    parse text = .ok (ofGrids c.grids) := by
  rw [flatMap_letters] at htext
  exact parse_of_stickers (readColors_eq_ok_iff.2 (htext.map_read (map_read_letters c.stickers)))

/-- The written stickers of a cube are loaded as its grids in the canonical orientation. -/
theorem parse_stickerText (c : Cube Color) : parse c.stickerText = .ok (ofGrids c.grids) := by
  -- The spaces between the faces are blank, so the letters are all that is read.
  have hmarks : Text.marks c.stickerText =
      (c.stickers.map Color.letter).filter (!Text.isBlank ·) := by
    rw [Text.marks, stickerText, String.toList_intercalate, ← flatMap_letters,
      List.filter_flatMap, List.map_map]
    exact (Text.filter_intercalate _).trans (by simp [List.flatMap_map])
  apply parse_of_stickers
  rw [readColors_eq_ok_iff, hmarks]
  exact map_read_letters c.stickers

/-- Grids and cubes are loaded by one rule, from nine and from fifty-four characters that are not
blank: in a grid, row `i` and column `j` are named by the character at `3 * i + j`, and in a cube
those of face number `n` by the character at `9 * n + 3 * i + j`.  Six texts that are grids, put one
after the other with any blank characters inserted and letters in any case, are loaded as the cube
of the grids; and so are the stickers of a cube that are written face by face. -/
theorem loads_parse (text : String) :
    Loads 54 (Text.marks text)
      (fun c : Cube Color => c.orientation = .canonical ∧ ∀ f (i j : Fin 3),
        ∃ mark ∈ (Text.marks text)[9 * Face.all.idxOf f + 3 * i.val + j.val]?,
          ((c.face f).get i j).NamedBy mark)
      (parse text) ∧
    Loads 9 (Text.marks text)
      (fun g : Grid Color => ∀ i j : Fin 3,
        ∃ mark ∈ (Text.marks text)[3 * i.val + j.val]?, (g.get i j).NamedBy mark)
      (Grid.parse text) ∧
    (∀ (texts : Faces String) (grids : Faces (Grid Color)),
      (∀ f, Grid.parse (texts.get f) = .ok (grids.get f)) →
      Text.Restyled (texts.toList.flatMap String.toList) text.toList →
      parse text = .ok (ofGrids grids)) ∧
    ∀ c : Cube Color, parse c.stickerText = .ok (ofGrids c.grids) ∧
      (Text.Restyled (c.grids.toList.flatMap Grid.letters) text.toList →
        parse text = .ok (ofGrids c.grids)) := by
  refine ⟨?cube, ?grid, ?together, ?written⟩
  case cube =>
    apply (loads_stickers text).imp
    rintro c ⟨ho, hread⟩
    refine ⟨ho, ?_⟩
    intro f i j
    exact exists_mark_of_readColors hread (c.getElem?_stickers f i j)
  case grid =>
    apply (Grid.loads_toList text).imp
    intro g hread i j
    exact exists_mark_of_readColors hread (g.getElem?_toList i j)
  case together =>
    intro texts grids hgrids htext
    exact parse_of_grids hgrids htext
  case written =>
    intro c
    exact ⟨parse_stickerText c, parse_of_letters c⟩

/-- Six texts in different styles are grids, the last of them with a red sticker among the white
ones.  Put one after the other in yet another style, they are loaded as the cube of the grids, and
so are the letters of its stickers in two cases. -/
theorem loads_parse_restyled :
    let texts : Faces String :=
      ⟨"rrr rrr rrr", "GGGgggGGG", "o O o O o O o O o", "bbb\tBBB\tbbb", "YYYYYYYYY", "wwwwRwwww "⟩
    let grids : Faces (Grid Color) :=
      ⟨.filled .red, .filled .green, .filled .orange, .filled .blue, .filled .yellow,
        ⟨⟨.white, .white, .white⟩, ⟨.white, .red, .white⟩, ⟨.white, .white, .white⟩⟩⟩
    let text := "RRR rrr RRR\nggggggggg O O O O O O O O O BBB\tbbb\tbbb\nyyyyYyyyy wwww r wwww \n"
    let letters := "rrrrrrrrrGGGGGGGGGoooooooooBBBBBBBBB\nyyyyyyyyyWWWWrWWWW"
    (∀ f, Grid.parse (texts.get f) = .ok (grids.get f)) ∧
      Text.Restyled (texts.toList.flatMap String.toList) text.toList ∧
      parse text = .ok (ofGrids grids) ∧
      Text.Restyled (grids.toList.flatMap Grid.letters) letters.toList ∧
      parse letters = .ok (ofGrids grids) := by
  intro texts grids text letters
  obtain ⟨-, -, htogether, -⟩ := loads_parse text
  obtain ⟨-, -, -, hwritten⟩ := loads_parse letters
  have hgrids : ∀ f, Grid.parse (texts.get f) = .ok (grids.get f) := by
    intro f
    cases f <;> decide +kernel
  have htext : Text.Restyled (texts.toList.flatMap String.toList) text.toList := by
    decide +kernel
  have hletters : Text.Restyled (grids.toList.flatMap Grid.letters) letters.toList := by
    decide +kernel
  exact ⟨hgrids, htext, htogether texts grids hgrids htext, hletters,
    (hwritten (ofGrids grids)).2 hletters⟩

end Cube

end TwistyCube
