import TwistyCube.Proofs.Reading

/-!
# Written algorithms

An algorithm is written as words with single spaces between them, and read from any text that has
these words, whatever blank characters stand around them.  Each text has its words in one way only,
and the words that are moves are forty-two, so reading and writing undo each other.

Main results:
- `Text.hasWords_iff`: the words of a text, told without an algorithm that finds them.
- `Algorithm.parse_iff_hasWords`: which texts are read, as what, and what is reported of the others.
-/

namespace TwistyCube

/-! ## Words -/

namespace Text

/-- Some characters, none of them blank. -/
def IsWord (w : List Char) : Prop := w ≠ [] ∧ ∀ c ∈ w, isBlank c = false

/-- The text is made of the words, in order, and of blank characters before, between and after
them. -/
inductive Spaced : List (List Char) → List Char → Prop
  | nil : Spaced [] []
  | blank {c : Char} {ws : List (List Char)} {text : List Char} (hc : isBlank c = true)
      (h : Spaced ws text) : Spaced ws (c :: text)
  /-- After a word comes a blank character, or nothing. -/
  | word {w : List Char} {ws : List (List Char)} {text : List Char} (hw : IsWord w)
      (hnext : ∀ c ∈ text.head?, isBlank c = true) (h : Spaced ws text) :
      Spaced (w :: ws) (w ++ text)

/-- The words of a text. -/
def HasWords (text : String) (ws : List String) : Prop :=
  Spaced (ws.map String.toList) text.toList

/-- One round of the splitting: the blank characters in front are passed over, and the word that
follows is split off. -/
theorem splitWords_eq (text : List Char) :
    splitWords text =
      match text.dropWhile isBlank with
      | [] => []
      | c :: rest =>
        (c :: rest.takeWhile (!isBlank ·)) :: splitWords (rest.dropWhile (!isBlank ·)) := by
  rw [splitWords]
  split
  · next h => rw [h]
  · next c rest h => rw [h]

/-- A blank character in front is passed over. -/
theorem splitWords_cons_of_isBlank {c : Char} (hc : isBlank c = true) (text : List Char) :
    splitWords (c :: text) = splitWords text := by
  rw [splitWords_eq, List.dropWhile_cons_of_pos hc, ← splitWords_eq]

/-- A word in front is split off up to the blank character that ends it. -/
theorem splitWords_append {w text : List Char} (hw : IsWord w)
    (hnext : ∀ c ∈ text.head?, isBlank c = true) :
    splitWords (w ++ text) = w :: splitWords text := by
  obtain ⟨hne, hword⟩ := hw
  obtain ⟨c, w, rfl⟩ := List.exists_cons_of_ne_nil hne
  obtain ⟨hc, hword⟩ := List.forall_mem_cons.1 hword
  -- No blank character stands in front of the word, so nothing is passed over.
  have hstart : (c :: w ++ text).dropWhile isBlank = c :: (w ++ text) :=
    List.dropWhile_cons_of_neg (by simp [hc])
  -- All of the word is taken.
  have hletters : ∀ b ∈ w, (!isBlank b) = true := by
    intro b hb
    rw [hword b hb]
    rfl
  -- The word ends where the text goes on with a blank character.
  have hend : text.takeWhile (!isBlank ·) = [] ∧ text.dropWhile (!isBlank ·) = text := by
    cases text with
    | nil => exact ⟨rfl, rfl⟩
    | cons b text =>
      have hb : isBlank b = true := hnext b rfl
      simp [hb]
  rw [splitWords_eq, hstart]
  simp only [List.takeWhile_append_of_pos hletters, List.dropWhile_append_of_pos hletters, hend,
    List.append_nil]

/-- No text has words in two ways. -/
theorem Spaced.splitWords_eq {ws : List (List Char)} {text : List Char} (h : Spaced ws text) :
    splitWords text = ws := by
  -- Each rule is one round of the splitting, or passes over a blank character.
  induction h with
  | nil => rw [Text.splitWords_eq]; rfl
  | blank hc _ ih => rw [splitWords_cons_of_isBlank hc, ih]
  | word hw hnext _ ih => rw [splitWords_append hw hnext, ih]

/-- Blank characters in front of a text do not change its words. -/
theorem Spaced.append_blanks {gap text : List Char} {ws : List (List Char)}
    (hgap : ∀ c ∈ gap, isBlank c = true) (h : Spaced ws text) : Spaced ws (gap ++ text) := by
  induction gap with
  | nil => exact h
  | cons c gap ih =>
    obtain ⟨hc, hgap⟩ := List.forall_mem_cons.1 hgap
    exact .blank hc (ih hgap)

/-- Every text has words. -/
theorem spaced_splitWords (text : List Char) : Spaced (splitWords text) text := by
  -- The induction follows the rounds of the splitting, not the characters of the text.
  induction text using splitWords.induct with
  | case1 text hnone =>
    -- Nothing is left once the blank characters in front are passed over.
    have hgap : ∀ c ∈ text.takeWhile isBlank, isBlank c = true :=
      List.all_eq_true.1 List.all_takeWhile
    have htext : text = text.takeWhile isBlank ++ [] := by
      rw [← hnone, List.takeWhile_append_dropWhile]
    rw [splitWords_eq, hnone, htext]
    exact Spaced.nil.append_blanks hgap
  | case2 text c rest hsome ih =>
    -- A word begins at the first character that is not blank.
    have hgap : ∀ b ∈ text.takeWhile isBlank, isBlank b = true :=
      List.all_eq_true.1 List.all_takeWhile
    have hfirst : isBlank c = false := by
      have hhead := List.head?_dropWhile_not isBlank text
      rwa [hsome] at hhead
    have hword : IsWord (c :: rest.takeWhile (!isBlank ·)) := by
      refine ⟨List.cons_ne_nil _ _, List.forall_mem_cons.2 ⟨hfirst, ?_⟩⟩
      intro b hb
      have hletter := List.all_eq_true.1 List.all_takeWhile b hb
      simpa using hletter
    -- What follows the word begins with a blank character, or the word would have gone on.
    have hnext : ∀ b ∈ (rest.dropWhile (!isBlank ·)).head?, isBlank b = true := by
      intro b hb
      have hhead := List.head?_dropWhile_not (!isBlank ·) rest
      rw [Option.mem_def.1 hb] at hhead
      simpa using hhead
    -- So the text is a gap, a word, and what the next rounds split.
    have htext : text = text.takeWhile isBlank ++
        (c :: rest.takeWhile (!isBlank ·) ++ rest.dropWhile (!isBlank ·)) := by
      rw [List.cons_append, List.takeWhile_append_dropWhile, ← hsome,
        List.takeWhile_append_dropWhile]
    rw [splitWords_eq, hsome]
    -- Only the text on the right is taken apart, the words stay as they are split.
    conv => rhs; rw [htext]
    exact (Spaced.word hword hnext ih).append_blanks hgap

theorem spaced_iff {ws : List (List Char)} {text : List Char} :
    Spaced ws text ↔ splitWords text = ws := by
  constructor
  · exact Spaced.splitWords_eq
  · rintro rfl
    exact spaced_splitWords text

theorem hasWords_iff {text : String} {ws : List String} : HasWords text ws ↔ words text = ws := by
  unfold HasWords words
  rw [spaced_iff]
  constructor
  · intro h
    simp [h, Function.comp_def]
  · rintro rfl
    simp [Function.comp_def]

/-- Words that are joined are separated again. -/
theorem spaced_joinWords {ws : List (List Char)} (hws : ∀ w ∈ ws, IsWord w) :
    Spaced ws (joinWords ws) := by
  induction ws with
  | nil => exact .nil
  | cons w ws ih =>
    obtain ⟨hw, hws⟩ := List.forall_mem_cons.1 hws
    -- The last word has nothing behind it, the others a space.
    cases ws with
    | nil =>
      have hlast : Spaced [w] (w ++ []) := .word hw (by simp) .nil
      rwa [List.append_nil] at hlast
    | cons v rest =>
      have hspace : isBlank ' ' = true := by decide
      exact .word hw (by simpa using hspace) (.blank hspace (ih hws))

theorem joinWords_eq_intercalate (ws : List (List Char)) :
    joinWords ws = [' '].intercalate ws := by
  induction ws with
  | nil => rfl
  | cons w ws ih =>
    cases ws with
    | nil => simp [joinWords, List.intercalate]
    | cons v rest => rw [joinWords, ih, List.intercalate_cons_cons, List.append_assoc]; rfl

end Text

/-! ## Written moves -/

namespace Move

/-- One of the fourteen symbols, followed by nothing, by an apostrophe or by a two. -/
def IsWritten (w : String) : Prop :=
  ∃ symbol ∈ ['U', 'x', 'y', 'z', 'D', 'R', 'L', 'F', 'B', 'M', 'u', 'd', 'r', 'l'],
    ∃ suffix ∈ [[], ['\''], ['2']], w.toList = symbol :: suffix

/-- These are the written forms of moves. -/
theorem isWritten_iff {w : String} : IsWritten w ↔ ∃ m : Move, w = m.render := by
  -- The symbols and suffixes that are listed are those of the letters and amounts.
  have hsymbols : Letter.all.map Letter.symbol =
      ['U', 'x', 'y', 'z', 'D', 'R', 'L', 'F', 'B', 'M', 'u', 'd', 'r', 'l'] := rfl
  have hsuffixes : Amount.all.map Amount.suffix = [[], ['\''], ['2']] := rfl
  unfold IsWritten
  rw [← hsymbols, ← hsuffixes]
  constructor
  · rintro ⟨_, hsymbol, _, hsuffix, hw⟩
    obtain ⟨k, -, rfl⟩ := List.mem_map.1 hsymbol
    obtain ⟨a, -, rfl⟩ := List.mem_map.1 hsuffix
    refine ⟨⟨k, a⟩, String.toList_inj.1 ?_⟩
    rw [hw, render, String.toList_ofList]
    rfl
  · rintro ⟨m, rfl⟩
    refine ⟨m.letter.symbol, List.mem_map_of_mem m.letter.mem_all, m.amount.suffix,
      List.mem_map_of_mem m.amount.mem_all, ?_⟩
    rw [render, String.toList_ofList]
    rfl

/-- A text is read as a move exactly if it is the written form of one. -/
theorem isWritten_iff_parse {w : String} : IsWritten w ↔ ∃ m, parse w = .ok m := by
  simp only [isWritten_iff, parse_eq_ok_iff]

/-- What is no written form is reported as it stands. -/
theorem parse_eq_error_iff {w : String} {e : MoveError} :
    parse w = .error e ↔ ¬ IsWritten w ∧ e = .unknown w := by
  constructor
  · intro h
    obtain ⟨he, hw⟩ := parse_eq_error h
    refine ⟨?_, he⟩
    rw [isWritten_iff]
    rintro ⟨m, rfl⟩
    exact hw m rfl
  · -- Reading must fail, and there is only one fault that it can report.
    rintro ⟨hw, rfl⟩
    cases h : parse w with
    | ok m => exact absurd (isWritten_iff_parse.2 ⟨m, h⟩) hw
    | error e => rw [(parse_eq_error h).1]

/-- No written move is empty or broken up by a blank character. -/
theorem isWord_toChars (m : Move) : Text.IsWord m.toChars := by
  have hsymbol : ∀ k : Letter, Text.isBlank k.symbol = false := by
    intro k
    cases k <;> decide
  have hsuffix : ∀ a : Amount, ∀ c ∈ a.suffix, Text.isBlank c = false := by
    intro a
    cases a with
    -- Nothing follows the symbol of a single move.
    | single => exact fun c hc => absurd hc List.not_mem_nil
    | inverse => exact List.forall_mem_singleton.2 (by decide)
    | double => exact List.forall_mem_singleton.2 (by decide)
  exact ⟨List.cons_ne_nil _ _, List.forall_mem_cons.2 ⟨hsymbol m.letter, hsuffix m.amount⟩⟩

end Move

/-! ## Written algorithms -/

namespace Algorithm

theorem toList_render (a : Algorithm) :
    a.render.toList = Text.joinWords (a.map Move.toChars) :=
  String.toList_ofList

/-- An algorithm is written as its written moves with single spaces between them. -/
theorem render_eq_intercalate (a : Algorithm) :
    a.render = " ".intercalate (a.map Move.render) := by
  rw [← String.toList_inj, toList_render, Text.joinWords_eq_intercalate, String.toList_intercalate]
  simp [Move.render, Function.comp_def]

/-- The words of a written algorithm are its written moves. -/
theorem hasWords_render (a : Algorithm) : Text.HasWords a.render (a.map Move.render) := by
  have hmoves : ∀ w ∈ a.map Move.toChars, Text.IsWord w := by
    intro w hw
    obtain ⟨m, -, rfl⟩ := List.mem_map.1 hw
    exact m.isWord_toChars
  -- Moves are joined as lists of characters, the words are texts.
  have hchars : (a.map Move.render).map String.toList = a.map Move.toChars := by
    simp [Move.render, Function.comp_def]
  rw [Text.HasWords, hchars, toList_render]
  exact Text.spaced_joinWords hmoves

/-- A text is read as an algorithm exactly if its words are the written moves of the algorithm. -/
theorem parse_eq_ok_iff {text : String} {a : Algorithm} :
    parse text = .ok a ↔ Text.HasWords text (a.map Move.render) := by
  rw [parse, mapM_eq_ok_iff, map_parse_eq_iff, Text.hasWords_iff]

/-- A written algorithm is read back. -/
theorem parse_render (a : Algorithm) : parse a.render = .ok a :=
  parse_eq_ok_iff.2 a.hasWords_render

/-- The fault of a text is its first word that is no written move. -/
theorem parse_eq_error_iff {text : String} {e : MoveError} :
    parse text = .error e ↔
      ∃ before bad rest, Text.HasWords text (before ++ bad :: rest) ∧
        (∀ w ∈ before, Move.IsWritten w) ∧ ¬ Move.IsWritten bad ∧ e = .unknown bad := by
  rw [parse, mapM_eq_error_iff]
  -- That the words before the fault can be read is told without naming the moves they are read as.
  simp only [Text.hasWords_iff, Move.isWritten_iff_parse, ← exists_readable_iff,
    Move.parse_eq_error_iff]
  constructor
  · rintro ⟨before, a, bad, rest, hwords, ha, hbad⟩
    exact ⟨before, bad, rest, hwords, ⟨a, ha⟩, hbad⟩
  · rintro ⟨before, bad, rest, hwords, ⟨a, ha⟩, hbad⟩
    exact ⟨before, a, bad, rest, hwords, ha, hbad⟩

/-- Every text has words, in one way only.  It is read as an algorithm exactly if they are the
written moves of the algorithm in order, and otherwise the first word that is no written move is
reported.  A written algorithm is read back, and a text that is read is written again as its words
with single spaces between them. -/
theorem parse_iff_hasWords (text : String) :
    (∀ ws, Text.HasWords text ws ↔ Text.words text = ws) ∧
    (∀ a, parse text = .ok a ↔ Text.HasWords text (a.map Move.render)) ∧
    (∀ e, parse text = .error e ↔
      ∃ before bad rest, Text.HasWords text (before ++ bad :: rest) ∧
        (∀ w ∈ before, Move.IsWritten w) ∧ ¬ Move.IsWritten bad ∧ e = .unknown bad) ∧
    (∀ a, parse (render a) = .ok a) ∧
    ∀ a ws, parse text = .ok a → Text.HasWords text ws → a.render = " ".intercalate ws := by
  refine ⟨fun ws => Text.hasWords_iff, fun a => parse_eq_ok_iff, fun e => parse_eq_error_iff,
    parse_render, ?_⟩
  intro a ws hparse hws
  -- A text has its words in one way only, so these are the written moves.
  have hwords : a.map Move.render = ws := by
    rw [← Text.hasWords_iff.1 (parse_eq_ok_iff.1 hparse), Text.hasWords_iff.1 hws]
  rw [render_eq_intercalate, hwords]

end Algorithm

end TwistyCube
