import Mathlib.Data.Stream.Init
import TwistyCube.Scramble

/-!
# Drawing from a supply of words

Moves are drawn one after the other from a supply of words, and for each of them words are thrown
away until one is accepted.  However many words are thrown away in between, the moves are those of
the accepted words in their order, and no word is taken that stands behind the last one that is
needed.  So a draw may be broken off and taken up again, and words that are thrown away may be put
into the supply or left out of it without a change in the moves.

Main results:
- `Algorithm.draw_eq_some_iff`: which words are taken, and which moves are drawn.
- `Algorithm.draw_add`: a draw in two parts.
- `Algorithm.draws_from_supply`: what is drawn from a supply, and what is left of it.
-/

namespace TwistyCube

/-! ## Accepted words -/

namespace Letter

/-- A word is accepted if the low 64 bits of fourteen times the word are below fourteen times
`2 ^ 60`.  Otherwise it is thrown away. -/
def accepted (v : UInt64) : Bool := decide (14 * v.toNat % UInt64.size ≤ 0xDFFFFFFFFFFFFFFF)

/-- The high 64 bits of fourteen times a word, by which the word picks a letter from the list. -/
def index (v : UInt64) : Nat := 14 * v.toNat / UInt64.size

theorem index_lt (v : UInt64) : index v < all.length := by
  have hv : v.toNat < UInt64.size := v.toNat_lt
  show 14 * v.toNat / UInt64.size < 14
  -- Fourteen times a word is below fourteen times the number of words.
  rw [Nat.div_lt_iff_lt_mul (by decide)]
  omega

/-- A word picks the letter of its index if it is accepted, and no letter otherwise. -/
theorem ofWord?_eq (v : UInt64) : ofWord? v = if accepted v then all[index v]? else none := by
  have hscaled : scaled v = 14 * v.toNat := Nat.mul_comm v.toNat 14
  -- The bound is inclusive in the one form and exclusive in the other.
  have hbound : all.length * wordsPerLetter = 0xDFFFFFFFFFFFFFFF + 1 := rfl
  simp [ofWord?, accepted, index, hscaled, hbound, Nat.lt_succ_iff]

theorem ofWord?_eq_some_iff {v : UInt64} {k : Letter} :
    ofWord? v = some k ↔ accepted v = true ∧ all[index v]? = some k := by
  rw [ofWord?_eq]
  cases accepted v with
  | true => simp
  | false => simp

/-- Only words that are not accepted pick no letter. -/
theorem ofWord?_eq_none_iff {v : UInt64} : ofWord? v = none ↔ accepted v = false := by
  rw [ofWord?_eq]
  cases accepted v with
  -- An accepted word picks a letter, since its index is the number of one.
  | true => simpa using index_lt v
  | false => simp

end Letter

namespace Algorithm

/-! ## Word by word -/

/-- A letter is drawn first, and then the others from the words that it leaves. -/
theorem draw_succ (n : Nat) (words : List UInt64) :
    draw (n + 1) words =
      (Letter.draw words).bind fun (k, rest) =>
        (draw n rest).map fun (a, rest) => (.quarter k :: a, rest) := by
  simp only [draw, Option.map_eq_bind]
  rfl

/-- A word that picks a letter gives the first move, and the others are drawn from the words behind
it. -/
theorem draw_succ_of_picked {v : UInt64} {k : Letter} (h : Letter.ofWord? v = some k) (n : Nat)
    (words : List UInt64) :
    draw (n + 1) (v :: words) = (draw n words).map fun (a, rest) => (.quarter k :: a, rest) := by
  have hfirst : Letter.draw (v :: words) = some (k, words) := by simp [Letter.draw, h]
  rw [draw_succ, hfirst]
  rfl

theorem draw_succ_of_thrown {v : UInt64} (h : Letter.ofWord? v = none) (n : Nat)
    (words : List UInt64) : draw (n + 1) (v :: words) = draw (n + 1) words := by
  simp only [draw, Letter.draw, h]

/-- Words pick letters, each the next one, and the last word picks the last letter. -/
inductive Picks : List UInt64 → List Letter → Prop where
  | nil : Picks [] []
  /-- A word that is accepted picks the next letter. -/
  | picked {v : UInt64} {k : Letter} {words : List UInt64} {letters : List Letter}
      (h : Letter.ofWord? v = some k) (hrest : Picks words letters) :
      Picks (v :: words) (k :: letters)
  /-- A word is thrown away, but only while there are letters to be picked. -/
  | thrown {v : UInt64} {k : Letter} {words : List UInt64} {letters : List Letter}
      (h : Letter.ofWord? v = none) (hrest : Picks words (k :: letters)) :
      Picks (v :: words) (k :: letters)

/-- The letters that words pick are drawn from these words, whatever stands behind them. -/
theorem Picks.draw_append {words : List UInt64} {letters : List Letter} (h : Picks words letters)
    (others : List UInt64) :
    draw letters.length (words ++ others) = some (letters.map Move.quarter, others) := by
  -- Each rule says what the draw does with the first word, and the words behind stay as they are.
  induction h with
  | nil => rfl
  | picked hv _ ih =>
    rw [List.length_cons, List.cons_append, draw_succ_of_picked hv, ih]
    rfl
  | thrown hv _ ih =>
    rw [List.length_cons, List.cons_append, draw_succ_of_thrown hv]
    exact ih

/-- Whatever is drawn has been picked by the words that have been taken. -/
theorem exists_picks_of_draw {n : Nat} {words rest : List UInt64} {a : Algorithm}
    (h : draw n words = some (a, rest)) :
    ∃ used letters, words = used ++ rest ∧ Picks used letters ∧ letters.length = n ∧
      a = letters.map Move.quarter := by
  -- The words are looked at one by one, and the number of moves that are still to be drawn goes
  -- along.
  induction words generalizing n a with
  | nil =>
    cases n with
    | zero =>
      obtain ⟨rfl, rfl⟩ := Prod.mk.inj (Option.some.inj h)
      exact ⟨[], [], rfl, .nil, rfl, rfl⟩
    | succ n => cases h
  | cons v words ih =>
    cases n with
    -- Nothing more is drawn, so this word and all behind it are left.
    | zero =>
      obtain ⟨rfl, rfl⟩ := Prod.mk.inj (Option.some.inj h)
      exact ⟨[], [], rfl, .nil, rfl, rfl⟩
    | succ n =>
      cases hv : Letter.ofWord? v with
      | none =>
        rw [draw_succ_of_thrown hv] at h
        obtain ⟨used, letters, rfl, hpicks, hlength, rfl⟩ := ih h
        -- There is a letter that is still to be picked.
        obtain ⟨k, letters, rfl⟩ := List.exists_cons_of_length_eq_add_one hlength
        exact ⟨v :: used, k :: letters, rfl, .thrown hv hpicks, hlength, rfl⟩
      | some k =>
        rw [draw_succ_of_picked hv] at h
        obtain ⟨⟨b, rest'⟩, hb, h⟩ := Option.map_eq_some_iff.1 h
        obtain ⟨rfl, rfl⟩ := Prod.mk.inj h
        obtain ⟨used, letters, rfl, hpicks, rfl, rfl⟩ := ih hb
        exact ⟨v :: used, k :: letters, rfl, .picked hv hpicks, rfl, rfl⟩

/-- A draw takes the words that pick its letters, and leaves the others. -/
theorem draw_eq_some_iff {n : Nat} {words rest : List UInt64} {a : Algorithm} :
    draw n words = some (a, rest) ↔
      ∃ used letters, words = used ++ rest ∧ Picks used letters ∧ letters.length = n ∧
        a = letters.map Move.quarter := by
  refine ⟨exists_picks_of_draw, ?_⟩
  rintro ⟨used, letters, rfl, hpicks, rfl, rfl⟩
  exact hpicks.draw_append rest

/-- Moves can be drawn exactly if there are as many accepted words. -/
theorem isSome_draw (n : Nat) (words : List UInt64) :
    (draw n words).isSome = decide (n ≤ (words.filter Letter.accepted).length) := by
  induction words generalizing n with
  | nil =>
    cases n with
    | zero => rfl
    | succ n => rfl
  | cons v words ih =>
    cases n with
    | zero => simp [draw]
    | succ n =>
      cases hv : Letter.ofWord? v with
      -- A word that is thrown away counts neither for the draw nor among the accepted ones.
      | none => simp [draw_succ_of_thrown hv, ih, Letter.ofWord?_eq_none_iff.1 hv]
      | some k => simp [draw_succ_of_picked hv, ih, (Letter.ofWord?_eq_some_iff.1 hv).1]

/-- A draw may be broken off and taken up again with the words that are left. -/
theorem draw_add (m n : Nat) (words : List UInt64) :
    draw (m + n) words =
      (draw m words).bind fun (a, rest) => (draw n rest).map fun (b, rest) => (a ++ b, rest) := by
  -- The induction is on the first part of the draw, one letter at a time.
  induction m generalizing words with
  | zero => simp [draw]
  | succ m ih =>
    rw [Nat.succ_add, draw_succ, draw_succ]
    cases Letter.draw words with
    -- Without a first letter neither draw gives anything.
    | none => rfl
    | some first =>
      -- The letter is put in front of whatever is drawn in the first part.
      obtain ⟨k, rest⟩ := first
      simp only [Option.bind_some, ih]
      cases draw m rest with
      | none => rfl
      | some others => simp [Option.map_map, Function.comp_def]

/-- The moves are those that are drawn from the accepted words alone. -/
theorem map_fst_draw_filter (n : Nat) (words : List UInt64) :
    (draw n (words.filter Letter.accepted)).map Prod.fst = (draw n words).map Prod.fst := by
  induction words generalizing n with
  | nil => rfl
  | cons v words ih =>
    cases n with
    | zero => rfl
    | succ n =>
      cases hv : Letter.ofWord? v with
      | none =>
        -- This word is filtered out, and the draw throws it away.
        rw [List.filter_cons_of_neg (by simp [Letter.ofWord?_eq_none_iff.1 hv]), ih,
          draw_succ_of_thrown hv]
      | some k =>
        -- Both draws take this word, and go on with supplies that have the same accepted words.
        have hrest := congrArg (Option.map (Move.quarter k :: ·)) (ih n)
        rw [List.filter_cons_of_pos (Letter.ofWord?_eq_some_iff.1 hv).1, draw_succ_of_picked hv,
          draw_succ_of_picked hv]
        simpa [Option.map_map, Function.comp_def] using hrest

/-! ## What is taken -/

/-- The words go up to the accepted word of a number, with which they end.  There are none if the
number is zero. -/
def UpToAccepted (words : List UInt64) : Nat → Prop
  | 0 => words = []
  | n + 1 => ∃ before v, words = before ++ [v] ∧ Letter.accepted v = true ∧
      (before.filter Letter.accepted).length = n

/-- A number of moves is drawn from words, and all of these are needed. -/
structure Draws (n : Nat) (words : List UInt64) (a : Algorithm) : Prop where
  /-- Nothing is taken or looked at that stands behind the words. -/
  draw_append : ∀ others, draw n (words ++ others) = some (a, others)
  length : a.length = n
  /-- The moves are the clockwise quarters of the letters of the accepted words, in their order. -/
  moves : a.map some =
    (words.filter Letter.accepted).map fun v => Letter.all[Letter.index v]?.map Move.quarter
  upToAccepted : UpToAccepted words n

namespace Picks

variable {words : List UInt64} {letters : List Letter}

/-- The accepted words are those of the letters, each with the index of its letter. -/
theorem map_filter (h : Picks words letters) :
    (words.filter Letter.accepted).map (fun v => Letter.all[Letter.index v]?) =
      letters.map some := by
  -- A picked word stays in the filtered list with its letter, a thrown word drops out of it.
  induction h with
  | nil => rfl
  | picked hv _ ih =>
    obtain ⟨haccepted, hletter⟩ := Letter.ofWord?_eq_some_iff.1 hv
    simp [List.filter_cons_of_pos haccepted, hletter, ih]
  | thrown hv _ ih => simpa [Letter.ofWord?_eq_none_iff.1 hv] using ih

/-- Each letter is picked by one accepted word. -/
theorem length_filter (h : Picks words letters) :
    (words.filter Letter.accepted).length = letters.length := by
  have hlength := congrArg List.length h.map_filter
  simpa using hlength

theorem upToAccepted (h : Picks words letters) : UpToAccepted words letters.length := by
  induction h with
  | nil => rfl
  | @picked v k words letters hv hrest ih =>
    have haccepted := (Letter.ofWord?_eq_some_iff.1 hv).1
    cases hrest with
    -- This word is the last one, since no letter is left.
    | nil => exact ⟨[], v, rfl, haccepted, rfl⟩
    | picked _ _ | thrown _ _ =>
      -- The last word is the last of the words behind this one.
      obtain ⟨before, w, hwords, hw, hbefore⟩ := ih
      exact ⟨v :: before, w, by simp [hwords], hw, by simp [haccepted, hbefore]⟩
  | @thrown v k words letters hv _ ih =>
    obtain ⟨before, w, hwords, hw, hbefore⟩ := ih
    exact ⟨v :: before, w, by simp [hwords], hw,
      by simp [Letter.ofWord?_eq_none_iff.1 hv, hbefore]⟩

theorem draws (h : Picks words letters) :
    Draws letters.length words (letters.map Move.quarter) where
  draw_append := h.draw_append
  length := by rw [List.length_map]
  moves := by
    have hmoves := congrArg (List.map (Option.map Move.quarter)) h.map_filter
    simpa [Function.comp_def] using hmoves.symm
  upToAccepted := h.upToAccepted

end Picks

/-- With enough accepted words there is a draw, and the words that it takes stand in front. -/
theorem exists_draws {n : Nat} {words : List UInt64}
    (h : n ≤ (words.filter Letter.accepted).length) :
    ∃ used rest a, words = used ++ rest ∧ Draws n used a := by
  have hsome : (draw n words).isSome = true := by rw [isSome_draw, decide_eq_true h]
  obtain ⟨⟨a, rest⟩, hdraw⟩ := Option.isSome_iff_exists.1 hsome
  -- What the draw has taken is known from the letters that have been picked.
  obtain ⟨used, letters, hwords, hpicks, rfl, -⟩ := draw_eq_some_iff.1 hdraw
  exact ⟨used, rest, _, hwords, hpicks.draws⟩

/-- If there are enough accepted words in a supply, be it a list or endless, the moves that are
drawn are those of the first accepted words, and the words up to the last of these are taken and
none behind it.  To draw two numbers of moves one after the other is to draw their sum, with the
same words left.  And supplies that differ only in words that are thrown away, wherever these stand,
have the same moves. -/
theorem draws_from_supply (n : Nat) :
    (∀ words : List UInt64, n ≤ (words.filter Letter.accepted).length →
      ∃ used rest a, words = used ++ rest ∧ Draws n used a) ∧
    (∀ words : Stream' UInt64,
      (∃ size, n ≤ ((words.take size).filter Letter.accepted).length) →
      ∃ taken a, Draws n (words.take taken) a) ∧
    (∀ (m : Nat) (words : List UInt64), draw (m + n) words =
      (draw m words).bind fun (a, rest) => (draw n rest).map fun (b, rest) => (a ++ b, rest)) ∧
    ∀ words words' : List UInt64,
      words.filter Letter.accepted = words'.filter Letter.accepted →
        (draw n words).map Prod.fst = (draw n words').map Prod.fst := by
  refine ⟨fun words => exists_draws, ?endless, fun m words => draw_add m n words, ?thrown⟩
  case endless =>
    rintro words ⟨size, hsize⟩
    obtain ⟨used, rest, a, hwords, hdraws⟩ := exists_draws hsize
    -- What is taken from the beginning of the supply is itself a beginning of it.
    have hused : used = words.take (min size used.length) := by
      rw [← Stream'.take_take, hwords, List.take_left]
    rw [hused] at hdraws
    exact ⟨_, a, hdraws⟩
  case thrown =>
    intro words words' h
    -- Both are drawn from the same accepted words.
    rw [← map_fst_draw_filter n words, h, map_fst_draw_filter]

/-- Two moves are drawn from words of which the second and the third are thrown away.  The last word
is left. -/
theorem draws_from_supply_across_thrown :
    let words : List UInt64 :=
      [0xFFFFFFFFFFFFFFF, 0x1000000000000000, 0x1249249249249249, 0x124924924924924A, 0]
    (∃ used, words = used ++ [0] ∧ Draws 2 used [⟨.U, .single⟩, ⟨.x, .single⟩]) ∧
      (∃ taken a, Draws 2 (Stream'.take taken fun i => words.getD i 0) a) ∧
      (draw 2 words).map Prod.fst =
        (draw 2 [0xFFFFFFFFFFFFFFF, 0x124924924924924A, 0]).map Prod.fst := by
  intro words
  obtain ⟨hwords, hendless, -, hthrown⟩ := draws_from_supply 2
  have hdrawn : draw 2 words = some ([⟨.U, .single⟩, ⟨.x, .single⟩], [0]) := by decide
  refine ⟨?_, hendless _ ⟨5, by decide⟩, hthrown _ _ (by decide)⟩
  obtain ⟨used, rest, a, hsplit, hdraws⟩ := hwords words (by decide)
  have hdraw := hdraws.draw_append rest
  rw [← hsplit, hdrawn] at hdraw
  obtain ⟨rfl, rfl⟩ := Prod.mk.inj (Option.some.inj hdraw)
  exact ⟨used, hsplit, hdraws⟩

end Algorithm

end TwistyCube
