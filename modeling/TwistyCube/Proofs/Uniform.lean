import Mathlib.Data.FinEnum
import Mathlib.Data.Fintype.BigOperators
import Mathlib.Data.Set.Card
import Mathlib.Data.Set.Finite.List
import Mathlib.Order.Interval.Finset.Nat
import TwistyCube.Proofs.Supply

/-!
# Every sequence of letters is equally likely

Fourteen does not divide `2 ^ 64`, so the words cannot be dealt out evenly to the letters.  But the
accepted words can: those that pick a letter stand in a row, and each row has `2 ^ 60` of them.  So
each letter is picked by as many words as any other, whatever has been drawn before it.  The number
of supplies from which some letters are drawn is therefore known from the number of letters and the
number of words alone.

Main results:
- `Letter.ncard_picking`, `Letter.ncard_thrown`: how many words there are of each kind.
- `Algorithm.ncard_supplies`: how many supplies there are for some letters.
- `Algorithm.letters_equally_likely`: sequences of letters as long as each other are drawn from
  equally many supplies.
-/

namespace TwistyCube

/-! ## Words -/

namespace Letter

/-- The first of the words that pick the letter with a given number. -/
def firstWord (i : Nat) : Nat := (i * UInt64.size + 13) / 14

/-- The accepted words of one index are those of a row that begins with the first word of it. -/
theorem accepted_and_index_eq_iff {v : UInt64} {i : Nat} :
    accepted v = true ∧ index v = i ↔
      firstWord i ≤ v.toNat ∧ v.toNat < firstWord i + 2 ^ 60 := by
  -- All of it is arithmetic: fourteen times the word is split into a quotient and a remainder.
  simp only [accepted, index, firstWord, UInt64.size, decide_eq_true_iff]
  constructor
  · rintro ⟨hlow, rfl⟩
    omega
  · rintro ⟨hfirst, hlast⟩
    have hindex : 14 * v.toNat / 18446744073709551616 = i := by
      rw [Nat.div_eq_iff (by decide)]
      omega
    omega

theorem ofWord?_eq_getElem_iff {v : UInt64} {i : Nat} (h : i < all.length) :
    ofWord? v = some all[i] ↔ firstWord i ≤ v.toNat ∧ v.toNat < firstWord i + 2 ^ 60 := by
  -- A letter is listed once, so it is known by its number.
  rw [ofWord?_eq_some_iff, List.getElem?_eq_getElem (index_lt v), Option.some_inj,
    nodup_all.getElem_inj_iff, accepted_and_index_eq_iff]

/-- As numbers, the words that pick a letter are an interval. -/
theorem image_toNat_picking {i : Nat} (h : i < all.length) :
    UInt64.toNat '' {v | ofWord? v = some all[i]} =
      Set.Ico (firstWord i) (firstWord i + 2 ^ 60) := by
  ext m
  constructor
  · rintro ⟨v, hv, rfl⟩
    exact (ofWord?_eq_getElem_iff h).1 hv
  · intro hm
    -- Even the row of the last letter ends before there are no more words.
    have hlast : firstWord i + 2 ^ 60 ≤ UInt64.size := by
      have hi : i < 14 := h
      simp only [firstWord, UInt64.size]
      omega
    have htoNat : (UInt64.ofNat m).toNat = m :=
      UInt64.toNat_ofNat_of_lt' (hm.2.trans_le hlast)
    exact ⟨UInt64.ofNat m, (ofWord?_eq_getElem_iff h).2 (by rwa [htoNat]), htoNat⟩

/-- Every letter is picked by one word in sixteen. -/
theorem ncard_picking (k : Letter) : {v | ofWord? v = some k}.ncard = 2 ^ 60 := by
  obtain ⟨i, hi, rfl⟩ := List.getElem_of_mem (mem_all k)
  -- Words are counted as numbers, since an interval of these has a known size.
  rw [← Set.ncard_image_of_injective _ (fun _ _ => UInt64.toNat.inj), image_toNat_picking hi,
    Set.ncard_eq_toFinset_card', Set.toFinset_Ico, Nat.card_Ico, Nat.add_sub_cancel_left]

instance : Fintype Letter := ⟨⟨all, nodup_all⟩, mem_all⟩

theorem card_word : Fintype.card UInt64 = 2 ^ 64 := by
  rw [← FinEnum.card_eq_fintypeCard, FinEnum.card_UInt64]

/-- Every word picks a letter or is thrown away. -/
theorem sum_ncard_ofWord? : ∑ o, {v | ofWord? v = o}.ncard = 2 ^ 64 := by
  -- The words are sorted by what they pick, and every word is in one of the classes.
  calc ∑ o, {v | ofWord? v = o}.ncard
      = ∑ o, (Finset.univ.filter fun v => ofWord? v = o).card := by
        apply Finset.sum_congr rfl
        intro o _
        rw [← Set.ncard_coe_finset, Finset.coe_filter_univ]
    _ = Fintype.card UInt64 :=
        (Finset.card_eq_sum_card_fiberwise fun _ _ => Finset.mem_coe.2 (Finset.mem_univ _)).symm
    _ = 2 ^ 64 := card_word

/-- One word in eight is thrown away. -/
theorem ncard_thrown : {v | ofWord? v = none}.ncard = 2 ^ 61 := by
  have hletters : Fintype.card Letter = 14 := rfl
  -- The words that pick letters are known, so what is left of all words is thrown away.
  have hsum := sum_ncard_ofWord?
  simp only [Fintype.sum_option, ncard_picking, Finset.sum_const, Finset.card_univ, hletters,
    Nat.nsmul_eq_mul] at hsum
  have htotal : 2 ^ 64 = 2 ^ 61 + 14 * 2 ^ 60 := by decide
  exact Nat.add_right_cancel (hsum.trans htotal)

end Letter

/-! ## Lists of words -/

/-- Lists are counted by their first elements and by what may stand behind them. -/
theorem ncard_image2_cons {β : Type} (s : Set β) (t : Set (List β)) :
    (Set.image2 List.cons s t).ncard = s.ncard * t.ncard := by
  -- No list arises in two ways.
  have hinjective : Function.Injective fun p : β × List β => p.1 :: p.2 := by
    intro p q h
    obtain ⟨hhead, htail⟩ := List.cons.inj h
    exact Prod.ext hhead htail
  rw [← Set.image_prod, Set.ncard_image_of_injective _ hinjective, Set.ncard_prod]

theorem ncard_words (size : Nat) :
    {words : List UInt64 | words.length = size}.ncard = 2 ^ (64 * size) := by
  -- Lists of one length are the vectors of this length.
  have hcard : Nat.card (List.Vector UInt64 size) = 2 ^ (64 * size) := by
    rw [Nat.card_eq_fintype_card, card_vector, Letter.card_word, pow_mul]
  exact hcard

namespace Algorithm

/-- The moves of some letters are drawn from a supply, and maybe not all of it is taken. -/
def Yields (words : List UInt64) (letters : List Letter) : Prop :=
  ∃ rest, draw letters.length words = some (letters.map Move.quarter, rest)

/-- A supply yields letters if its first word picks the first of them, or else is thrown away, and
the rest yields what is left. -/
theorem yields_cons_iff {v : UInt64} {words : List UInt64} {k : Letter} {letters : List Letter} :
    Yields (v :: words) (k :: letters) ↔
      Letter.ofWord? v = some k ∧ Yields words letters ∨
        Letter.ofWord? v = none ∧ Yields words (k :: letters) := by
  cases hv : Letter.ofWord? v with
  | none => simp [Yields, draw_succ_of_thrown hv]
  | some j => simp [Yields, draw_succ_of_picked hv, Move.quarter, and_comm]

/-- The supplies of a given size from which the moves of some letters are drawn. -/
def supplies (size : Nat) (letters : List Letter) : Set (List UInt64) :=
  {words | words.length = size ∧ Yields words letters}

theorem finite_supplies (size : Nat) (letters : List Letter) : (supplies size letters).Finite :=
  (List.finite_length_eq UInt64 size).subset fun _ hwords => hwords.1

theorem supplies_nil (size : Nat) :
    supplies size [] = {words : List UInt64 | words.length = size} := by
  ext words
  simp [supplies, Yields, draw]

theorem supplies_zero_cons (k : Letter) (letters : List Letter) :
    supplies 0 (k :: letters) = ∅ := by
  ext words
  cases words with
  | nil => simp [supplies, Yields, draw, Letter.draw]
  | cons v words => simp [supplies]

/-- The first word picks the first letter, or it is thrown away. -/
theorem supplies_succ_cons (size : Nat) (k : Letter) (letters : List Letter) :
    supplies (size + 1) (k :: letters) =
      Set.image2 List.cons {v | Letter.ofWord? v = some k} (supplies size letters) ∪
        Set.image2 List.cons {v | Letter.ofWord? v = none} (supplies size (k :: letters)) := by
  ext words
  cases words with
  | nil => simp [supplies]
  | cons v words => simp [supplies, yields_cons_iff, and_or_left, and_left_comm]

/-- The number of supplies of a given size from which the moves of a given number of letters are
drawn. -/
def supplyCount : Nat → Nat → Nat
  | size, 0 => 2 ^ (64 * size)
  | 0, _ + 1 => 0
  | size + 1, n + 1 => 2 ^ 60 * supplyCount size n + 2 ^ 61 * supplyCount size (n + 1)

/-- The number of supplies for some letters depends on how many letters there are, not on which. -/
theorem ncard_supplies (size : Nat) (letters : List Letter) :
    (supplies size letters).ncard = supplyCount size letters.length := by
  -- The induction is on the words.  The letters change with them, for a word may pick the first.
  induction size generalizing letters with
  | zero =>
    cases letters with
    | nil => rw [supplies_nil, ncard_words, List.length_nil, supplyCount]
    | cons k letters => rw [supplies_zero_cons, Set.ncard_empty, List.length_cons, supplyCount]
  | succ size ih =>
    cases letters with
    -- No letter is left, so the words behind may be any.
    | nil => rw [supplies_nil, ncard_words, List.length_nil, supplyCount]
    | cons k letters =>
      -- The two kinds of supplies are told apart by their first word.
      have hdisjoint : Disjoint
          (Set.image2 List.cons {v | Letter.ofWord? v = some k} (supplies size letters))
          (Set.image2 List.cons {v | Letter.ofWord? v = none} (supplies size (k :: letters))) := by
        rw [Set.disjoint_left]
        rintro _ ⟨v, hv, words, -, rfl⟩ ⟨w, hw, words', -, h⟩
        obtain ⟨rfl, rfl⟩ := List.cons.inj h
        -- A word cannot both pick a letter and be thrown away.
        have hpicked : Letter.ofWord? _ = some k := hv
        have hthrown : Letter.ofWord? _ = none := hw
        rw [hpicked] at hthrown
        cases hthrown
      have hfinite := finite_supplies (size + 1) (k :: letters)
      rw [supplies_succ_cons] at hfinite ⊢
      obtain ⟨hpicked, hthrown⟩ := Set.finite_union.1 hfinite
      rw [Set.ncard_union_eq hdisjoint hpicked hthrown, ncard_image2_cons, ncard_image2_cons,
        Letter.ncard_picking, Letter.ncard_thrown, ih, ih, List.length_cons, supplyCount]

/-- Fewer words than letters are never enough. -/
theorem supplyCount_eq_zero {size n : Nat} (h : size < n) : supplyCount size n = 0 := by
  induction size generalizing n with
  | zero =>
    cases n with
    | zero => cases h
    | succ n => rfl
  | succ size ih =>
    cases n with
    | zero => cases h
    | succ n =>
      -- Whether the first word is used or not, the words behind it are too few.
      have hfewer : size < n := Nat.lt_of_succ_lt_succ h
      simp [supplyCount, ih hfewer, ih (Nat.lt_succ_of_lt hfewer)]

/-- With as many words as letters none can be thrown away. -/
theorem supplyCount_self (n : Nat) : supplyCount n n = 2 ^ (60 * n) := by
  induction n with
  | zero => rfl
  | succ n ih =>
    rw [supplyCount, ih, supplyCount_eq_zero (Nat.lt_succ_self n), Nat.mul_zero, Nat.add_zero,
      ← pow_add, Nat.mul_succ, Nat.add_comm]

/-- With as many words as letters, the supplies that yield them are those that are accepted as a
whole and used up. -/
theorem accepted_supplies_eq (letters : List Letter) :
    {words : List UInt64 | words.length = letters.length ∧ words.all Letter.accepted = true ∧
      draw letters.length words = some (letters.map Move.quarter, [])} =
        supplies letters.length letters := by
  ext words
  constructor
  · rintro ⟨hlength, -, hdraw⟩
    exact ⟨hlength, [], hdraw⟩
  · rintro ⟨hlength, rest, hdraw⟩
    obtain ⟨used, picked, rfl, hpicks, hpicked, -⟩ := draw_eq_some_iff.1 hdraw
    have hfilter := hpicks.length_filter
    have hle := List.length_filter_le Letter.accepted used
    rw [List.length_append] at hlength
    -- Each letter has a word of its own, so there is no word that is left or thrown away.
    obtain rfl : rest = [] := List.eq_nil_of_length_eq_zero (by omega)
    have hall : ∀ v ∈ used, Letter.accepted v = true :=
      List.length_filter_eq_length_iff.1 (by omega)
    refine ⟨?_, ?_, hdraw⟩
    · simpa using hlength
    · simpa using hall

/-- Of all lists of as many words as there are letters, equally many are accepted as a whole and
yield the letters, whatever letters these are.  In particular there is no sequence of letters that
is never drawn.  And if some words may be thrown away, it is still only the number of letters that
decides from how many supplies they are drawn. -/
theorem letters_equally_likely (letters : List Letter) :
    {words : List UInt64 | words.length = letters.length}.ncard = 2 ^ (64 * letters.length) ∧
    {words : List UInt64 | words.length = letters.length ∧ words.all Letter.accepted = true ∧
      draw letters.length words = some (letters.map Move.quarter, [])}.ncard =
        2 ^ (60 * letters.length) ∧
    (∃ words, draw letters.length words = some (letters.map Move.quarter, [])) ∧
    ∀ size, (supplies size letters).ncard = supplyCount size letters.length := by
  have hcount : {words : List UInt64 | words.length = letters.length ∧
      words.all Letter.accepted = true ∧
      draw letters.length words = some (letters.map Move.quarter, [])}.ncard =
        2 ^ (60 * letters.length) := by
    rw [accepted_supplies_eq, ncard_supplies, supplyCount_self]
  refine ⟨ncard_words letters.length, hcount, ?_, fun size => ncard_supplies size letters⟩
  -- There are such supplies, for their number is not zero.
  have hne : 2 ^ (60 * letters.length) ≠ 0 := (Nat.two_pow_pos _).ne'
  rw [← hcount] at hne
  obtain ⟨words, -, -, hdraw⟩ := Set.nonempty_of_ncard_ne_zero hne
  exact ⟨words, hdraw⟩

end Algorithm

end TwistyCube
