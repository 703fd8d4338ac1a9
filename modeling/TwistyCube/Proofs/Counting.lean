import TwistyCube.Proofs.Loading
import TwistyCube.Proofs.Replay

/-!
# How many stickers of each colour

A cube is loaded from a text and then handled by calls: texts and algorithms are performed on it,
and it is scrambled, in any order and any number of times.  A text that is no move stops the call
that it was given to, and leaves the cube where it is.  In any case a call that returns has done to
the cube what some algorithm does, so it is enough to know what algorithms do: they take the
stickers from place to place, and there are as many of each colour as before.

Main results:
- `Cube.exists_after_of_calls`: what calls do to a cube is done by an algorithm.
- `Cube.count_after`: algorithms do not change the number of stickers of a colour.
- `Cube.count_after_calls`: that number is the number of characters that name the colour in the text
  that the cube was loaded from.
-/

namespace TwistyCube

universe u

variable {α : Type u}

/-! ## Calls -/

/-- A call that may change a cube. -/
inductive Call where
  /-- Performs moves that are given as texts, one move to a text. -/
  | applyWords (texts : List String)
  /-- Performs the moves written in a text. -/
  | applyText (text : String)
  /-- Performs an algorithm. -/
  | applyMoves (a : Algorithm)
  /-- Scrambles with moves drawn from a supply of words. -/
  | scramble (words : List UInt64)

namespace Call

/-- The cube that a call leaves, if it returns. -/
def perform : Call → Cube α → Option (Cube α)
  | .applyWords texts, c => some (c.applyWords texts).cube
  | .applyText text, c => some (c.applyText text).cube
  | .applyMoves a, c => some (c.applyMoves a).cube
  | .scramble words, c => (c.scramble words).map Scramble.cube

/-- The call does not run out of words. -/
def Returns : Call → Prop
  | .applyWords _ | .applyText _ | .applyMoves _ => True
  | .scramble words => (Algorithm.draw scrambleLength words).isSome = true

instance : DecidablePred Returns
  | .applyWords _ | .applyText _ | .applyMoves _ => isTrue trivial
  | .scramble _ => inferInstanceAs (Decidable (_ = true))

end Call

namespace Cube

/-- The cube after calls, one after the other, if all of them return. -/
def afterCalls : List Call → Cube α → Option (Cube α)
  | [], c => some c
  | call :: calls, c => (call.perform c).bind (afterCalls calls)

/-- A call leaves a cube exactly if it returns. -/
theorem isSome_perform (call : Call) (c : Cube α) :
    (call.perform c).isSome = true ↔ call.Returns := by
  cases call with
  | applyWords texts => exact iff_of_true rfl trivial
  | applyText text => exact iff_of_true rfl trivial
  | applyMoves a => exact iff_of_true rfl trivial
  | scramble words =>
    unfold Call.perform Call.Returns Cube.scramble
    rw [Option.isSome_map, Option.isSome_map]

/-- Calls leave a cube exactly if each of them returns, whatever the cube is. -/
theorem isSome_afterCalls (calls : List Call) (c : Cube α) :
    (c.afterCalls calls).isSome = true ↔ ∀ call ∈ calls, call.Returns := by
  induction calls generalizing c with
  | nil => exact iff_of_true rfl (List.forall_mem_nil _)
  | cons call calls ih =>
    rw [List.forall_mem_cons, ← isSome_perform call c, afterCalls]
    -- A call that does not return leaves no cube for the others.
    cases call.perform c with
    | none => simp
    | some d => simp [ih d]

/-! ## Calls and algorithms -/

theorem exists_after_of_words (texts : List String) (c : Cube α) :
    ∃ a, (c.applyWords texts).cube = c.after a := by
  unfold applyWords
  rcases exists_readable_or_fault Move.parse texts with
    ⟨a, ha⟩ | ⟨before, a, bad, rest, e, rfl, ha, hbad⟩
  · rw [applyItems_readable ha]
    exact ⟨a, rfl⟩
  · -- The text that is no move is reported, and the moves before it stay performed.
    rw [applyItems_fault ha hbad]
    exact ⟨a, rfl⟩

/-- What a call does to a cube is done by an algorithm. -/
theorem exists_after_of_call {call : Call} {c d : Cube α} (h : call.perform c = some d) :
    ∃ a, d = c.after a := by
  cases call with
  | applyWords texts =>
    obtain rfl := Option.some.inj h
    exact exists_after_of_words texts c
  | applyText text =>
    obtain rfl := Option.some.inj h
    exact exists_after_of_words (Text.words text) c
  | applyMoves a =>
    obtain rfl := Option.some.inj h
    exact ⟨a, rfl⟩
  | scramble words =>
    -- A scramble performs the moves that it has drawn.
    obtain ⟨s, hs, rfl⟩ := Option.map_eq_some_iff.1 h
    obtain ⟨-, hcube, -⟩ := scramble_eq_some_iff.1 hs
    exact ⟨s.moves, hcube⟩

/-- Whatever is called, a cube that is reached is reached by an algorithm. -/
theorem exists_after_of_calls {calls : List Call} {c d : Cube α}
    (h : c.afterCalls calls = some d) : ∃ a, d = c.after a := by
  induction calls generalizing c with
  | nil =>
    obtain rfl := Option.some.inj h
    refine ⟨[], ?_⟩
    rw [after_eq_smul, Algorithm.motion_nil, one_smul]
  | cons call calls ih =>
    -- The algorithm of the first call is followed by one that does what the others do.
    obtain ⟨e, hcall, hcalls⟩ := Option.bind_eq_some_iff.1 h
    obtain ⟨a, rfl⟩ := exists_after_of_call hcall
    obtain ⟨b, rfl⟩ := ih hcalls
    exact ⟨a ++ b, (after_append a b c).symm⟩

/-! ## Stickers from place to place -/

/-- Going through the faces, one comes to each side once. -/
theorem map_sideOf_perm (o : Orientation) : (Face.all.map o.sideOf).Perm Side.all := by
  have hinjective : Function.Injective o.sideOf := Function.LeftInverse.injective o.face_sideOf
  -- Both lists name every side, and neither names one twice.
  rw [List.perm_ext_iff_of_nodup (Sixfold.nodup_all.map hinjective) Sixfold.nodup_all]
  intro s
  refine iff_of_true (List.mem_map.2 ⟨o.face s, Sixfold.mem_all _, ?_⟩) (Sixfold.mem_all s)
  exact o.sideOf_face s

/-- The stickers in the grids are those that are seen at the places. -/
theorem coe_stickers (c : Cube α) :
    (c.stickers : Multiset α) = Finset.univ.val.map c.sticker := by
  -- The grids come in the order of the faces, and the places in that of the sides.
  have hgrids : c.stickers =
      (Face.all.map c.orientation.sideOf).flatMap fun s => (c.view s).toList := by
    simp only [stickers, Six.toList_eq_map, List.flatMap_map, view_sideOf]
    rfl
  rw [hgrids, Multiset.coe_eq_coe.2 ((map_sideOf_perm c.orientation).flatMap_right _)]
  rfl

/-- There are as many stickers of a kind after an algorithm as before. -/
theorem count_after [DecidableEq α] (a : Algorithm) (c : Cube α) (k : α) :
    (c.after a).count k = c.count k := by
  -- The motion permutes the places, and each sticker goes with its place.
  have hstickers : ((c.after a).stickers : Multiset α) = c.stickers := by
    rw [coe_stickers, coe_stickers, after_eq_smul]
    apply map_univ_eq_of_perm a.motion.1
    intro q
    rw [sticker_smul, Equiv.symm_apply_apply]
  exact (Multiset.coe_eq_coe.1 hstickers).count_eq k

end Cube

/-! ## Stickers and characters -/

namespace Color

instance (k : Color) (c : Char) : Decidable (k.NamedBy c) :=
  inferInstanceAs (Decidable (_ ∨ _))

/-- Every sticker has one of the six colours. -/
theorem sum_map_count (colors : List Color) :
    (all.map fun k => colors.count k).sum = colors.length := by
  simpa [Sixfold.all, Six.toList, Nat.add_assoc] using Sixfold.sum_count colors

/-- A colour is read as often as there are characters that name it. -/
theorem count_of_map_read {marks : List Char} {colors : List Color}
    (h : marks.map read = colors.map Except.ok) (k : Color) :
    colors.count k = marks.countP (k.NamedBy ·) := by
  induction colors generalizing marks with
  | nil =>
    obtain rfl : marks = [] := List.map_eq_nil_iff.1 h
    rfl
  | cons j colors ih =>
    -- The first character counts for the colour exactly if that is what is read from it.
    obtain ⟨mark, marks, rfl, hmark, hmarks⟩ := List.map_eq_cons_iff.1 h
    have hnamed : k.NamedBy mark ↔ j = k := by
      rw [← read_eq_ok_iff, hmark, Except.ok.injEq]
    simp [List.count_cons, List.countP_cons, ih hmarks, hnamed]

/-- The characters that name a colour are not blank. -/
theorem countP_marks (k : Color) (text : String) :
    (Text.marks text).countP (k.NamedBy ·) = text.toList.countP (k.NamedBy ·) := by
  rw [Text.marks, List.countP_filter]
  apply List.countP_congr
  intro mark _
  simp only [Bool.and_eq_true, decide_eq_true_eq, Bool.not_eq_true', and_iff_left_iff_imp]
  exact isBlank_of_namedBy

end Color

namespace Cube

theorem count_of_parse {text : String} {c : Cube Color} (h : parse text = .ok c) (k : Color) :
    c.count k = text.toList.countP (k.NamedBy ·) := by
  obtain ⟨-, hread⟩ := parse_eq_ok_iff.1 h
  exact (Color.count_of_map_read (readColors_eq_ok_iff.1 hread) k).trans (k.countP_marks text)

/-- Of a cube that has been loaded from a text, whatever stickers that has, and has been handled by
calls since then, whatever they were, there are as many stickers of each colour as there are
characters in the text that name the colour, and fifty-four in all.  The calls return unless a
scramble runs out of words. -/
theorem count_after_calls {text : String} {c : Cube Color} (h : parse text = .ok c)
    (calls : List Call) :
    ((c.afterCalls calls).isSome = true ↔ ∀ call ∈ calls, call.Returns) ∧
      ∀ d, c.afterCalls calls = some d →
        (∀ k : Color, d.count k = text.toList.countP (k.NamedBy ·)) ∧
          (Color.all.map fun k => d.count k).sum = 54 := by
  refine ⟨isSome_afterCalls calls c, ?_⟩
  intro d hd
  -- All the calls together do what one algorithm does, and that keeps the number of each colour.
  obtain ⟨a, rfl⟩ := exists_after_of_calls hd
  constructor
  · intro k
    rw [count_after, count_of_parse h]
  · exact (Color.sum_map_count _).trans (length_stickers _)

/-- A cube with no green sticker and one white one, that is loaded from a text in mixed style, and
handled by a call that is stopped, a scramble, a text and an algorithm. -/
theorem count_after_calls_uneven :
    let text := "RRRRRrrrr\nrrrrRRRRR OOOOOOOOO bbbbbbbbb\tyyyyyyyyy yyyyWyyyy"
    let calls : List Call := [.applyWords ["R", "M2", "E", "U"],
      .scramble ((WordSource.mk 7).words 60), .applyText "x u' B2",
      .applyMoves [⟨.M, .inverse⟩, ⟨.z, .double⟩]]
    ∃ c d : Cube Color, parse text = .ok c ∧
      (c.applyWords ["R", "M2", "E", "U"]).fault = some (.unknown "E") ∧
      c.afterCalls calls = some d ∧
      Color.all.map (fun k => d.count k) = [18, 0, 9, 9, 17, 1] := by
  intro text calls
  let c : Cube Color := ofGrids ⟨.filled .red, .filled .red, .filled .orange, .filled .blue,
    .filled .yellow, ⟨⟨.yellow, .yellow, .yellow⟩, ⟨.yellow, .white, .yellow⟩,
      ⟨.yellow, .yellow, .yellow⟩⟩⟩
  have hparse : parse text = .ok c := by decide +kernel
  have hcalls : ∀ call ∈ calls, call.Returns := by decide +kernel
  obtain ⟨hreturns, hcounts⟩ := count_after_calls hparse calls
  obtain ⟨d, hd⟩ := Option.isSome_iff_exists.1 (hreturns.2 hcalls)
  obtain ⟨hcount, -⟩ := hcounts d hd
  refine ⟨c, d, hparse, by decide +kernel, hd, ?_⟩
  simp only [hcount]
  decide +kernel

end Cube

end TwistyCube
