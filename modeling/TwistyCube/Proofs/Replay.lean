import TwistyCube.Proofs.Supply
import TwistyCube.Proofs.Writing
import TwistyCube.Scramble
import TwistyCube.Scramble.WordSource

/-!
# Scrambles performed again and undone

What is returned for a scramble, and what is recorded of it, is the algorithm that has been
performed.  Its written form is read back as the algorithm, so both can be kept as text: the text
scrambles another copy of the cube in the same way, and the text of the inverse restores the cube.

Main results:
- `Algorithm.exists_letters_of_draw`: what is drawn are quarter turns, as many as were asked for.
- `Cube.applyText_render`: performing the written form of an algorithm is performing the algorithm.
- `Cube.replays_of_scramble`: what can be done with a scramble.
-/

namespace TwistyCube

universe u

variable {α : Type u}

/-! ## Drawing -/

namespace Algorithm

/-- An algorithm that is drawn is made of clockwise quarter turns of as many letters as were asked
for. -/
theorem exists_letters_of_draw {n : Nat} {words rest : List UInt64} {a : Algorithm}
    (h : draw n words = some (a, rest)) :
    ∃ letters : List Letter, letters.length = n ∧ a = letters.map Move.quarter := by
  obtain ⟨-, letters, -, -, hlength, hmoves⟩ := draw_eq_some_iff.1 h
  exact ⟨letters, hlength, hmoves⟩

end Algorithm

/-! ## Performing what is written -/

namespace Cube

/-- The written form of an algorithm is performed as the algorithm. -/
theorem applyText_render (a : Algorithm) (c : Cube α) :
    c.applyText a.render = c.applyMoves a := by
  have htext := applyText_eq_parse a.render c
  rw [Algorithm.parse_render] at htext
  exact htext

/-- A scramble performs an algorithm that is drawn, and records it first. -/
theorem scramble_eq_some_iff {words : List UInt64} {c : Cube α} {s : Scramble α} :
    c.scramble words = some s ↔
      Algorithm.draw scrambleLength words = some (s.moves, s.rest) ∧ s.cube = c.after s.moves ∧
        s.log = #[.scrambling s.moves] ++ (c.applyMoves s.moves).log := by
  unfold Cube.scramble
  rw [Option.map_eq_some_iff]
  constructor
  · rintro ⟨⟨a, rest⟩, hdraw, rfl⟩
    exact ⟨hdraw, rfl, rfl⟩
  · obtain ⟨a, d, log, rest⟩ := s
    dsimp only
    rintro ⟨hdraw, rfl, rfl⟩
    exact ⟨(a, rest), hdraw, rfl⟩

end Cube

/-! ## Scrambles -/

/-- The moves and the record of a scramble tell how to scramble a cube in the same way, and how to
undo it. -/
structure Scramble.Replays (c : Cube α) (s : Scramble α) : Prop where
  length : s.moves.length = 40
  single : ∀ m ∈ s.moves, m.amount = .single
  /-- The written form of the moves scrambles the cube in the same way, with the same records. -/
  replay : (c.applyText s.moves.render).fault = none ∧
    (c.applyText s.moves.render).cube = s.cube ∧
    s.log = #[.scrambling s.moves] ++ (c.applyText s.moves.render).log
  /-- The written form of the inverse restores the cube. -/
  undo : (s.cube.applyText s.moves.inverse.render).fault = none ∧
    (s.cube.applyText s.moves.inverse.render).cube = c
  /-- The line that is recorded first has the moves in their written form. -/
  record : ∃ text, s.log[0]?.map Event.render = some ("DEBUG scrambling scramble=" ++ text) ∧
    Algorithm.parse text = .ok s.moves

namespace Cube

/-- Whatever cube is scrambled, and whatever the words are that moves are drawn from, the moves and
the record of the scramble are enough to perform it again and to undo it. -/
theorem replays_of_scramble {words : List UInt64} {c : Cube α} {s : Scramble α}
    (h : c.scramble words = some s) : s.Replays c := by
  obtain ⟨hdraw, hcube, hlog⟩ := scramble_eq_some_iff.1 h
  obtain ⟨letters, hlength, hmoves⟩ := Algorithm.exists_letters_of_draw hdraw
  constructor
  case length =>
    rw [hmoves, List.length_map, hlength]
    rfl
  case single =>
    rw [hmoves]
    intro m hm
    -- Whatever letter is drawn, it is taken as a clockwise quarter.
    obtain ⟨k, -, rfl⟩ := List.mem_map.1 hm
    rfl
  case replay =>
    -- The written form is read back as the moves, which have just been performed.
    rw [applyText_render, hcube]
    exact ⟨fault_applyMoves s.moves c, rfl, hlog⟩
  case undo =>
    -- From the scrambled cube the inverse leads back.
    rw [applyText_render, hcube]
    exact ⟨fault_applyMoves _ _, after_inverse s.moves c⟩
  case record =>
    -- The scramble is recorded ahead of its moves.
    have hfirst : s.log[0]? = some (.scrambling s.moves) := by
      rw [hlog, Array.getElem?_append_left Nat.zero_lt_one]
      rfl
    exact ⟨s.moves.render, congrArg (Option.map Event.render) hfirst,
      Algorithm.parse_render s.moves⟩

/-- Forty-five words are needed to scramble a cube that has been turned: five are thrown away. -/
theorem replays_of_scramble_turned :
    let c := solved.after [⟨.M, .double⟩, ⟨.r, .inverse⟩]
    ∃ s, c.scramble ((WordSource.mk 7).words 45) = some s ∧ s.rest = [] ∧ s.Replays c := by
  intro c
  have hdrawn : (Algorithm.draw scrambleLength ((WordSource.mk 7).words 45)).map Prod.snd =
      some [] := by decide +kernel
  obtain ⟨⟨a, rest⟩, hdraw, rfl⟩ := Option.map_eq_some_iff.1 hdrawn
  let s : Scramble Color := ⟨a, c.after a, #[.scrambling a] ++ (c.applyMoves a).log, []⟩
  have hscramble : c.scramble ((WordSource.mk 7).words 45) = some s :=
    scramble_eq_some_iff.2 ⟨hdraw, rfl, rfl⟩
  exact ⟨s, hscramble, rfl, replays_of_scramble hscramble⟩

end Cube

end TwistyCube
