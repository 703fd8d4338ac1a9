import TwistyCube.Proofs.Reading

/-!
# How long a run is

The queue can grow with a step, and an anticlockwise quarter is made of moves of its own letter, so
neither the length of the queue nor the letters in it count down to the end of a run.  What does is
the number of entries that are looked up for a move from its own down to primitive moves, which is
`Move.steps`, and beside it the number of those entries that are primitive, which is
`Move.primitiveCount`.  Both depend on the move alone, and neither is more than `M2` needs.

Main results:
- `Move.length_trace`, `Move.length_primitives`: the two numbers are what they are said to be.
- `Cube.ends_within`: every run ends, after no more steps than forty-four for each item.
-/

namespace TwistyCube

universe u v

variable {α : Type u} {ι : Type v}

/-! ## Steps and primitive moves of a move -/

/-- The number of primitive moves that are performed for a quarter turn of a letter. -/
def Letter.primitiveCount : Letter → Direction → Nat
  | U, .clockwise | x, .clockwise | y, .clockwise | z, .clockwise => 1
  | U, .anticlockwise | x, .anticlockwise | y, .anticlockwise | z, .anticlockwise => 3
  | D, .clockwise | R, .clockwise | L, .clockwise | F, .clockwise | B, .clockwise => 5
  | D, .anticlockwise | R, .anticlockwise | L, .anticlockwise | F, .anticlockwise
  | B, .anticlockwise => 7
  | M, .clockwise => 15
  | M, .anticlockwise => 13
  | u, .clockwise | r, .clockwise => 6
  | u, .anticlockwise | r, .anticlockwise => 10
  | d, .clockwise | d, .anticlockwise => 4
  | l, .clockwise | l, .anticlockwise => 8

namespace Move

/-- The number of primitive moves that are performed for a move. -/
def primitiveCount (m : Move) : Nat :=
  match m.amount with
  | .single => m.letter.primitiveCount .clockwise
  | .inverse => m.letter.primitiveCount .anticlockwise
  | .double => 2 * m.letter.primitiveCount .clockwise

/-- No move needs more primitive moves than a half turn of the middle slice. -/
theorem primitiveCount_le (m : Move) : m.primitiveCount ≤ 30 := by
  obtain ⟨k, a⟩ := m
  cases k <;> cases a <;> decide

/-- A move has its own primitive move, if any, and those of the moves that take its place. -/
theorem primitiveCount_eq (m : Move) :
    m.primitiveCount =
      m.primitive?.toList.length + (m.expansion.map primitiveCount).sum := by
  obtain ⟨k, a⟩ := m
  cases k <;> cases a <;> rfl

end Move

theorem Algorithm.steps_eq_sum (a : Algorithm) : a.steps = (a.map Move.steps).sum := by
  induction a with
  | nil => rfl
  | cons m a ih => rw [steps, ih, List.map_cons, List.sum_cons]

namespace Move

/-- A move is worked off in as many steps as its number says. -/
theorem length_trace (m : Move) : m.trace.length = m.steps := by
  induction m using induction_on_expansion with
  | h m ih =>
    -- The move itself is one step, and each move of its expansion takes its own.
    rw [trace_eq, List.length_cons, List.length_flatMap, List.map_congr_left ih,
      ← Algorithm.steps_eq_sum, ← steps_eq]

theorem length_primitives (m : Move) : m.primitives.length = m.primitiveCount := by
  induction m using induction_on_expansion with
  | h m ih =>
    rw [primitives_eq, List.length_append, List.length_flatMap, List.map_congr_left ih,
      ← primitiveCount_eq]

end Move

namespace Algorithm

theorem length_trace_le (a : Algorithm) : a.trace.length ≤ 44 * a.length := by
  induction a with
  | nil => exact Nat.zero_le _
  | cons m a ih =>
    -- The first move is worked off before the others, by itself.
    have hsplit : (trace (m :: a)).length = m.trace.length + (trace a).length :=
      List.length_append
    have hfirst := m.steps_le
    rw [hsplit, m.length_trace, List.length_cons]
    omega

theorem length_primitives_le (a : Algorithm) : a.primitives.length ≤ 30 * a.length := by
  induction a with
  | nil => exact Nat.zero_le _
  | cons m a ih =>
    have hfirst := m.primitiveCount_le
    rw [primitives_cons, List.length_append, m.length_primitives, List.length_cons]
    omega

end Algorithm

/-! ## Runs -/

namespace Cube

/-- The moves that are decoded in a run are those of the items up to the first that cannot be
read. -/
theorem exists_reaches_trace (read : ι → Except MoveError Move) (items : List ι) (c : Cube α) :
    ∃ (a : Algorithm) (d : Config α ι), a.length ≤ items.length ∧
      Config.Reaches read ⟨.start c, [], items⟩ a.trace d ∧
      d.Ends read (c.applyItems read items) := by
  rcases exists_readable_or_fault read items with
    ⟨a, ha⟩ | ⟨before, a, item, rest, e, rfl, ha, hitem⟩
  · have hreaches := Config.reaches_readable ha [] (.start c)
    rw [List.append_nil] at hreaches
    have hends : Config.Ends read _ _ := .done (a.foldl Progress.receive (.start c))
    -- All items have been received, so the run ends where they have led.
    rw [applyItems, hreaches.run_eq, hends.run_eq]
    exact ⟨a, _, (length_eq_of_readable ha).le, hreaches, hends⟩
  · have hreaches := Config.reaches_readable ha (item :: rest) (.start c)
    have hends : Config.Ends read _ _ := .fault (a.foldl Progress.receive (.start c)) rest hitem
    -- The item that cannot be read and those after it add nothing to what is decoded.
    have hlength : a.length = before.length := length_eq_of_readable ha
    rw [applyItems, hreaches.run_eq, hends.run_eq]
    refine ⟨a, _, ?_, hreaches, hends⟩
    rw [List.length_append, hlength]
    omega

/-- A run over any items, be they moves or texts of moves, comes to its end: to an empty queue with
no item left, or to an item that cannot be read.  On the way there, and so at any time, it has
decoded no more than forty-four moves for each item, and performed no more than thirty primitive
moves.  Which moves are decoded for a move depends on the move alone: they are those of its trace,
whatever the cube is, whatever stands behind the move in the queue, and whatever is left to be
taken; and so it is for an item that is read as a move. -/
theorem ends_within (read : ι → Except MoveError Move) (items : List ι) (c : Cube α) :
    (∃ moves d, Config.Reaches read ⟨.start c, [], items⟩ moves d ∧
      d.Ends read (c.applyItems read items)) ∧
    (∀ moves d, Config.Reaches read ⟨.start c, [], items⟩ moves d →
      moves.length ≤ 44 * items.length ∧
      (moves.filterMap Move.primitive?).length ≤ 30 * items.length) ∧
    (∀ (m : Move) (p : Progress α) (queue : List Move) (input : List ι),
      ∃ p', Config.Reaches read ⟨p, m :: queue, input⟩ m.trace ⟨p', queue, input⟩) ∧
    ∀ (item : ι) (m : Move), read item = .ok m → ∀ (p : Progress α) (input : List ι),
      ∃ p', Config.Reaches read ⟨p, [], item :: input⟩ m.trace ⟨p', [], input⟩ := by
  obtain ⟨a, e, ha, hreaches, hends⟩ := exists_reaches_trace read items c
  refine ⟨⟨a.trace, e, hreaches, hends⟩, ?within, ?queued, ?taken⟩
  case within =>
    intro moves d hd
    -- What has been decoded is the beginning of what the whole run decodes.
    have hbegins : moves <+: a.trace := hd.isPrefix hreaches hends
    have hsteps := hbegins.length_le
    have hprimitives := (hbegins.filterMap Move.primitive?).length_le
    have hsteps_le := a.length_trace_le
    have hprimitives_le := a.length_primitives_le
    rw [a.filterMap_trace] at hprimitives
    omega
  case queued =>
    intro m p queue input
    exact ⟨p.carryOutAll m.trace, Config.reaches_cons_queue m p queue⟩
  case taken =>
    intro item m hitem p input
    exact ⟨p.receive m, Config.reaches_input_move hitem p⟩

/-- A half turn of the middle slice needs as many steps and primitive moves as are allowed. -/
theorem ends_within_half_slice :
    ∃ (m : Move) (p : Progress Color),
      Config.Reaches Move.parse ⟨.start solved, [], ["M2"]⟩ m.trace ⟨p, [], []⟩ ∧
      m.trace.length = 44 * 1 ∧ (m.trace.filterMap Move.primitive?).length = 30 * 1 := by
  obtain ⟨-, -, -, htaken⟩ := ends_within Move.parse ["M2"] solved
  obtain ⟨p, hreaches⟩ := htaken "M2" ⟨.M, .double⟩ (by decide) (.start solved) []
  exact ⟨⟨.M, .double⟩, p, hreaches, Move.length_trace _, Move.length_primitives _⟩

end Cube

end TwistyCube
