import TwistyCube.Proofs.Reading

/-!
# How long the queue gets

The queue grows when a move is decoded that is made of others, and what is left of a half turn waits
behind all that its first quarter leads to.  How many moves of its own a move can have in the queue
is `Move.room`, and how long the queue can get from where it is now is `Algorithm.peak`: each queued
move needs its room on top of the moves behind it.  Decoding does not raise the peak, and an item is
taken only when the queue is empty, so the queue never gets longer than a single item makes it.

Main results:
- `Move.room_eq`: the room of a move is the peak of the moves that take its place.
- `Config.Reaches.peak_queue_le`: the peak stays low in a run.
- `Cube.queue_stays_short`: however long the input is, no more than six moves are ever queued.
-/

namespace TwistyCube

universe u v

variable {α : Type u} {ι : Type v}

/-! ## Room and peak -/

/-- The most moves that are queued for a quarter turn of a letter after any step of working it off,
beside those that stand behind it. -/
def Letter.room : Letter → Direction → Nat
  | U, .clockwise | x, .clockwise | y, .clockwise | z, .clockwise => 0
  | U, .anticlockwise | x, .anticlockwise | y, .anticlockwise | z, .anticlockwise => 2
  | d, .clockwise => 2
  | d, .anticlockwise => 3
  | D, _ | L, _ | F, _ => 3
  | R, _ | B, _ | u, _ | r, _ => 4
  | M, _ | l, _ => 5

/-- The most moves that are queued for a move after any step of working it off.  The second quarter
of a half turn waits behind those of the first. -/
def Move.room (m : Move) : Nat :=
  match m.amount with
  | .single => m.letter.room .clockwise
  | .inverse => m.letter.room .anticlockwise
  | .double => m.letter.room .clockwise + 1

/-- The greatest length of the queue from now on, when some moves are queued and no item is taken.
A move that waits needs a place even if it needs no room when it is worked off. -/
def Algorithm.peak : Algorithm → Nat
  | [] => 0
  | m :: a => max (max 1 m.room + a.length) (peak a)

namespace Algorithm

theorem length_le_peak (a : Algorithm) : a.length ≤ peak a := by
  cases a with
  | nil => exact Nat.le_refl 0
  | cons m a =>
    rw [peak, List.length_cons]
    omega

/-- The moves in front have all those behind them waiting. -/
theorem peak_append (a b : Algorithm) : peak (a ++ b) = max (peak a + b.length) (peak b) := by
  -- The moves in front are worked off one by one, each with those behind it and all of `b` waiting.
  induction a with
  | nil =>
    have hb := length_le_peak b
    rw [List.nil_append, peak]
    omega
  | cons m a ih =>
    rw [List.cons_append, peak, peak, ih, List.length_append]
    omega

end Algorithm

namespace Move

/-- The room of a move is what the moves need that take its place. -/
theorem room_eq (m : Move) : m.room = Algorithm.peak m.expansion := by
  obtain ⟨k, a⟩ := m
  cases k <;> cases a <;> rfl

theorem room_le (m : Move) : m.room ≤ 6 := by
  obtain ⟨k, a⟩ := m
  cases k <;> cases a <;> decide

end Move

/-- When a move is decoded, the moves that take its place need no more than it does. -/
theorem Algorithm.peak_expansion_append_le (m : Move) (queue : Algorithm) :
    peak (m.expansion ++ queue) ≤ peak (m :: queue) := by
  -- The room of the move has been counted on top of the queue behind it.
  rw [peak_append, ← m.room_eq, peak]
  omega

/-! ## Runs -/

namespace Config

variable {read : ι → Except MoveError Move}

/-- A step does not raise the peak above six. -/
theorem Decodes.peak_queue_le {c d : Config α ι} {m : Move} (h : Decodes read c m d)
    (hc : Algorithm.peak c.queue ≤ 6) : Algorithm.peak d.queue ≤ 6 := by
  cases h with
  | queued p m queue input => exact (Algorithm.peak_expansion_append_le m queue).trans hc
  | @taken p item m input hitem =>
    -- The queue was empty, so there is only the room of the item.
    show Algorithm.peak m.expansion ≤ 6
    rw [← m.room_eq]
    exact m.room_le

theorem Reaches.peak_queue_le {c d : Config α ι} {moves : List Move} (h : Reaches read c moves d)
    (hc : Algorithm.peak c.queue ≤ 6) : Algorithm.peak d.queue ≤ 6 := by
  induction h with
  | refl _ => exact hc
  | step hdecodes _ ih => exact ih (hdecodes.peak_queue_le hc)

/-- While moves are queued the input is left alone. -/
theorem Decodes.input_eq_or_queue_eq_nil {c d : Config α ι} {m : Move} (h : Decodes read c m d) :
    d.input = c.input ∧ d.taken = c.taken ∨ c.queue = [] := by
  cases h with
  | queued p m queue input => exact .inl ⟨rfl, p.taken_carryOut m⟩
  | taken p input hitem => exact .inr rfl

theorem Ends.queue_eq_nil {c : Config α ι} {o : Outcome α} (h : c.Ends read o) : c.queue = [] := by
  cases h with
  | done p => rfl
  | fault p input hitem => rfl

end Config

namespace Cube

/-- In a run over any items, be they moves or texts of moves, and whether or not all of them can be
read, no more than six moves are queued after any step.  A step that takes an item finds nothing
queued, and so does the step that ends the run. -/
theorem queue_stays_short (read : ι → Except MoveError Move) (items : List ι) (c : Cube α) :
    (∃ moves d, Config.Reaches read ⟨.start c, [], items⟩ moves d ∧
      d.Ends read (c.applyItems read items)) ∧
    ∀ moves d, Config.Reaches read ⟨.start c, [], items⟩ moves d →
      d.queue.length ≤ 6 ∧
      (∀ e, d.step read = .next e → e.input = d.input ∧ e.taken = d.taken ∨ d.queue = []) ∧
      ∀ o, d.step read = .halt o → d.queue = [] := by
  refine ⟨Config.exists_reaches_ends read ⟨.start c, [], items⟩, ?_⟩
  intro moves d hreaches
  -- At the start nothing is queued, and the peak stays low from there.
  have hpeak : Algorithm.peak d.queue ≤ 6 := hreaches.peak_queue_le (Nat.zero_le 6)
  refine ⟨(Algorithm.length_le_peak d.queue).trans hpeak, ?_, ?_⟩
  · intro e hstep
    obtain ⟨m, hdecodes⟩ := Config.exists_decodes hstep
    exact hdecodes.input_eq_or_queue_eq_nil
  · intro o hstep
    exact (Config.ends_of_step_eq hstep).queue_eq_nil

/-- A half turn of the middle slice has six moves queued after two steps, and the input is left
alone then. -/
theorem queue_stays_short_half_slice :
    ∃ moves d, Config.Reaches Move.parse ⟨.start solved, [], ["M2", "U"]⟩ moves d ∧
      d.queue.length = 6 ∧ ∀ e, d.step Move.parse = .next e → e.input = ["U"] := by
  have htaken : Config.Decodes Move.parse ⟨.start solved, [], ["M2", "U"]⟩ ⟨.M, .double⟩ _ :=
    .taken (.start solved) ["U"] (by decide)
  have hreaches := Config.Reaches.step htaken (.step (.queued _ ⟨.L, .inverse⟩ _ _) (.refl _))
  obtain ⟨-, hshort⟩ := queue_stays_short Move.parse ["M2", "U"] solved
  obtain ⟨-, hinput, -⟩ := hshort _ _ hreaches
  refine ⟨_, _, hreaches, rfl, ?_⟩
  intro e hstep
  rcases hinput e hstep with ⟨hleft, -⟩ | hempty
  · exact hleft
  · cases hempty

end Cube

end TwistyCube
