import TwistyCube.Proofs.Reading

/-!
# What moves mean

The notation table read as a definition by recursion, without a queue: a quarter turn is its
primitive move, or one move after the other of those that it is made of, and a half turn is two
quarters.  The queue gives the same meaning to moves.  What is queued and what is still to be taken
always mean what the whole input meant at the start, whatever has been put in front of the queue in
the meantime.

Main results:
- `Config.Means.step`: what is left to be done keeps its meaning from step to step.
- `Config.run_eq_effect`: a run ends with the cube that its queue and its input mean.
-/

namespace TwistyCube

universe u v

variable {α : Type u} {ι : Type v}

/-! ## The recursive meaning -/

/-- The moves that a quarter turn is made of take fewer steps than the quarter turn. -/
theorem Letter.steps_lt_of_mem_entry {k : Letter} {d : Direction} {a : Algorithm}
    (h : k.entry d = .compound a) {m : Move} (hm : m ∈ a) : m.steps < k.steps d := by
  -- Both senses are entries of a move, so this is what is known of expansions.
  cases d with
  | clockwise =>
    have hmem : m ∈ (⟨k, .single⟩ : Move).expansion := by
      simpa [Move.expansion, Move.entry, Move.direction, Move.remainder, h] using hm
    exact Move.steps_lt_of_mem_expansion hmem
  | anticlockwise =>
    have hmem : m ∈ (⟨k, .inverse⟩ : Move).expansion := by
      simpa [Move.expansion, Move.entry, Move.direction, Move.remainder, h] using hm
    exact Move.steps_lt_of_mem_expansion hmem

theorem Letter.steps_pos (k : Letter) (d : Direction) : 0 < k.steps d := by
  cases k <;> cases d <;> decide

mutual

/-- What a quarter turn of a letter does to a cube. -/
def Letter.effect (k : Letter) (d : Direction) (c : Cube α) : Cube α :=
  match _h : k.entry d with
  | .primitive p => c.perform p
  | .compound a => a.attach.foldl (fun c m => m.1.effect c) c
termination_by (k.steps d, 0)
decreasing_by exact .left _ _ (Letter.steps_lt_of_mem_entry _h m.2)

/-- What a move does to a cube. -/
def Move.effect (m : Move) (c : Cube α) : Cube α :=
  match m with
  | ⟨k, .single⟩ => k.effect .clockwise c
  | ⟨k, .inverse⟩ => k.effect .anticlockwise c
  | ⟨k, .double⟩ => Move.effect ⟨k, .single⟩ (Move.effect ⟨k, .single⟩ c)
termination_by (m.steps, 1)
decreasing_by
  · exact .right _ Nat.zero_lt_one
  · exact .right _ Nat.zero_lt_one
  · have hpos := k.steps_pos .clockwise
    exact .left _ _ (by simp only [Move.steps]; omega)
  · have hpos := k.steps_pos .clockwise
    exact .left _ _ (by simp only [Move.steps]; omega)

end

/-- What an algorithm does to a cube: its moves from first to last. -/
def Algorithm.effect (a : Algorithm) (c : Cube α) : Cube α := a.foldl (fun c m => m.effect c) c

theorem Algorithm.effect_append (a b : Algorithm) (c : Cube α) :
    effect (a ++ b) c = effect b (effect a c) := List.foldl_append

/-- The meaning of a quarter turn, as the table has it. -/
theorem Letter.effect_eq (k : Letter) (d : Direction) (c : Cube α) :
    k.effect d c =
      match k.entry d with
      | .primitive p => c.perform p
      | .compound a => Algorithm.effect a c := by
  rw [Letter.effect]
  cases k.entry d with
  | primitive p => rfl
  | compound a => simp [Algorithm.effect]

/-- The meaning of a move, in the order in which its entry and its remainder are carried out. -/
theorem Move.effect_eq (m : Move) (c : Cube α) :
    m.effect c =
      match m.entry with
      | .primitive p => Algorithm.effect m.remainder (c.perform p)
      | .compound a => Algorithm.effect m.remainder (Algorithm.effect a c) := by
  obtain ⟨k, a⟩ := m
  -- A clockwise quarter is what the table says of the letter.
  have hquarter : (⟨k, .single⟩ : Move).effect (α := α) = k.effect .clockwise := by
    funext c
    rw [Move.effect]
  cases a with
  | single =>
    rw [hquarter, Letter.effect_eq]
    rfl
  | inverse =>
    rw [Move.effect, Letter.effect_eq]
    rfl
  | double =>
    -- The second quarter is what remains when the first has been carried out.
    have hremainder : ∀ c : Cube α,
        Algorithm.effect (⟨k, .double⟩ : Move).remainder c = k.effect .clockwise c := by
      intro c
      exact congrFun hquarter c
    simp only [hremainder]
    rw [Move.effect, hquarter, Letter.effect_eq k .clockwise c]
    show _ = match k.entry .clockwise with
      | .primitive p => k.effect .clockwise (c.perform p)
      | .compound a => k.effect .clockwise (Algorithm.effect a c)
    cases k.entry .clockwise with
    | primitive p => rfl
    | compound a => rfl

/-- Carrying out the entry of a move and putting its expansion in its place does not change what is
meant. -/
theorem Progress.effect_carryOut (p : Progress α) (m : Move) :
    Algorithm.effect m.expansion (p.carryOut m).cube = m.effect p.cube := by
  rw [m.effect_eq]
  unfold Move.expansion carryOut
  cases m.entry with
  | primitive q => rfl
  | compound a => exact Algorithm.effect_append a m.remainder p.cube

/-! ## What is left to be done -/

namespace Config

variable {read : ι → Except MoveError Move}

/-- The cube that is meant by what is left to be done: the queue first, and then the input, all of
which can be read. -/
def Means (read : ι → Except MoveError Move) (c : Config α ι) (d : Cube α) : Prop :=
  ∃ a : Algorithm, c.input.map read = a.map Except.ok ∧
    Algorithm.effect a (Algorithm.effect c.queue c.cube) = d

/-- A step does not change what is meant. -/
theorem Means.step {c c' : Config α ι} {d : Cube α} {m : Move} (h : c.Means read d)
    (hdecodes : Decodes read c m c') : c'.Means read d := by
  obtain ⟨a, hinput, hmeant⟩ := h
  cases hdecodes with
  | queued p m queue input =>
    refine ⟨a, hinput, ?_⟩
    -- The expansion is at the front of the queue, where the move has been.
    rw [← hmeant, Algorithm.effect_append, Progress.effect_carryOut]
    rfl
  | @taken p item m input hitem =>
    -- The item that has been taken is read as the first of the moves that were left.
    rw [List.map_cons, hitem] at hinput
    obtain ⟨n, a, rfl, hn, hrest⟩ := List.map_eq_cons_iff.1 hinput.symm
    obtain rfl := Except.ok.inj hn
    refine ⟨a, hrest.symm, ?_⟩
    rw [← hmeant, Progress.effect_carryOut]
    rfl

/-- What is meant is the same wherever a run gets. -/
theorem Means.reaches {c c' : Config α ι} {d : Cube α} {moves : List Move} (h : c.Means read d)
    (hreaches : Reaches read c moves c') : c'.Means read d := by
  induction hreaches with
  | refl _ => exact h
  | step hdecodes _ ih => exact ih (h.step hdecodes)

/-- When there is nothing left to be done, the cube is the one that is meant. -/
theorem Means.ends {c : Config α ι} {o : Outcome α} {d : Cube α} (h : c.Means read d)
    (hends : c.Ends read o) : o.cube = d ∧ o.fault = none := by
  obtain ⟨a, hinput, hmeant⟩ := h
  cases hends with
  | done p =>
    obtain rfl : a = [] := List.map_eq_nil_iff.1 hinput.symm
    exact ⟨hmeant, rfl⟩
  | fault p input hitem =>
    -- The next item can be read, like all items that are left.
    obtain ⟨m, a, rfl, hm, -⟩ := List.map_eq_cons_iff.1 hinput.symm
    rw [hitem] at hm
    cases hm

/-- A run ends with the cube that was meant at its start. -/
theorem Means.run {c : Config α ι} {d : Cube α} (h : c.Means read d) :
    (c.run read).cube = d ∧ (c.run read).fault = none := by
  obtain ⟨moves, c', hreaches, hends⟩ := exists_reaches_ends read c
  exact (h.reaches hreaches).ends hends

/-- From any queue and any input, a run ends with the cube that is got by the queued moves and then
the moves of the input, each with its recursive meaning; be the input moves or the texts of moves.
A step that decodes a move made of other moves leaves the cube alone. -/
theorem run_eq_effect (p : Progress α) (queue input : Algorithm)
    (read : ι → Except MoveError Move) :
    ((run Except.ok ⟨p, queue, input⟩).cube = Algorithm.effect (queue ++ input) p.cube ∧
      (run Except.ok ⟨p, queue, input⟩).fault = none) ∧
    ((run Move.parse ⟨p, queue, input.map Move.render⟩).cube =
        Algorithm.effect (queue ++ input) p.cube ∧
      (run Move.parse ⟨p, queue, input.map Move.render⟩).fault = none) ∧
    ∀ c d : Config α ι, c.step read = .next d →
      ∃ m, Decodes read c m d ∧ ∀ a, m.entry = .compound a → d.cube = c.cube := by
  refine ⟨?_, ?_, ?_⟩
  · rw [Algorithm.effect_append]
    exact Means.run ⟨input, rfl, rfl⟩
  · rw [Algorithm.effect_append]
    exact Means.run ⟨input, Algorithm.map_parse_eq_iff.2 rfl, rfl⟩
  · intro c d h
    obtain ⟨m, hdecodes⟩ := exists_decodes h
    refine ⟨m, hdecodes, ?_⟩
    intro a hentry
    -- A move that is made of others has no primitive move of its own.
    have hnone : m.primitive? = none := by
      unfold Move.primitive?
      rw [hentry]
    rw [hdecodes.cube_eq, hnone]
    rfl

end Config

end TwistyCube
