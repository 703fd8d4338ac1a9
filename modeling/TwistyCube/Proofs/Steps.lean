import TwistyCube.Execution

/-!
# Step by step

A step of a run ends it or decodes a move.  When a move is decoded, its entry is carried out and its
expansion is put in front of what is queued.  `Config.Reaches` strings such steps together and lists
the moves that are decoded on the way, so that what a run does to the cube, what it records and how
long it takes can be read off one list.

Main results:
- `Config.exists_reaches_ends`: from wherever it is started, a run comes to its end.
- `Config.Reaches.isPrefix`: there is one way to go, so whatever is reached lies on the way to the
  end.
-/

namespace TwistyCube

universe u v

variable {α : Type u} {ι : Type v}

namespace Config

variable {read : ι → Except MoveError Move}

/-! ## Single steps -/

/-- A step decodes a move: the one at the front of the queue, or if nothing is queued the one that
is read from the next item. -/
inductive Decodes (read : ι → Except MoveError Move) : Config α ι → Move → Config α ι → Prop where
  | queued (p : Progress α) (m : Move) (queue : List Move) (input : List ι) :
      Decodes read ⟨p, m :: queue, input⟩ m ⟨p.carryOut m, m.expansion ++ queue, input⟩
  | taken (p : Progress α) {item : ι} {m : Move} (input : List ι) (h : read item = .ok m) :
      Decodes read ⟨p, [], item :: input⟩ m ⟨p.take.carryOut m, m.expansion, input⟩

/-- A run ends when nothing is queued and either nothing is left to be taken, or the next item
cannot be read. -/
inductive Ends (read : ι → Except MoveError Move) : Config α ι → Outcome α → Prop where
  | done (p : Progress α) : Ends read ⟨p, [], []⟩ ⟨p, none⟩
  | fault (p : Progress α) {item : ι} {e : MoveError} (input : List ι) (h : read item = .error e) :
      Ends read ⟨p, [], item :: input⟩ (p.refuse e)

/-- Every step that does not end the run decodes a move. -/
theorem exists_decodes {c d : Config α ι} (h : c.step read = .next d) :
    ∃ m, Decodes read c m d := by
  obtain ⟨p, queue, input⟩ := c
  -- The three cases are those in which a step looks at the queue, at the input, or at neither.
  match queue, input with
  | m :: queue, input =>
    obtain rfl := Transition.next.inj h
    exact ⟨m, .queued p m queue input⟩
  | [], item :: input =>
    cases hitem : read item with
    | error e => simp [step, hitem] at h
    | ok m =>
      simp only [step, hitem, Transition.next.injEq] at h
      subst h
      exact ⟨m, .taken p input hitem⟩
  | [], [] => cases h

theorem Decodes.step_eq {c d : Config α ι} {m : Move} (h : Decodes read c m d) :
    c.step read = .next d := by
  cases h with
  | queued p m queue input => rfl
  | taken p input hitem => simp [step, hitem]

theorem ends_of_step_eq {c : Config α ι} {o : Outcome α} (h : c.step read = .halt o) :
    c.Ends read o := by
  obtain ⟨p, queue, input⟩ := c
  match queue, input with
  | m :: queue, input => cases h
  | [], item :: input =>
    cases hitem : read item with
    | error e =>
      simp only [step, hitem, Transition.halt.injEq] at h
      subst h
      exact .fault p input hitem
    | ok m => simp [step, hitem] at h
  | [], [] =>
    obtain rfl := Transition.halt.inj h
    exact .done p

theorem Ends.step_eq {c : Config α ι} {o : Outcome α} (h : c.Ends read o) :
    c.step read = .halt o := by
  cases h with
  | done p => rfl
  | fault p input hitem => simp [step, hitem]

theorem Ends.run_eq {c : Config α ι} {o : Outcome α} (h : c.Ends read o) : c.run read = o :=
  run_of_halt h.step_eq

/-- No step decodes two moves, or leads to two places. -/
theorem Decodes.unique {c d d' : Config α ι} {m m' : Move} (h : Decodes read c m d)
    (h' : Decodes read c m' d') : m' = m ∧ d' = d := by
  cases h with
  | queued p m queue input =>
    cases h' with
    | queued => exact ⟨rfl, rfl⟩
  | taken p input hitem =>
    cases h' with
    | taken _ _ hitem' =>
      -- The item is read only one way.
      obtain rfl := Except.ok.inj (hitem.symm.trans hitem')
      exact ⟨rfl, rfl⟩

/-! ## Many steps -/

/-- Steps that decode the listed moves, one after the other, lead from one configuration to
another. -/
inductive Reaches (read : ι → Except MoveError Move) :
    Config α ι → List Move → Config α ι → Prop where
  | refl (c : Config α ι) : Reaches read c [] c
  | step {c c' d : Config α ι} {m : Move} {moves : List Move} (h : Decodes read c m c')
      (hrest : Reaches read c' moves d) : Reaches read c (m :: moves) d

theorem Reaches.trans {c c' d : Config α ι} {moves moves' : List Move}
    (h : Reaches read c moves c') (h' : Reaches read c' moves' d) :
    Reaches read c (moves ++ moves') d := by
  induction h with
  | refl _ => exact h'
  | step hstep _ ih => exact .step hstep (ih h')

/-- A run may be taken up at whatever it reaches. -/
theorem Reaches.run_eq {c d : Config α ι} {moves : List Move} (h : Reaches read c moves d) :
    c.run read = d.run read := by
  -- Each step on the way is a step of the run.
  induction h with
  | refl _ => rfl
  | step hstep _ ih => rw [run_of_next hstep.step_eq, ih]

/-- A run comes to its end. -/
theorem exists_reaches_ends (read : ι → Except MoveError Move) (c : Config α ι) :
    ∃ moves d, Reaches read c moves d ∧ d.Ends read (c.run read) := by
  cases hstep : c.step read with
  | halt o =>
    rw [run_of_halt hstep]
    exact ⟨[], c, .refl c, ends_of_step_eq hstep⟩
  | next c' =>
    -- The bound is lower after the step, so what is left of the run comes to its end.
    rw [run_of_next hstep]
    obtain ⟨m, hdecodes⟩ := exists_decodes hstep
    obtain ⟨moves, d, hreaches, hends⟩ := exists_reaches_ends read c'
    exact ⟨m :: moves, d, .step hdecodes hreaches, hends⟩
termination_by c.bound
decreasing_by exact bound_lt_of_step hstep

/-- Whatever is reached lies on the way to where the run ends. -/
theorem Reaches.isPrefix {c d e : Config α ι} {moves moves' : List Move} {o : Outcome α}
    (h : Reaches read c moves d) (h' : Reaches read c moves' e) (hends : e.Ends read o) :
    moves <+: moves' := by
  induction h generalizing moves' with
  | refl _ => exact List.nil_prefix
  | step hstep _ ih =>
    cases h' with
    | refl _ =>
      -- Where the run has ended there is no further step.
      have hnext := hstep.step_eq
      rw [hends.step_eq] at hnext
      cases hnext
    | step hstep' hrest' =>
      -- Both ways begin with the same step.
      obtain ⟨rfl, rfl⟩ := hstep.unique hstep'
      exact (List.cons_prefix_cons).2 ⟨rfl, ih hrest'⟩

end Config

end TwistyCube
