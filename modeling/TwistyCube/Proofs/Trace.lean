import TwistyCube.Proofs.Steps

/-!
# Working off the queue

A move at the front of the queue is worked off before anything behind it is looked at.
`Move.trace` lists the moves whose entries are carried out on the way, from the move itself down to
the primitive moves that it is made of, and `Move.primitives` keeps of them what changes the cube.

Main results:
- `Config.reaches_queue`: a run works off its queue from first to last, whatever the input holds.
- `Cube.after_eq_performAll`: an algorithm does to a cube what its primitive moves do, in order.
-/

namespace TwistyCube

universe u v

variable {α : Type u} {ι : Type v}

/-! ## The moves that a move is made of -/

namespace Move

/-- A move takes more steps than each of the moves that take its place. -/
theorem steps_lt_of_mem_expansion {m n : Move} (h : n ∈ m.expansion) : n.steps < m.steps := by
  have hle : n.steps ≤ Algorithm.steps m.expansion := Algorithm.steps_le_of_mem h
  -- The entry of the move itself is one step more.
  rw [m.steps_eq]
  omega

/-- What passes from the moves that take a move's place to the move holds of every move. -/
theorem induction_on_expansion {P : Move → Prop}
    (h : ∀ m : Move, (∀ n ∈ m.expansion, P n) → P m) (m : Move) : P m :=
  h m fun n _hn => induction_on_expansion h n
termination_by m.steps
decreasing_by exact steps_lt_of_mem_expansion _hn

/-- The moves whose entries are carried out to perform a move, in order. -/
def trace (m : Move) : Algorithm :=
  m :: m.expansion.attach.flatMap fun n => trace n.1
termination_by m.steps
decreasing_by exact steps_lt_of_mem_expansion n.2

/-- The entry of a move is carried out first, then those of the moves that take its place. -/
theorem trace_eq (m : Move) : m.trace = m :: m.expansion.flatMap trace := by
  -- The attached memberships serve the termination of the definition only.
  rw [trace, List.flatMap_subtype fun _ _ => rfl, List.unattach_attach]

/-- The primitive move that is performed when the entry of a move is carried out, if any. -/
def primitive? (m : Move) : Option Primitive :=
  match m.entry with
  | .primitive p => some p
  | .compound _ => none

/-- The primitive moves that are performed for a move, in order. -/
def primitives (m : Move) : List Primitive := m.trace.filterMap primitive?

/-- The primitive moves of a move are its own, if any, and then those of the moves that take its
place. -/
theorem primitives_eq (m : Move) :
    m.primitives = m.primitive?.toList ++ m.expansion.flatMap primitives := by
  -- Choosing the primitive moves of a joined list is choosing them in each part.
  have hexpansion :
      (m.expansion.flatMap trace).filterMap primitive? = m.expansion.flatMap primitives :=
    List.filterMap_flatMap
  rw [primitives, trace_eq, List.filterMap_cons, hexpansion]
  cases m.primitive? with
  | none => rfl
  | some p => rfl

end Move

namespace Algorithm

/-- The moves whose entries are carried out to perform an algorithm, in order. -/
def trace (a : Algorithm) : Algorithm := a.flatMap Move.trace

/-- The primitive moves that are performed for an algorithm, in order. -/
def primitives (a : Algorithm) : List Primitive := a.flatMap Move.primitives

@[simp] theorem primitives_nil : primitives [] = [] := rfl

@[simp] theorem primitives_cons (m : Move) (a : Algorithm) :
    primitives (m :: a) = m.primitives ++ primitives a := rfl

@[simp] theorem primitives_append (a b : Algorithm) :
    primitives (a ++ b) = primitives a ++ primitives b := List.flatMap_append

theorem trace_append (a b : Algorithm) : trace (a ++ b) = trace a ++ trace b :=
  List.flatMap_append

/-- The primitive moves of an algorithm are those of the entries that are carried out. -/
theorem filterMap_trace (a : Algorithm) : (trace a).filterMap Move.primitive? = a.primitives :=
  List.filterMap_flatMap

end Algorithm

/-! ## Carrying out a list of entries -/

/-- Performs primitive moves from first to last. -/
def Cube.performAll (ps : List Primitive) (c : Cube α) : Cube α :=
  ps.foldl (fun c p => c.perform p) c

@[simp] theorem Cube.performAll_append (ps qs : List Primitive) (c : Cube α) :
    c.performAll (ps ++ qs) = (c.performAll ps).performAll qs := List.foldl_append

namespace Progress

/-- Carries out the entries of moves from first to last. -/
def carryOutAll (p : Progress α) (a : Algorithm) : Progress α := a.foldl carryOut p

theorem carryOutAll_append (p : Progress α) (a b : Algorithm) :
    p.carryOutAll (a ++ b) = (p.carryOutAll a).carryOutAll b := List.foldl_append

/-- Takes an item that is a move from the input, and works it off. -/
def receive (p : Progress α) (m : Move) : Progress α := p.take.carryOutAll m.trace

/-- An entry changes the cube by its primitive move, if it has one. -/
theorem cube_carryOut (p : Progress α) (m : Move) :
    (p.carryOut m).cube = p.cube.performAll m.primitive?.toList := by
  unfold carryOut Move.primitive?
  cases m.entry with
  | primitive q => rfl
  | compound a => rfl

theorem taken_carryOut (p : Progress α) (m : Move) : (p.carryOut m).taken = p.taken := by
  unfold carryOut
  cases m.entry with
  | primitive q => rfl
  | compound a => rfl

theorem taken_carryOutAll (p : Progress α) (a : Algorithm) :
    (p.carryOutAll a).taken = p.taken := by
  induction a generalizing p with
  | nil => rfl
  | cons m a ih =>
    have hrest : (p.carryOutAll (m :: a)).taken = (p.carryOut m).taken := ih (p.carryOut m)
    rw [hrest, taken_carryOut]

/-- One item is taken for each move that is received. -/
theorem taken_foldl_receive (p : Progress α) (a : Algorithm) :
    (a.foldl receive p).taken = p.taken + a.length := by
  induction a generalizing p with
  | nil => rfl
  | cons m a ih =>
    -- The move is taken once, whatever is then carried out for it.
    have hfirst : (p.receive m).taken = p.taken + 1 := taken_carryOutAll p.take m.trace
    rw [List.foldl_cons, ih, hfirst, List.length_cons]
    omega

end Progress

/-! ## Runs -/

namespace Config

variable {read : ι → Except MoveError Move} {input : List ι}

/-- The cube changes by the primitive move of the decoded move, if it has one. -/
theorem Decodes.cube_eq {c d : Config α ι} {m : Move} (h : Decodes read c m d) :
    d.cube = c.cube.performAll m.primitive?.toList := by
  -- Whether the move was queued or has just been taken makes no difference to its entry.
  cases h with
  | queued p m queue input => exact p.cube_carryOut m
  | taken p input h => exact p.take.cube_carryOut m

/-- Along a run the cube changes by the primitive moves that are decoded, in order. -/
theorem Reaches.cube_eq {c d : Config α ι} {moves : List Move} (h : Reaches read c moves d) :
    d.cube = c.cube.performAll (moves.filterMap Move.primitive?) := by
  induction h with
  | refl _ => rfl
  | @step _ _ _ m moves hdecodes _ ih =>
    rw [ih, hdecodes.cube_eq, ← Cube.performAll_append, List.filterMap_cons]
    -- A move without a primitive move of its own drops out of the list.
    cases m.primitive? with
    | none => rfl
    | some q => rfl

/-- If each of some moves is worked off when it is at the front of the queue, so are all of them one
after the other. -/
theorem reaches_append_queue_of_forall {a : Algorithm}
    (h : ∀ m ∈ a, ∀ (p : Progress α) (queue : List Move),
      Reaches read ⟨p, m :: queue, input⟩ m.trace ⟨p.carryOutAll m.trace, queue, input⟩)
    (p : Progress α) (queue : List Move) :
    Reaches read ⟨p, a ++ queue, input⟩ a.trace ⟨p.carryOutAll a.trace, queue, input⟩ := by
  induction a generalizing p with
  | nil => exact .refl _
  | cons m a ih =>
    -- The other moves wait behind the first one, as part of the queue that it does not touch.
    have hfirst := h m List.mem_cons_self p (a ++ queue)
    have hrest := ih (fun n hn => h n (List.mem_cons_of_mem m hn)) (p.carryOutAll m.trace)
    rw [← Progress.carryOutAll_append] at hrest
    exact hfirst.trans hrest

/-- The move at the front of the queue is worked off, and nothing else is touched. -/
theorem reaches_cons_queue (m : Move) (p : Progress α) (queue : List Move) :
    Reaches read ⟨p, m :: queue, input⟩ m.trace ⟨p.carryOutAll m.trace, queue, input⟩ := by
  induction m using Move.induction_on_expansion generalizing p queue with
  | h m ih =>
    -- The entry of the move is carried out first.  Its expansion is at the front of the queue then,
    -- and is worked off by the induction hypothesis.
    have hfirst : Decodes read ⟨p, m :: queue, input⟩ m
        ⟨p.carryOut m, m.expansion ++ queue, input⟩ := .queued p m queue input
    have hrest := reaches_append_queue_of_forall ih (p.carryOut m) queue
    rw [m.trace_eq]
    exact .step hfirst hrest

/-- The queue is worked off from first to last before the input is looked at. -/
theorem reaches_queue (queue : List Move) (p : Progress α) :
    Reaches read ⟨p, queue, input⟩ (Algorithm.trace queue)
      ⟨p.carryOutAll (Algorithm.trace queue), [], input⟩ := by
  have hqueue : Reaches read ⟨p, queue ++ [], input⟩ (Algorithm.trace queue)
      ⟨p.carryOutAll (Algorithm.trace queue), [], input⟩ :=
    reaches_append_queue_of_forall (fun m _ => reaches_cons_queue m) p []
  rwa [List.append_nil] at hqueue

/-- An item that is read as a move is worked off before the next item is taken. -/
theorem reaches_input_move {item : ι} {m : Move} (h : read item = .ok m) (p : Progress α) :
    Reaches read ⟨p, [], item :: input⟩ m.trace ⟨p.receive m, [], input⟩ := by
  -- Taking the item carries out the entry of its move, and the queue holds only its expansion.
  have hrest : Reaches read ⟨p.take.carryOut m, m.expansion, input⟩ m.expansion.trace
      ⟨(p.take.carryOut m).carryOutAll m.expansion.trace, [], input⟩ :=
    reaches_queue m.expansion (p.take.carryOut m)
  rw [Progress.receive, m.trace_eq]
  exact .step (.taken p input h) hrest

/-- Items that are read as the moves of an algorithm are all received before what comes after them
is looked at. -/
theorem reaches_readable {items : List ι} {a : Algorithm} (h : items.map read = a.map Except.ok)
    (rest : List ι) (p : Progress α) :
    Reaches read ⟨p, [], items ++ rest⟩ a.trace ⟨a.foldl Progress.receive p, [], rest⟩ := by
  -- Between two items the queue is empty, so the next one is taken.
  induction a generalizing items p with
  | nil =>
    obtain rfl : items = [] := List.map_eq_nil_iff.1 h
    exact .refl _
  | cons m a ih =>
    obtain ⟨item, items, rfl, hitem, hitems⟩ := List.map_eq_cons_iff.1 h
    exact (reaches_input_move hitem p).trans (ih hitems (p.receive m))

/-- A run goes on with what comes after items that can be read as if it had received their moves. -/
theorem run_readable {items : List ι} {a : Algorithm} (h : items.map read = a.map Except.ok)
    (rest : List ι) (p : Progress α) :
    run read ⟨p, [], items ++ rest⟩ = run read ⟨a.foldl Progress.receive p, [], rest⟩ :=
  (reaches_readable h rest p).run_eq

/-- Moves that need no reading are all received. -/
theorem reaches_moves (a : Algorithm) (p : Progress α) :
    Reaches Except.ok ⟨p, [], a⟩ (Algorithm.trace a) ⟨a.foldl Progress.receive p, [], []⟩ := by
  have hreaches : Reaches Except.ok ⟨p, [], a ++ []⟩ (Algorithm.trace a)
      ⟨a.foldl Progress.receive p, [], []⟩ := reaches_readable rfl [] p
  rwa [List.append_nil] at hreaches

theorem run_moves (a : Algorithm) (p : Progress α) :
    run Except.ok ⟨p, [], a⟩ = ⟨a.foldl Progress.receive p, none⟩ :=
  (reaches_moves a p).run_eq.trans run_done

end Config

namespace Cube

/-- An algorithm changes a cube by the primitive moves that it is made of. -/
theorem after_eq_performAll (a : Algorithm) (c : Cube α) :
    c.after a = c.performAll a.primitives := by
  rw [after, applyMoves, applyItems, Config.run_moves, ← Algorithm.filterMap_trace]
  exact (Config.reaches_moves a (.start c)).cube_eq

end Cube

end TwistyCube
