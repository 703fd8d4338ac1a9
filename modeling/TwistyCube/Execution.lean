import TwistyCube.Notation.Table

/-!
# Performing moves

Moves are carried out from a queue.  The entry of the move at the front is looked up: a primitive
move is performed, and otherwise the moves of the entry take the place of the one at the front.  Of
a half turn the second quarter stays at the front, behind what the first has led to.  Only when the
queue is empty is the next item of the input taken, so an item is not even looked at before all
moves before it have been performed, and an item that cannot be read leaves their effect in place.

Every entry that is carried out is recorded, and so are a text that turns out to be no move and a
scramble that is about to be performed.

The input may hold moves, or texts that are still to be read as moves; `Config.run` is told how to
read an item.  It always ends: `Config.bound`, which allows forty-four steps for each item of the
input and for each queued move the steps that it needs, falls with every step.
-/

namespace TwistyCube

universe u v

/-! ## Records -/

/-- A record of what happened. -/
inductive Event where
  /-- The entry of the move is a primitive move, which was performed. -/
  | performed (m : Move) (p : Primitive)
  /-- The entry of the move is made of other moves, which took the place of the move. -/
  | expanded (m : Move) (a : Algorithm)
  /-- A text was read that is no move. -/
  | badMove (e : MoveError)
  /-- A scramble is about to be performed. -/
  | scrambling (a : Algorithm)
  deriving DecidableEq

/-- How much a record is about: a single step, or a call. -/
inductive Level where
  | trace
  | debug
  deriving DecidableEq

def Level.name : Level → String
  | trace => "TRACE"
  | debug => "DEBUG"

namespace Event

def level : Event → Level
  | performed _ _ | expanded _ _ => .trace
  | badMove _ | scrambling _ => .debug

/-- A move with its parts by name, as it is listed among the moves that took another's place. -/
def describe (m : Move) : String :=
  "MoveToken \x7b letter: " ++ m.letter.name ++ ", modifier: " ++ m.amount.name ++ " \x7d"

/-- What a record says. -/
def message : Event → String
  | performed m p => "native move token=" ++ m.render ++ " mv=" ++ p.name
  | expanded m a =>
    "rewrite token=" ++ m.render ++
      " rewrite=[" ++ String.intercalate ", " (a.map describe) ++ "]"
  | badMove e => "bad move err=" ++ e.message
  | scrambling a => "scrambling scramble=" ++ a.render

/-- The line for a record: its level and what it says. -/
def render (e : Event) : String := e.level.name ++ " " ++ e.message

end Event

/-! ## Steps -/

/-- How far the performance of moves has come. -/
structure Progress (α : Type u) where
  cube : Cube α
  /-- The number of items taken from the input. -/
  taken : Nat
  /-- The records, oldest first. -/
  log : Array Event

/-- A performance that is under way. -/
structure Config (α : Type u) (ι : Type v) extends Progress α where
  /-- The moves to be performed before the next item is taken. -/
  queue : List Move
  /-- The items that have not been taken. -/
  input : List ι

/-- A performance that has ended. -/
structure Outcome (α : Type u) extends Progress α where
  /-- The fault that ended it early, if any. -/
  fault : Option MoveError

/-- What a step leads to. -/
inductive Transition (α : Type u) (ι : Type v) where
  | halt (o : Outcome α)
  | next (c : Config α ι)

variable {α : Type u} {ι : Type v}

namespace Progress

def start (c : Cube α) : Progress α := ⟨c, 0, #[]⟩

/-- Carries out the entry of a move.  Only a primitive move changes the cube. -/
def carryOut (p : Progress α) (m : Move) : Progress α :=
  match m.entry with
  | .primitive q => { p with cube := p.cube.perform q, log := p.log.push (.performed m q) }
  | .compound a => { p with log := p.log.push (.expanded m a) }

/-- Records that an item has been taken from the input. -/
def take (p : Progress α) : Progress α := { p with taken := p.taken + 1 }

/-- The outcome when the next item is taken and cannot be read. -/
def refuse (p : Progress α) (e : MoveError) : Outcome α :=
  ⟨{ p.take with log := p.log.push (.badMove e) }, some e⟩

end Progress

namespace Config

/-- One step: the entry of the next move is carried out.  The next move is the one at the front of
the queue; if the queue is empty, it is read from the next item of the input. -/
def step (read : ι → Except MoveError Move) : Config α ι → Transition α ι
  | ⟨p, m :: queue, input⟩ => .next ⟨p.carryOut m, m.expansion ++ queue, input⟩
  | ⟨p, [], item :: input⟩ =>
    match read item with
    | .ok m => .next ⟨p.take.carryOut m, m.expansion, input⟩
    | .error e => .halt (p.refuse e)
  | ⟨p, [], []⟩ => .halt ⟨p, none⟩

/-- A bound on the number of steps that are left. -/
def bound (c : Config α ι) : Nat := Algorithm.steps c.queue + 44 * c.input.length

/-- Every step brings the bound down. -/
theorem bound_lt_of_step {read : ι → Except MoveError Move} {c d : Config α ι}
    (h : c.step read = .next d) : d.bound < c.bound := by
  obtain ⟨p, queue, input⟩ := c
  match queue, input with
  | m :: queue, input =>
    simp only [step, Transition.next.injEq] at h
    subst h
    simp only [bound, Algorithm.steps_append, Algorithm.steps, m.steps_eq]
    omega
  | [], item :: input =>
    simp only [step] at h
    split at h
    · next m _ =>
      simp only [Transition.next.injEq] at h
      subst h
      -- What an item is allowed covers any move that it may be read as.
      have hle := m.steps_le
      rw [m.steps_eq] at hle
      simp only [bound, Algorithm.steps, List.length_cons]
      omega
    · cases h
  | [], [] => cases h

/-- Performs moves until the queue and the input are used up or an item cannot be read. -/
def run (read : ι → Except MoveError Move) (c : Config α ι) : Outcome α :=
  match _h : c.step read with
  | .halt o => o
  | .next d => d.run read
termination_by c.bound
decreasing_by exact bound_lt_of_step _h

/-! ## The run, step by step -/

variable {read : ι → Except MoveError Move} {p : Progress α} {input : List ι}

theorem run_of_halt {c : Config α ι} {o : Outcome α} (h : c.step read = .halt o) :
    c.run read = o := by
  rw [run]
  split <;> simp_all

theorem run_of_next {c d : Config α ι} (h : c.step read = .next d) :
    c.run read = d.run read := by
  rw [run]
  split <;> simp_all

/-- With nothing queued and nothing to be taken, a run has ended. -/
@[simp] theorem run_done : run read ⟨p, [], []⟩ = ⟨p, none⟩ := run_of_halt rfl

/-- With nothing queued, an item that cannot be read ends the run. -/
theorem run_input_error {item : ι} {e : MoveError} (h : read item = .error e) :
    run read ⟨p, [], item :: input⟩ = p.refuse e :=
  run_of_halt (by simp [step, h])

end Config

/-! ## Performing moves on a cube -/

namespace Cube

/-- Performs the moves read from a list of items. -/
def applyItems (read : ι → Except MoveError Move) (items : List ι) (c : Cube α) : Outcome α :=
  Config.run read ⟨.start c, [], items⟩

/-- Performs moves that are given as texts, one move to a text.  Each text is read only when all
moves before it have been performed. -/
def applyWords (texts : List String) (c : Cube α) : Outcome α := c.applyItems Move.parse texts

/-- Performs the moves written in a text, separated by blank characters. -/
def applyText (text : String) (c : Cube α) : Outcome α := c.applyWords (Text.words text)

/-- Performs an algorithm. -/
def applyMoves (a : Algorithm) (c : Cube α) : Outcome α := c.applyItems Except.ok a

/-- The cube after an algorithm. -/
def after (a : Algorithm) (c : Cube α) : Cube α := (c.applyMoves a).cube

end Cube

end TwistyCube
