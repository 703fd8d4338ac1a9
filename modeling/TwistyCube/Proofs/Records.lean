import TwistyCube.Proofs.Reading

/-!
# What the records tell

While texts are performed, a record is made of every entry that is carried out, and one of the text
that is no move, if there is one.  Nothing else is recorded, so the records are a full account: who
performs the primitive moves that are named in them, one after the other, gets the cube that the
performance ended with, even if it ended early.

Main results:
- `Config.Decodes.log_eq`, `Config.Reaches.log_eq`: one record for each move that is decoded.
- `Cube.log_append`: texts that can be read are recorded ahead of what follows them, and change
  nothing in the records of that.
- `Cube.recounts_applyWords`: what the records of texts tell.
-/

namespace TwistyCube

universe u v

variable {α : Type u} {ι : Type v}

/-! ## Single records -/

namespace Event

/-- The primitive move that a record says was performed, if any. -/
def primitive? : Event → Option Primitive
  | performed _ p => some p
  | _ => none

/-- If a record is about an entry, the table has that entry for the letter of the move: the
anticlockwise one if the amount is the inverse one, and only then. -/
def FollowsTable : Event → Prop
  | performed m p =>
    m.letter.entry (if m.amount = .inverse then .anticlockwise else .clockwise) = .primitive p
  | expanded m a =>
    m.letter.entry (if m.amount = .inverse then .anticlockwise else .clockwise) = .compound a
  | badMove _ | scrambling _ => True

end Event

namespace Move

/-- The record of carrying out the entry of a move. -/
def record (m : Move) : Event :=
  match m.entry with
  | .primitive p => .performed m p
  | .compound a => .expanded m a

theorem level_record (m : Move) : m.record.level = .trace := by
  unfold record
  cases m.entry with
  | primitive p => rfl
  | compound a => rfl

/-- The record of a move names the primitive move that is performed for it. -/
theorem primitive?_record (m : Move) : m.record.primitive? = m.primitive? := by
  unfold record primitive?
  cases m.entry with
  | primitive p => rfl
  | compound a => rfl

/-- Only the inverse amount is looked up anticlockwise. -/
theorem direction_eq (m : Move) :
    m.direction = if m.amount = .inverse then .anticlockwise else .clockwise := by
  obtain ⟨k, a⟩ := m
  cases a with
  | single => rfl
  | inverse => rfl
  | double => rfl

theorem followsTable_record (m : Move) : m.record.FollowsTable := by
  have hentry : m.letter.entry (if m.amount = .inverse then .anticlockwise else .clockwise) =
      m.entry := by rw [entry, direction_eq]
  unfold record
  cases h : m.entry with
  | primitive p => exact hentry.trans h
  | compound a => exact hentry.trans h

end Move

/-- The primitive moves in the records of moves are those of the moves. -/
theorem filterMap_primitive?_record (moves : List Move) :
    (moves.map Move.record).filterMap Event.primitive? = moves.filterMap Move.primitive? := by
  rw [List.filterMap_map]
  congr 1
  funext m
  exact m.primitive?_record

/-! ## Records of steps and runs -/

theorem Progress.log_carryOut (p : Progress α) (m : Move) :
    (p.carryOut m).log = p.log.push m.record := by
  unfold carryOut Move.record
  cases m.entry with
  | primitive q => rfl
  | compound a => rfl

namespace Config

variable {read : ι → Except MoveError Move}

/-- One record is made when a move is decoded. -/
theorem Decodes.log_eq {c d : Config α ι} {m : Move} (h : Decodes read c m d) :
    d.log = c.log.push m.record := by
  cases h with
  | queued p m queue input => exact p.log_carryOut m
  | taken p input h => exact p.take.log_carryOut m

/-- Along a run there is one record for each move that is decoded, in order. -/
theorem Reaches.log_eq {c d : Config α ι} {moves : List Move} (h : Reaches read c moves d) :
    d.log.toList = c.log.toList ++ moves.map Move.record := by
  induction h with
  | refl _ => rw [List.map_nil, List.append_nil]
  | step hdecodes _ ih =>
    rw [ih, hdecodes.log_eq, Array.toList_push, List.append_assoc]
    rfl

end Config

/-- The records of a performance that has ended are a full account of what it did to the cube that
it started from. -/
structure Outcome.Recounts (c : Cube α) (o : Outcome α) : Prop where
  /-- The primitive moves in the records, performed in order, lead to the cube at the end. -/
  cube : c.performAll (o.log.toList.filterMap Event.primitive?) = o.cube
  /-- Without a fault, all records are about single steps. -/
  no_fault : o.fault = none → ∀ e ∈ o.log, e.level = .trace
  /-- A fault is recorded last, and everything before it is about single steps. -/
  fault : ∀ e, o.fault = some e →
    ∃ before : Array Event, o.log = before.push (.badMove e) ∧ ∀ f ∈ before, f.level = .trace
  /-- The records have the entries of the table. -/
  entries : ∀ e ∈ o.log, e.FollowsTable

namespace Cube

variable {read : ι → Except MoveError Move}

/-- Before a run ends, the primitive moves in its records lead to the cube that it has reached. -/
theorem performAll_log {c : Cube α} {items : List ι} {moves : List Move} {d : Config α ι}
    (h : Config.Reaches read ⟨.start c, [], items⟩ moves d) :
    c.performAll (d.log.toList.filterMap Event.primitive?) = d.cube := by
  have hlog : d.log.toList = moves.map Move.record := h.log_eq
  rw [hlog, filterMap_primitive?_record]
  exact h.cube_eq.symm

/-- Before a run ends, all its records are of moves. -/
theorem exists_record_eq {c : Cube α} {items : List ι} {moves : List Move} {d : Config α ι}
    (h : Config.Reaches read ⟨.start c, [], items⟩ moves d) {e : Event} (he : e ∈ d.log) :
    ∃ m : Move, m.record = e := by
  have hlog : d.log.toList = moves.map Move.record := h.log_eq
  rw [← Array.mem_toList_iff, hlog] at he
  obtain ⟨m, -, hm⟩ := List.mem_map.1 he
  exact ⟨m, hm⟩

/-- When moves have been decoded one after the other and the run ends there, its records give a full
account, and of single steps they have exactly those. -/
theorem recounts_of_reaches {c : Cube α} {items : List ι} {moves : List Move} {d : Config α ι}
    {o : Outcome α} (hreaches : Config.Reaches read ⟨.start c, [], items⟩ moves d)
    (hends : d.Ends read o) :
    o.Recounts c ∧ o.log.toList.filter (·.level = .trace) = moves.map Move.record := by
  have hlog : d.log.toList = moves.map Move.record := hreaches.log_eq
  have hcube := performAll_log hreaches
  -- Until the end only moves have been recorded, so all of it is about single steps.
  have hlevel : ∀ e ∈ d.log, e.level = .trace := by
    intro e he
    obtain ⟨m, rfl⟩ := exists_record_eq hreaches he
    exact m.level_record
  have hentries : ∀ e ∈ d.log, e.FollowsTable := by
    intro e he
    obtain ⟨m, rfl⟩ := exists_record_eq hreaches he
    exact m.followsTable_record
  -- So none of these records is dropped when single steps are singled out.
  have hfilter : d.log.toList.filter (·.level = .trace) = d.log.toList := by
    rw [List.filter_eq_self]
    intro e he
    exact decide_eq_true (hlevel e (Array.mem_toList_iff.1 he))
  cases hends with
  | done p =>
    refine ⟨⟨hcube, fun _ => hlevel, ?_, hentries⟩, hfilter.trans hlog⟩
    intro e he
    cases he
  | @fault p item e input hitem =>
    -- The record of the fault comes last, and is none of a primitive move.
    have hpush : (p.refuse e).log.toList = p.log.toList ++ [.badMove e] := Array.toList_push
    refine ⟨⟨?cube, ?no_fault, ?last, ?entries⟩, ?steps⟩
    case cube =>
      rw [hpush, List.filterMap_append]
      exact (congrArg (c.performAll ·) (List.append_nil _)).trans hcube
    case no_fault =>
      intro hnone
      cases hnone
    case last =>
      intro f hf
      obtain rfl := Option.some.inj hf
      exact ⟨p.log, rfl, hlevel⟩
    case entries =>
      intro f hf
      rcases Array.mem_push.1 hf with hf | rfl
      · exact hentries f hf
      · exact trivial
    case steps =>
      rw [hpush, List.filter_append, hfilter]
      exact (List.append_nil _).trans hlog

/-- Moves are recorded as they are decoded. -/
theorem log_applyMoves (a : Algorithm) (c : Cube α) :
    (c.applyMoves a).log.toList = (Algorithm.trace a).map Move.record := by
  rw [applyMoves, applyItems, Config.run_moves]
  exact (Config.reaches_moves a (.start c)).log_eq

/-- Texts that are the moves of an algorithm are recorded first, and then what comes after them,
just as if it had been performed by itself on any cube. -/
theorem log_append (a : Algorithm) (texts : List String) (c d : Cube α) :
    (c.applyWords (a.map Move.render ++ texts)).log =
      (c.applyWords (a.map Move.render)).log ++ (d.applyWords texts).log := by
  have ha : (a.map Move.render).map Move.parse = a.map Except.ok := Algorithm.map_parse_eq_iff.2 rfl
  have hmoves : ∀ b : Algorithm,
      (c.applyMoves (a ++ b)).log = (c.applyMoves a).log ++ (d.applyMoves b).log := by
    intro b
    -- What is recorded of moves depends neither on the cube nor on the moves before them.
    rw [← Array.toList_inj, Array.toList_append, log_applyMoves, log_applyMoves, log_applyMoves,
      Algorithm.trace_append, List.map_append]
  unfold applyWords
  rw [applyItems_readable ha]
  -- Whether the second texts can all be read or not, the first ones are moves.
  rcases exists_readable_or_fault Move.parse texts with
    ⟨b, hb⟩ | ⟨before, b, bad, rest, e, rfl, hb, hbad⟩
  · have hab : (a.map Move.render ++ texts).map Move.parse = (a ++ b).map Except.ok := by
      rw [List.map_append, ha, hb, List.map_append]
    rw [applyItems_readable hab, applyItems_readable hb]
    exact hmoves b
  · have hab : (a.map Move.render ++ before).map Move.parse = (a ++ b).map Except.ok := by
      rw [List.map_append, ha, hb, List.map_append]
    -- The record of the fault comes last on both sides.
    rw [← List.append_assoc, applyItems_fault hab hbad, applyItems_fault hb hbad]
    exact (congrArg (Array.push · (.badMove e)) (hmoves b)).trans Array.push_append

/-- What the records of texts tell.  Every step that decodes a move makes one record, and it is of a
single step.  So the texts are performed by decoding some moves one after the other, and the records
of single steps are those of these moves.  The records are a full account of the performance.  And
the records of texts that can be read, followed by others, are their own and then those of the
others. -/
theorem recounts_applyWords (texts : List String) (c : Cube α) :
    (∀ s t : Config α String, s.step Move.parse = .next t →
      ∃ e : Event, e.level = .trace ∧ t.log = s.log.push e) ∧
    (∃ moves t, Config.Reaches Move.parse ⟨.start c, [], texts⟩ moves t ∧
      t.Ends Move.parse (c.applyWords texts) ∧
      (c.applyWords texts).log.toList.filter (·.level = .trace) = moves.map Move.record) ∧
    (c.applyWords texts).Recounts c ∧
    ∀ (a : Algorithm) (d : Cube α), (c.applyWords (a.map Move.render ++ texts)).log =
      (c.applyWords (a.map Move.render)).log ++ (d.applyWords texts).log := by
  -- All of it is read off one list of decoded moves.
  obtain ⟨moves, t, hreaches, hends⟩ :=
    Config.exists_reaches_ends Move.parse ⟨.start c, [], texts⟩
  obtain ⟨hrecounts, hsteps⟩ := recounts_of_reaches hreaches hends
  refine ⟨?_, ⟨moves, t, hreaches, hends, hsteps⟩, hrecounts, fun a d => log_append a texts c d⟩
  intro s t hstep
  obtain ⟨m, hdecodes⟩ := Config.exists_decodes hstep
  exact ⟨m.record, m.level_record, hdecodes.log_eq⟩

/-- A half turn, an anticlockwise quarter, and then a text that is no move. -/
theorem recounts_applyWords_stopped :
    let o := solved.applyWords ["U2", "R'", "E", "F"]
    o.fault = some (.unknown "E") ∧
      (∃ before : Array Event, o.log = before.push (.badMove (.unknown "E")) ∧
        ∀ f ∈ before, f.level = .trace) ∧
      solved.performAll (o.log.toList.filterMap Event.primitive?) = o.cube := by
  intro o
  have hfault : o.fault = some (.unknown "E") := by decide +kernel
  obtain ⟨-, -, hrecounts, -⟩ := recounts_applyWords ["U2", "R'", "E", "F"] solved
  exact ⟨hfault, hrecounts.fault _ hfault, hrecounts.cube⟩

end Cube

end TwistyCube
