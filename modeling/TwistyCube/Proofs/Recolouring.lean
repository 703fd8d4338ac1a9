import TwistyCube.Proofs.Motion
import TwistyCube.Scramble

/-!
# Recoloured cubes

Moves look neither at the stickers nor at which physical face is where.  Take two cubes of which the
second shows, side by side, what the first shows with every sticker replaced by another, perhaps
several by the same.  The faces may be arranged quite differently, even in mirror image.  Then
whatever is performed on both keeps them so, and nothing that is reported tells them apart.

Main results:
- `Config.Recolours.step`, `Config.Recolours.run`: two performances go step by step together.
- `Cube.after_map`: an algorithm commutes with replacing the stickers.
- `Cube.recolours_after_runs`: what follows for texts, moves and scrambles.
-/

namespace TwistyCube

universe u v w

variable {α : Type u} {β : Type v} {ι : Type w} {g : α → β}

/-! ## Cubes -/

namespace Cube

/-- The second cube shows at each side what the first shows there, with the stickers replaced. -/
def Recolours (g : α → β) (c : Cube α) (d : Cube β) : Prop := ∀ s, d.view s = (c.view s).map g

/-- It is the same to say so of each place. -/
theorem recolours_iff {c : Cube α} {d : Cube β} :
    c.Recolours g d ↔ ∀ q, d.sticker q = g (c.sticker q) := by
  constructor
  · intro h q
    rw [sticker, h, Grid.get_map]
    rfl
  · intro h s
    apply Grid.ext_get
    intro i j
    rw [Grid.get_map]
    exact h ⟨s, i, j⟩

/-- A primitive move brings stickers from the same places on both cubes. -/
theorem Recolours.perform {c : Cube α} {d : Cube β} (h : c.Recolours g d) (p : Primitive) :
    (c.perform p).Recolours g (d.perform p) := by
  rw [recolours_iff] at h ⊢
  intro q
  rw [sticker_perform, sticker_perform, h]

end Cube

/-! ## Steps and runs -/

/-- Two performances that have come equally far on recoloured cubes, with the same records. -/
structure Progress.Recolours (g : α → β) (p : Progress α) (q : Progress β) : Prop where
  cube : p.cube.Recolours g q.cube
  taken : q.taken = p.taken
  log : q.log = p.log

/-- Carrying out the same entry on both keeps them together. -/
theorem Progress.Recolours.carryOut {p : Progress α} {q : Progress β} (h : p.Recolours g q)
    (m : Move) : (p.carryOut m).Recolours g (q.carryOut m) := by
  unfold Progress.carryOut
  cases m.entry with
  | primitive r => exact ⟨h.cube.perform r, h.taken, congrArg (Array.push · _) h.log⟩
  | compound a => exact ⟨h.cube, h.taken, congrArg (Array.push · _) h.log⟩

theorem Progress.Recolours.take {p : Progress α} {q : Progress β} (h : p.Recolours g q) :
    p.take.Recolours g q.take :=
  ⟨h.cube, congrArg (· + 1) h.taken, h.log⟩

/-- Two ended performances, with the same fault or with none. -/
structure Outcome.Recolours (g : α → β) (o : Outcome α) (o' : Outcome β) : Prop where
  progress : o.toProgress.Recolours g o'.toProgress
  fault : o'.fault = o.fault

/-- Refusing an item on both ends them together: both take it, and both report it. -/
theorem Progress.Recolours.refuse {p : Progress α} {q : Progress β} (h : p.Recolours g q)
    (e : MoveError) : (p.refuse e).Recolours g (q.refuse e) := by
  have hrecord : q.log.push (.badMove e) = p.log.push (.badMove e) := by rw [h.log]
  exact ⟨⟨h.cube, h.take.taken, hrecord⟩, rfl⟩

namespace Config

/-- Two performances under way, with the same left to be done. -/
structure Recolours (g : α → β) (c : Config α ι) (d : Config β ι) : Prop where
  progress : c.toProgress.Recolours g d.toProgress
  queue : d.queue = c.queue
  input : d.input = c.input

/-- What two performances that go together step to: both end, or both go on. -/
inductive StepsRecolour (g : α → β) : Transition α ι → Transition β ι → Prop
  | halt {o : Outcome α} {o' : Outcome β} (h : o.Recolours g o') :
      StepsRecolour g (.halt o) (.halt o')
  | next {c : Config α ι} {d : Config β ι} (h : c.Recolours g d) :
      StepsRecolour g (.next c) (.next d)

variable {read : ι → Except MoveError Move}

/-- Performances with the same left to be done make the same kind of step, and stay together. -/
theorem Recolours.step {c : Config α ι} {d : Config β ι} (h : c.Recolours g d) :
    StepsRecolour g (c.step read) (d.step read) := by
  -- What is to be done next is decided by the queue and the input, and these are the same.
  obtain ⟨p, queue, input⟩ := c
  obtain ⟨q, queue', input'⟩ := d
  obtain ⟨hprogress, hqueue, hinput⟩ := h
  dsimp only at hprogress hqueue hinput
  subst hqueue hinput
  match queue', input' with
  | m :: queue, input => exact .next ⟨hprogress.carryOut m, rfl, rfl⟩
  | [], item :: input =>
    cases hitem : read item with
    | ok m =>
      simp only [Config.step, hitem]
      exact .next ⟨hprogress.take.carryOut m, rfl, rfl⟩
    | error e =>
      simp only [Config.step, hitem]
      exact .halt (hprogress.refuse e)
  | [], [] => exact .halt ⟨hprogress, rfl⟩

theorem Recolours.run {c : Config α ι} {d : Config β ι} (h : c.Recolours g d) :
    (c.run read).Recolours g (d.run read) := by
  -- Both step to their ends or both go on, as the first of them does.
  have hstep : StepsRecolour g (c.step read) (d.step read) := h.step
  generalize hd : d.step read = t at hstep
  cases hc : c.step read with
  | halt o =>
    rw [hc] at hstep
    cases hstep with
    | halt ho =>
      rw [run_of_halt hc, run_of_halt hd]
      exact ho
  | next c' =>
    rw [hc] at hstep
    cases hstep with
    | next hnext =>
      rw [run_of_next hc, run_of_next hd]
      exact hnext.run
termination_by c.bound
decreasing_by exact bound_lt_of_step hc

end Config

/-! ## Texts, moves and scrambles -/

/-- Two scrambles by the same moves, with the same records and the same words left. -/
structure Scramble.Recolours (g : α → β) (x : Scramble α) (y : Scramble β) : Prop where
  moves : y.moves = x.moves
  cube : x.cube.Recolours g y.cube
  log : y.log = x.log
  rest : y.rest = x.rest

namespace Cube

/-- The same items are performed on recoloured cubes with recoloured outcomes. -/
theorem Recolours.applyItems {c : Cube α} {d : Cube β} (h : c.Recolours g d)
    (read : ι → Except MoveError Move) (items : List ι) :
    (c.applyItems read items).Recolours g (d.applyItems read items) := by
  have hstart : (Progress.start c).Recolours g (Progress.start d) := ⟨h, rfl, rfl⟩
  exact Config.Recolours.run ⟨hstart, rfl, rfl⟩

/-- Stickers may be replaced before an algorithm or after it. -/
theorem after_map (g : α → β) (a : Algorithm) (c : Cube α) :
    (c.map g).after a = (c.after a).map g := by
  have hcubes : c.Recolours g (c.map g) := fun s => view_map g c s
  -- Neither the stickers nor what they are replaced by matter to where the faces are.
  have horientation : ((c.map g).after a).orientation = ((c.after a).map g).orientation := by
    rw [orientation_map, after_eq_smul, after_eq_smul, orientation_smul, orientation_smul,
      orientation_map]
  apply ext_view horientation
  intro s
  rw [view_map]
  exact (hcubes.applyItems Except.ok a).progress.cube s

/-- The moves are drawn without a look at the cube, so the same words give the same moves. -/
theorem Recolours.scramble {c : Cube α} {d : Cube β} (h : c.Recolours g d)
    (words : List UInt64) :
    Option.Rel (Scramble.Recolours g) (c.scramble words) (d.scramble words) := by
  unfold Cube.scramble
  cases Algorithm.draw scrambleLength words with
  | none => exact .none
  | some drawn =>
    obtain ⟨moves, rest⟩ := drawn
    have hmoves : (c.applyMoves moves).Recolours g (d.applyMoves moves) :=
      h.applyItems Except.ok moves
    exact .some ⟨rfl, hmoves.progress.cube,
      congrArg (#[.scrambling moves] ++ ·) hmoves.progress.log, rfl⟩

/-- If a cube shows at each side what another shows, with the stickers replaced in whatever way, it
does so again after the same texts, the same moves or a scramble by the same words have been
performed on both, however their faces are arranged.  Both performances end with the same fault or
with none, have taken the same number of items and have the same records; both scrambles are by the
same moves and leave the same words, or the words run out in both. -/
theorem recolours_after_runs (g : α → β) (c : Cube α) (d : Cube β)
    (h : ∀ s, d.view s = (c.view s).map g) :
    (∀ texts, (c.applyWords texts).Recolours g (d.applyWords texts)) ∧
      (∀ a, (c.applyMoves a).Recolours g (d.applyMoves a)) ∧
      ∀ words, Option.Rel (Scramble.Recolours g) (c.scramble words) (d.scramble words) := by
  have hcubes : c.Recolours g d := h
  exact ⟨hcubes.applyItems Move.parse, hcubes.applyItems Except.ok, hcubes.scramble⟩

/-- The solved cube, and a cube in a mirror image of the canonical orientation that shows the same
with the orange side red. -/
theorem recolours_after_runs_mirrored :
    let g : Color → Color := fun k => if k = .orange then .red else k
    let mirror : Orientation := ⟨⟨.orange, .green, .red, .blue, .yellow, .white⟩, by decide⟩
    let d : Cube Color := ⟨Six.ofFn fun f => .filled (g f.color), mirror⟩
    let texts := ["R", "M2", "u'", "E", "F"]
    (∀ s, d.view s = (solved.view s).map g) ∧
      (solved.applyWords texts).Recolours g (d.applyWords texts) ∧
      (solved.scramble (List.replicate 40 0)).isSome = true ∧
      Option.Rel (Scramble.Recolours g) (solved.scramble (List.replicate 40 0))
        (d.scramble (List.replicate 40 0)) := by
  intro g mirror d texts
  have hview : ∀ s, d.view s = (solved.view s).map g := by
    intro s
    cases s <;> rfl
  obtain ⟨htexts, -, hscrambles⟩ := recolours_after_runs g solved d hview
  have hdrawn : (solved.scramble (List.replicate 40 0)).isSome = true := by
    unfold Cube.scramble
    rw [Option.isSome_map]
    decide
  exact ⟨hview, htexts texts, hdrawn, hscrambles _⟩

end Cube

end TwistyCube
