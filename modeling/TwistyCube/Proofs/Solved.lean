import TwistyCube.Proofs.Conservation
import TwistyCube.Proofs.Rotation

/-!
# Solved cubes

Whether a cube is solved is told by comparing the stickers of each grid with the one in its middle.
Six grids of one colour each need not be a solved cube, as colours can be on the wrong faces.  But
no move changes the middle of a physical face, so a cube that has once been solved has each face
covered with its own colour whenever it passes, however it is held.

Main result: `Cube.isSolved_after`.
-/

namespace TwistyCube

universe u

variable {α : Type u}

/-! ## Grids of one colour -/

namespace Grid

theorem forall_mem_toList {g : Grid α} {P : α → Prop} :
    (∀ a ∈ g.toList, P a) ↔ ∀ i j, P (g.get i j) := by
  constructor
  · intro h i j
    apply h
    match i, j with
    | 0, 0 | 0, 1 | 0, 2 | 1, 0 | 1, 1 | 1, 2 | 2, 0 | 2, 1 | 2, 2 =>
      simp [toList, rows, Row.toList, get, row, Row.get]
  · intro h a ha
    simp only [toList, rows, Row.toList, List.flatMap_cons, List.flatMap_nil, List.cons_append,
      List.nil_append, List.mem_cons, List.not_mem_nil, or_false] at ha
    rcases ha with rfl | rfl | rfl | rfl | rfl | rfl | rfl | rfl | rfl
    · exact h 0 0
    · exact h 0 1
    · exact h 0 2
    · exact h 1 0
    · exact h 1 1
    · exact h 1 2
    · exact h 2 0
    · exact h 2 1
    · exact h 2 2

variable [DecidableEq α]

theorem isUniform_iff {g : Grid α} : g.isUniform = true ↔ ∀ i j, g.get i j = g.centre := by
  rw [isUniform, List.all_eq_true]
  simp only [beq_iff_eq]
  exact forall_mem_toList

/-- A grid is uniform if it is filled with the sticker in its middle. -/
theorem isUniform_iff_eq_filled {g : Grid α} : g.isUniform = true ↔ g = filled g.centre := by
  rw [isUniform_iff]
  constructor
  · intro h
    apply ext_get
    intro i j
    rw [h, filled, get_ofFn]
  · intro h i j
    rw [h, filled, get_ofFn]
    rfl

theorem isUniform_rotate (g : Grid α) : g.rotate.isUniform = g.isUniform := by
  rw [Bool.eq_iff_iff, isUniform_iff, isUniform_iff]
  constructor
  · intro h i j
    -- What is in a row and a column has come from there to a column and a row.
    have hij := h j i.rev
    rwa [get_rotate, Fin.rev_rev] at hij
  · intro h i j
    rw [get_rotate, h]
    rfl

theorem isUniform_turn (g : Grid α) (k : Nat) : (g.turn k).isUniform = g.isUniform := by
  induction k with
  | zero => rfl
  | succ k ih => exact (isUniform_rotate _).trans ih

end Grid

/-! ## Cubes of one colour on each face -/

namespace Cube

theorem isSolved_iff [DecidableEq α] {c : Cube α} :
    c.isSolved = true ↔ ∀ f, (c.face f).isUniform = true := by
  rw [isSolved, Six.toList_eq_map, List.all_map, List.all_eq_true]
  constructor
  · intro h f
    exact h f (Sixfold.mem_all f)
  · intro h f _
    exact h f

theorem face_solvedIn (o : Orientation) (f : Face) : (solvedIn o).face f = .filled f.color :=
  Six.get_ofFn _ f

/-- A cube is the solved one in its orientation if each face has its own colour. -/
theorem eq_solvedIn_iff {c : Cube Color} :
    c = solvedIn c.orientation ↔ ∀ f, c.face f = .filled f.color := by
  constructor
  · intro h f
    rw [h, face_solvedIn]
  · intro h
    refine ext_view rfl ?_
    intro s
    rw [view, h]
    exact (face_solvedIn _ _).symm

/-- A cube that comes from a solved one passes only if each face has its own colour. -/
theorem isSolved_after_solvedIn_iff (o : Orientation) (a : Algorithm) :
    ((solvedIn o).after a).isSolved = true ↔
      ∀ f, ((solvedIn o).after a).face f = .filled f.color := by
  -- The grids are compared with their centres, and these are still where they were.
  have hcentre : ∀ f, (((solvedIn o).after a).face f).centre = f.color := by
    intro f
    rw [centre_face_after, face_solvedIn]
    rfl
  rw [isSolved_iff]
  constructor
  · intro h f
    -- A uniform grid has the colour of its middle.
    rw [Grid.isUniform_iff_eq_filled.1 (h f), hcentre]
  · intro h f
    rw [Grid.isUniform_iff_eq_filled, hcentre, h]

/-- Rotations do not change whether a cube is solved, whatever is on it. -/
theorem isSolved_after_rotations [DecidableEq α] {p : Algorithm} (hp : p.Rotates) (c : Cube α) :
    (c.after p).isSolved = c.isSolved := by
  obtain ⟨k, hk⟩ := exists_face_after_eq_turn (α := α) hp
  rw [Bool.eq_iff_iff, isSolved_iff, isSolved_iff]
  -- Rotations turn the grid of each face, and do nothing else.
  simp only [hk, Grid.isUniform_turn]

/-- After any algorithm on a solved cube, in whatever orientation, a cube is found solved exactly if
it is the solved cube in the orientation that has been reached: each physical face is covered with
its own colour.  And rotations never change whether a cube is found solved, be it one that comes
from a solved cube or not. -/
theorem isSolved_after [DecidableEq α] (o : Orientation) (a : Algorithm) (c : Cube α)
    (p : Algorithm) (hp : p.Rotates) :
    (((solvedIn o).after a).isSolved = true ↔
        (solvedIn o).after a = solvedIn ((solvedIn o).after a).orientation) ∧
      (((solvedIn o).after a).isSolved = true ↔
        ∀ f, ((solvedIn o).after a).face f = .filled f.color) ∧
      (c.after p).isSolved = c.isSolved := by
  have hfaces := isSolved_after_solvedIn_iff o a
  exact ⟨hfaces.trans eq_solvedIn_iff.symm, hfaces, isSolved_after_rotations hp c⟩

/-- A wide turn and a face turn that come to a rotation solve the cube in another orientation.  A
cube with two colours on the wrong faces passes too, and is no solved one. -/
theorem isSolved_after_swapped_colours :
    let o := Orientation.canonical.rotate .y
    let a : Algorithm := [⟨.r, .single⟩, ⟨.L, .inverse⟩]
    let c : Cube Color := ofGrids (Six.ofFn fun f => .filled (Equiv.swap .red .white f.color))
    let p : Algorithm := [⟨.x, .single⟩, ⟨.y, .inverse⟩, ⟨.z, .double⟩]
    p.Rotates ∧ (solvedIn o).after a = solvedIn (o.rotate .x) ∧
      c ≠ solvedIn c.orientation ∧ (c.after p).isSolved = true := by
  intro o a c p
  have hp : p.Rotates := by decide
  obtain ⟨hsolved, -, hrotated⟩ := isSolved_after o a c p hp
  have ha : ((solvedIn o).after a).isSolved = true := by decide +kernel
  have ho : ((solvedIn o).after a).orientation = o.rotate .x := by decide +kernel
  have hc : c.isSolved = true := by decide
  refine ⟨hp, ?_, by decide, hrotated.trans hc⟩
  rw [hsolved.1 ha, ho]

end Cube

end TwistyCube
