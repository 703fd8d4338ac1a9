import TwistyCube.Proofs.Reachable
import TwistyCube.Proofs.Undo

/-!
# The solved cube as a witness

A solved cube shows the same colour nine times on each side, so what a single sticker of it does
cannot be seen.  But stickers move with their pieces, and the colours on a piece of the solved cube
say which piece it is and how it is turned.  Whatever leaves the solved cube as it was has
therefore left every piece, and with it every place, where it was.

Main results:
- `Algorithm.motion_eq_of_after_solved`: algorithms that do the same to the solved cube have the
  same motion.
- `Cube.after_eq_of_after_solved`: they do the same to every cube.
-/

namespace TwistyCube

universe u

variable {α : Type u}

/-! ## Pieces told apart by their stickers -/

/-- Every place is on a corner, on an edge, or in the middle of a side. -/
theorem Place.exists_piece (q : Place) :
    (∃ (k : Corner) (i : ZMod 3), k.place i = q) ∨ (∃ (e : Edge) (i : ZMod 2), e.place i = q) ∨
      ∃ s, centre s = q := by
  revert q
  decide

namespace Cube

variable {ι : Type} {n : Nat} {place : ι → ZMod n → Place}

/-- The stickers on the pieces of a kind tell which piece it is and how it is turned: only the piece
itself, as it is, shows what it shows. -/
def TellsApart (c : Cube α) (place : ι → ZMod n → Place) : Prop :=
  ∀ k l m, (∀ i, c.sticker (place l (i + m)) = c.sticker (place k i)) → l = k ∧ m = 0

/-- The solved cube tells its corners apart, and how they are turned. -/
theorem solved_tellsApart_corners : solved.TellsApart Corner.place := by
  unfold TellsApart
  -- The eight corners have different sets of three colours, and no colour twice.
  decide

theorem solved_tellsApart_edges : solved.TellsApart Edge.place := by
  unfold TellsApart
  decide

/-- A motion that shuffles pieces, and leaves a cube that tells them apart as it was, leaves the
pieces where they were. -/
theorem TellsApart.fixes_place {c : Cube α} (hc : c.TellsApart place) {s : Shuffle ι n} {g : Motion}
    (hs : s.Describes place g.1) (h : g • c = c) (k : ι) (i : ZMod n) :
    g.1 (place k i) = place k i := by
  -- The position to which the piece has gone shows what the position of the piece has shown.
  have hshown : ∀ j, c.sticker (place (s.perm k) (j + s.steps k)) = c.sticker (place k j) := by
    intro j
    have hmoved := sticker_smul_place hs c k j
    rwa [h] at hmoved
  obtain ⟨hperm, hsteps⟩ := hc k (s.perm k) (s.steps k) hshown
  rw [hs k i, hperm, hsteps, add_zero]

end Cube

/-! ## Motions told apart by the solved cube -/

namespace Algorithm

/-- An algorithm that restores the solved cube does not move anything. -/
theorem motion_eq_one_of_restores {a : Algorithm} (h : Cube.solved.after a = Cube.solved) :
    a.motion = 1 := by
  rw [Cube.after_eq_smul] at h
  obtain ⟨s, t, hcarries⟩ := a.exists_carries
  -- The faces are where they were, so the sides have not moved.
  have hsides : a.motion.2 = 1 := by
    apply Cube.sides_eq_one_of_canonical
    rw [h]
    rfl
  apply motion_eq_of_places (b := [])
  intro q
  show a.motion.1 q = q
  -- A place is on a piece that has not moved, or in the middle of a side that has not moved.
  rcases q.exists_piece with ⟨k, i, rfl⟩ | ⟨e, i, rfl⟩ | ⟨d, rfl⟩
  · exact Cube.solved_tellsApart_corners.fixes_place hcarries.corners h k i
  · exact Cube.solved_tellsApart_edges.fixes_place hcarries.edges h e i
  · rw [a.places_centre, hsides]
    rfl

/-- Algorithms that do the same to the solved cube have the same motion. -/
theorem motion_eq_of_after_solved {a b : Algorithm}
    (h : Cube.solved.after a = Cube.solved.after b) : a.motion = b.motion := by
  -- One of them, followed by the inverse of the other, restores the solved cube.
  have hrestores : Cube.solved.after (a ++ b.inverse) = Cube.solved := by
    rw [Cube.after_append, h, Cube.after_inverse]
  have hone : b.motion⁻¹ * a.motion = 1 := by
    rw [← motion_inverse, ← motion_append]
    exact motion_eq_one_of_restores hrestores
  exact (inv_mul_eq_one.1 hone).symm

end Algorithm

namespace Cube

/-- Algorithms that do the same to the solved cube do the same to every cube, whatever its stickers
and however it is held; and one that restores the solved cube changes no cube at all. -/
theorem after_eq_of_after_solved (a b : Algorithm) :
    (solved.after a = solved.after b → ∀ c : Cube α, c.after a = c.after b) ∧
      (solved.after a = solved → ∀ c : Cube α, c.after a = c) := by
  constructor
  · intro h c
    have hmotion : a.motion = b.motion := Algorithm.motion_eq_of_after_solved h
    rw [after_eq_smul, after_eq_smul, hmotion]
  · intro h c
    have hmotion : a.motion = 1 := Algorithm.motion_eq_one_of_restores h
    rw [after_eq_smul, hmotion, one_smul]

/-- A slice and a rotation against two face turns, and a commutator six times over, on a cube whose
stickers are all different. -/
theorem after_eq_of_after_solved_slice_and_commutator :
    let c : Cube (Face × Fin 3 × Fin 3) :=
      ofGrids (Six.ofFn fun f => Grid.ofFn fun i j => (f, i, j))
    let slice : Algorithm := [⟨.M, .single⟩, ⟨.x, .single⟩]
    let faces : Algorithm := [⟨.R, .single⟩, ⟨.L, .inverse⟩]
    let commutators : Algorithm :=
      (List.replicate 6 [⟨.R, .single⟩, ⟨.U, .single⟩, ⟨.R, .inverse⟩, ⟨.U, .inverse⟩]).flatten
    (solved.after slice = solved.after faces ∧ c.after slice = c.after faces) ∧
      (solved.after commutators = solved ∧ c.after commutators = c) := by
  intro c slice faces commutators
  have hslice : solved.after slice = solved.after faces := by decide +kernel
  have hrestores : solved.after commutators = solved := by decide +kernel
  exact ⟨⟨hslice, (after_eq_of_after_solved slice faces).1 hslice c⟩,
    hrestores, (after_eq_of_after_solved commutators []).2 hrestores c⟩

end Cube

end TwistyCube
