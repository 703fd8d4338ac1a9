import TwistyCube.Proofs.Pieces

/-!
# Pieces stay whole

However the stickers of a cube are chosen, moves carry them about piece by piece.  What is on a
cube can therefore be told as a collection of corners, a collection of edges, and the six stickers
in the middle of its faces, and no algorithm changes any of the three.

Main result: `Cube.pieces_after`.
-/

namespace TwistyCube

universe u

variable {α : Type u}

namespace Cube

/-- The corners of a cube, wherever they are. -/
def corners (c : Cube α) : Multiset (Cycle α) := Finset.univ.val.map c.corner

/-- The edges of a cube, wherever they are. -/
def edges (c : Cube α) : Multiset (Sym2 α) := Finset.univ.val.map c.edge

/-- An algorithm does not change which corners a cube has. -/
theorem corners_after (a : Algorithm) (c : Cube α) : (c.after a).corners = c.corners := by
  obtain ⟨s, t, hcarries⟩ := a.exists_carries
  -- Each corner is found again where the shuffle has taken it.
  have hcorner : ∀ k, (c.after a).corner (s.perm k) = c.corner k := by
    intro k
    rw [after_eq_smul]
    exact corner_smul hcarries.corners c k
  exact map_univ_eq_of_perm s.perm hcorner

theorem edges_after (a : Algorithm) (c : Cube α) : (c.after a).edges = c.edges := by
  obtain ⟨s, t, hcarries⟩ := a.exists_carries
  have hedge : ∀ e, (c.after a).edge (t.perm e) = c.edge e := by
    intro e
    rw [after_eq_smul]
    exact edge_smul hcarries.edges c e
  exact map_univ_eq_of_perm t.perm hedge

theorem sticker_centre_sideOf (c : Cube α) (f : Face) :
    c.sticker (.centre (c.orientation.sideOf f)) = (c.face f).centre := by
  rw [← view_sideOf]
  rfl

/-- An algorithm does not change the sticker in the middle of a physical face. -/
theorem centre_face_after (a : Algorithm) (c : Cube α) (f : Face) :
    ((c.after a).face f).centre = (c.face f).centre := by
  -- A face is followed to the side where it gets, where its middle has got as well.
  calc ((c.after a).face f).centre
      = (a.motion • c).sticker (.centre ((a.motion • c).orientation.sideOf f)) := by
        rw [sticker_centre_sideOf, after_eq_smul]
    _ = (a.motion • c).sticker (a.motion.1 (.centre (c.orientation.sideOf f))) := by
        rw [sideOf_smul, a.places_centre]
    _ = c.sticker (.centre (c.orientation.sideOf f)) := by
        rw [sticker_smul, Equiv.symm_apply_apply]
    _ = (c.face f).centre := sticker_centre_sideOf c f

/-- An algorithm changes neither which corners a cube has, nor which edges, nor the sticker in the
middle of any physical face. -/
theorem pieces_after (a : Algorithm) (c : Cube α) :
    (c.after a).corners = c.corners ∧ (c.after a).edges = c.edges ∧
      ∀ f, ((c.after a).face f).centre = (c.face f).centre :=
  ⟨corners_after a c, edges_after a c, centre_face_after a c⟩

end Cube

end TwistyCube
