import TwistyCube.Proofs.Space

/-!
# Undoing algorithms

An algorithm is undone by the inverses of its moves from last to first.  The entries of the notation
table for a move and for its inverse are written independently of each other, and three quarters
forward stand for a quarter back, so this is shown in space, where a move and its inverse turn the
same layers in opposite senses.

Main results:
- `Algorithm.motion_inverse`: the inverse of an algorithm has the inverse motion.
- `Cube.after_append_and_inverse`: algorithms act on cubes the way a group does.
-/

namespace TwistyCube

universe u

variable {α : Type u}

/-! ## Turning back in space -/

/-- A facelet that is turned stays in the layers of the letter. -/
theorem Letter.covers_spin (k : Letter) (v : Vec) : k.covers (k.spin v) = k.covers v := by
  cases k <;> rfl

/-- Four quarters of a letter come to nothing. -/
theorem Letter.spin_four_times (k : Letter) (v : Vec) :
    k.spin (k.spin (k.spin (k.spin v))) = v := by
  obtain ⟨x, y, z⟩ := v
  cases k <;> simp [spin, Axis.quarter]

namespace Move

theorem covers_spin (m : Move) (v : Vec) : m.letter.covers (m.spin v) = m.letter.covers v := by
  obtain ⟨k, a⟩ := m
  cases a with
  | single => exact k.covers_spin v
  | inverse =>
    -- Turning forward again from where it has been turned back to changes nothing.
    have hforward := k.covers_spin (k.spin.symm v)
    rw [Equiv.apply_symm_apply] at hforward
    exact hforward.symm
  | double =>
    show k.covers (k.spin (k.spin v)) = k.covers v
    rw [k.covers_spin, k.covers_spin]

/-- The inverse of a move turns space back. -/
theorem spin_inverse (m : Move) (v : Vec) : m.inverse.spin (m.spin v) = v := by
  obtain ⟨k, a⟩ := m
  cases a with
  | single => exact k.spin.symm_apply_apply v
  | inverse => exact k.spin.apply_symm_apply v
  -- A half turn is its own inverse, and two of them are four quarters.
  | double => exact k.spin_four_times v

/-- A move and then its inverse take every spot back to where it was. -/
theorem turn_inverse (m : Move) (p : Spot) : m.inverse.turn (m.turn p) = p := by
  by_cases h : m.letter.covers p.centre
  · -- What has been turned is still in the layers of the letter, and is turned back.
    have hturned : m.letter.covers (m.spin p.centre) := by rwa [m.covers_spin]
    have hturn : m.turn p = ⟨m.spin p.centre, m.spin p.normal⟩ := if_pos h
    have hback : m.inverse.turn ⟨m.spin p.centre, m.spin p.normal⟩ =
        ⟨m.inverse.spin (m.spin p.centre), m.inverse.spin (m.spin p.normal)⟩ := if_pos hturned
    rw [hturn, hback, m.spin_inverse, m.spin_inverse]
  · -- Neither move does anything outside of these layers.
    have hturn : m.turn p = p := if_neg h
    rw [hturn]
    exact if_neg h

end Move

/-! ## Inverse motions -/

namespace Algorithm

/-- A move followed by its inverse has no effect. -/
theorem motion_move_inverse (m : Move) : motion [m, m.inverse] = motion [] := by
  -- Places are known by their spots, and these are where the two moves have taken them back to.
  apply motion_eq_of_places
  intro q
  apply Place.spot_injective
  rw [spot_places]
  exact m.turn_inverse q.spot

/-- The inverse of an algorithm has the inverse motion. -/
theorem motion_inverse (a : Algorithm) : a.inverse.motion = a.motion⁻¹ := by
  induction a with
  | nil => exact inv_one.symm
  | cons m a ih =>
    -- One move first: the list of the two has been dealt with above.
    have hmove : motion [m.inverse] = m.motion⁻¹ := by
      have h := motion_move_inverse m
      simp only [motion_cons, motion_nil, one_mul] at h ⊢
      exact eq_inv_of_mul_eq_one_left h
    -- The inverse of the first move comes last.
    have hinverse : inverse (m :: a) = inverse a ++ [m.inverse] := inverse_append [m] a
    calc motion (inverse (m :: a))
        = motion [m.inverse] * motion (inverse a) := by rw [hinverse, motion_append]
      _ = m.motion⁻¹ * (motion a)⁻¹ := by rw [hmove, ih]
      _ = (motion (m :: a))⁻¹ := by rw [motion_cons, mul_inv_rev]

end Algorithm

/-! ## Algorithms as a group of actions -/

namespace Cube

theorem after_append (a b : Algorithm) (c : Cube α) : c.after (a ++ b) = (c.after a).after b := by
  rw [after_eq_smul, after_eq_smul, after_eq_smul, Algorithm.motion_append, mul_smul]

/-- An algorithm is undone by its inverse. -/
theorem after_inverse (a : Algorithm) (c : Cube α) : (c.after a).after a.inverse = c := by
  rw [after_eq_smul, after_eq_smul, Algorithm.motion_inverse, inv_smul_smul]

/-- Algorithms written one after the other are performed one after the other, and an algorithm and
its inverse, in either order, leave every cube as it was. -/
theorem after_append_and_inverse (a b : Algorithm) (c : Cube α) :
    c.after (a ++ b) = (c.after a).after b ∧
      c.after (a ++ a.inverse) = c ∧ c.after (a.inverse ++ a) = c := by
  have hright : (c.after a).after a.inverse = c := after_inverse a c
  have hleft : (c.after a.inverse).after a = c := by
    -- An algorithm is the inverse of its inverse.
    have h := after_inverse a.inverse c
    rwa [Algorithm.inverse_inverse] at h
  refine ⟨after_append a b c, ?_, ?_⟩
  · rw [after_append, hright]
  · rw [after_append, hleft]

end Cube

end TwistyCube
