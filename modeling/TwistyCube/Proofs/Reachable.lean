import Mathlib.Algebra.BigOperators.Ring.Finset
import TwistyCube.Proofs.Pieces

/-!
# The laws of the puzzle

Not every arrangement of the pieces can be reached from the solved cube.  Whatever has been done to
the solved cube, once it is held in the canonical orientation again its pieces are those of the
solved cube; the twists of its corners add up to a multiple of three; evenly many of its edges are
flipped; and its corners and its edges are permuted with the same sign.

Slices, wide turns and rotations move the middles of the sides as well, and a rotation by itself
permutes corners and edges with different signs.  What is kept all along is therefore that the sign
of the corners is that of the edges times that of the sides (`Motion.Carries`), and only in the
canonical orientation do the sides drop out.

Main result: `Cube.lawful_after`.
-/

namespace TwistyCube

/-! ## Twists and flips -/

namespace Color

/-- Yellow and white, the colours of the top and the bottom of the solved cube. -/
def isTopOrBottom (k : Color) : Bool := k = yellow ∨ k = white

/-- Red and orange, the colours of the front and the back of the solved cube. -/
def isFrontOrBack (k : Color) : Bool := k = red ∨ k = orange

end Color

namespace Cube

/-- The number of clockwise steps from the top or bottom place of a corner to its yellow or white
sticker. -/
def twist (c : Cube Color) (k : Corner) : Nat :=
  (c.cornerStickers k).findIdx Color.isTopOrBottom

/-- Whether an edge is flipped: its yellow or white sticker, or if it has neither its red or orange
one, is not at its top or bottom place, or if it has none of these its front or back place. -/
def flipped (c : Cube Color) (e : Edge) : Bool :=
  let first := c.sticker (e.place 0)
  let second := c.sticker (e.place 1)
  if first.isTopOrBottom || second.isTopOrBottom then !first.isTopOrBottom
  else !first.isFrontOrBack

/-- A cube obeys the laws of the puzzle with given origins of its corners and edges. -/
structure Lawful (c : Cube Color) (σ : Equiv.Perm Corner) (τ : Equiv.Perm Edge) : Prop where
  /-- Each corner position shows the corner of the solved cube that `σ` says. -/
  corner : ∀ k, c.corner k = solved.corner (σ k)
  /-- Each edge position shows the edge of the solved cube that `τ` says. -/
  edge : ∀ e, c.edge e = solved.edge (τ e)
  twist : 3 ∣ ∑ k, c.twist k
  flipped : Even (Finset.univ.filter fun e => c.flipped e).card
  sign : Equiv.Perm.sign σ = Equiv.Perm.sign τ

end Cube

/-! ## Turns of the pieces of the solved cube -/

/-- If what is counted at each position is the number of steps by which its piece has been turned,
and the turns add up to nothing, then the counts add up to whole turns. -/
theorem Shuffle.dvd_sum {ι : Type} [Fintype ι] {n : Nat} [NeZero n] {s : Shuffle ι n}
    (hs : s.total = 0) {f : ι → Nat} (hf : ∀ k, f (s.perm k) = (s.steps k).val) :
    n ∣ ∑ k, f k := by
  -- The counts are summed in the order in which the pieces have come to their positions.
  have hcast : ((∑ k, f k : Nat) : ZMod n) = 0 := by
    calc ((∑ k, f k : Nat) : ZMod n)
        = ∑ k, ((f (s.perm k) : Nat) : ZMod n) := by
          rw [Nat.cast_sum, Equiv.sum_comp s.perm fun k => ((f k : Nat) : ZMod n)]
      _ = ∑ k, s.steps k := by
          apply Finset.sum_congr rfl
          intro k _
          rw [hf k, ZMod.natCast_zmod_val]
      _ = 0 := hs
  exact (ZMod.natCast_eq_zero_iff _ n).1 hcast

namespace Cube

/-- The sticker at a place of a position comes from as many steps before it as the piece has been
turned. -/
theorem sticker_smul_perm {α : Type*} {ι : Type} {n : Nat} {place : ι → ZMod n → Place}
    {s : Shuffle ι n} {g : Motion} (hs : s.Describes place g.1) (c : Cube α) (k : ι) (i : ZMod n) :
    (g • c).sticker (place (s.perm k) i) = c.sticker (place k (i - s.steps k)) := by
  have h := sticker_smul_place hs c k (i - s.steps k)
  rwa [sub_add_cancel] at h

/-- Corners that come from the solved cube are twisted by as many steps as they have been turned. -/
theorem twist_smul_solved {s : Shuffle Corner 3} {g : Motion} (hs : s.Describes Corner.place g.1)
    (k : Corner) : (g • solved).twist (s.perm k) = (s.steps k).val := by
  unfold twist cornerStickers
  rw [sticker_smul_perm hs, sticker_smul_perm hs, sticker_smul_perm hs]
  -- On the solved cube the yellow or white sticker of every corner is at its first place.
  generalize s.steps k = n
  revert k n
  decide

/-- Edges that come from the solved cube are flipped if they have been turned by one step. -/
theorem flipped_smul_solved {t : Shuffle Edge 2} {g : Motion} (ht : t.Describes Edge.place g.1)
    (e : Edge) : (if (g • solved).flipped (t.perm e) then 1 else 0) = (t.steps e).val := by
  unfold flipped
  rw [sticker_smul_perm ht, sticker_smul_perm ht]
  -- On the solved cube no edge is flipped.
  generalize t.steps e = n
  revert e n
  decide

/-- The colours of a corner of the solved cube tell which corner it is. -/
theorem corner_solved_injective : Function.Injective solved.corner := by
  intro k l
  revert k l
  decide

theorem edge_solved_injective : Function.Injective solved.edge := by
  intro d e
  revert d e
  decide

/-! ## What is reached in the canonical orientation -/

/-- A motion that leaves the solved cube in the canonical orientation leaves every side in place. -/
theorem sides_eq_one_of_canonical {g : Motion}
    (h : (g • solved).orientation = Orientation.canonical) : g.2 = 1 := by
  -- Standing still leaves it in this orientation too, and the orientation shows what has been done
  -- to the sides.
  have hstill : (g • solved).orientation = ((1 : Motion) • solved).orientation := by
    rw [h, one_smul]
    rfl
  exact solved.orientation.permute_injective hstill

/-- A lawful motion that leaves the sides in place takes the solved cube to one that obeys the laws
of the puzzle. -/
theorem lawful_smul_solved {g : Motion} {s : Shuffle Corner 3} {t : Shuffle Edge 2}
    (hg : g.Carries s t) (hsides : g.2 = 1) : (g • solved).Lawful s.perm⁻¹ t.perm⁻¹ where
  corner k := by
    -- A position is looked up by where its piece was before.
    obtain ⟨l, rfl⟩ := s.perm.surjective k
    rw [corner_smul hg.corners, ← Equiv.Perm.mul_apply, inv_mul_cancel, Equiv.Perm.one_apply]
  edge e := by
    obtain ⟨d, rfl⟩ := t.perm.surjective e
    rw [edge_smul hg.edges, ← Equiv.Perm.mul_apply, inv_mul_cancel, Equiv.Perm.one_apply]
  twist := Shuffle.dvd_sum hg.total_corners (twist_smul_solved hg.corners)
  flipped := by
    rw [even_iff_two_dvd, Finset.card_filter]
    exact Shuffle.dvd_sum hg.total_edges (flipped_smul_solved hg.edges)
  sign := by
    -- The sides are in place, so their sign does not count.
    have hsign : Equiv.Perm.sign s.perm = Equiv.Perm.sign t.perm := by
      have h := hg.sign
      rwa [hsides, Equiv.Perm.sign_one, mul_one] at h
    rw [Equiv.Perm.sign_inv, Equiv.Perm.sign_inv, hsign]

/-- The colours of a cube tell where its corners and edges come from. -/
theorem Lawful.unique {c : Cube Color} {σ σ' : Equiv.Perm Corner} {τ τ' : Equiv.Perm Edge}
    (h : c.Lawful σ τ) (h' : c.Lawful σ' τ') : σ = σ' ∧ τ = τ' := by
  -- The corner that is shown at a position is a corner of the solved cube in one way only.
  have hcorner : ∀ k, σ k = σ' k := by
    intro k
    apply corner_solved_injective
    rw [← h.corner, ← h'.corner]
  have hedge : ∀ e, τ e = τ' e := by
    intro e
    apply edge_solved_injective
    rw [← h.edge, ← h'.edge]
  exact ⟨Equiv.ext hcorner, Equiv.ext hedge⟩

/-- Whatever algorithm brings the solved cube to a cube in the canonical orientation, that cube
obeys the laws of the puzzle, with exactly one origin for each of its corners and edges. -/
theorem lawful_after (a : Algorithm) (h : (solved.after a).orientation = Orientation.canonical) :
    ∃! p : Equiv.Perm Corner × Equiv.Perm Edge, (solved.after a).Lawful p.1 p.2 := by
  obtain ⟨s, t, hcarries⟩ := a.exists_carries
  rw [after_eq_smul] at h ⊢
  have hsides : a.motion.2 = 1 := sides_eq_one_of_canonical h
  have hlawful := lawful_smul_solved hcarries hsides
  -- Origins are read backwards: the shuffle tells where pieces go, the law where they come from.
  refine ⟨(s.perm⁻¹, t.perm⁻¹), hlawful, ?_⟩
  rintro ⟨σ, τ⟩ hστ
  obtain ⟨hσ, hτ⟩ := hστ.unique hlawful
  exact Prod.ext hσ hτ

/-- Slices, wide turns and rotations may take part. -/
theorem lawful_after_wide_and_slice :
    (solved.after [⟨.r, .single⟩, ⟨.U, .inverse⟩, ⟨.M, .double⟩, ⟨.F, .single⟩,
        ⟨.x, .single⟩]).orientation = Orientation.canonical ∧
      ∃! p : Equiv.Perm Corner × Equiv.Perm Edge,
        (solved.after [⟨.r, .single⟩, ⟨.U, .inverse⟩, ⟨.M, .double⟩, ⟨.F, .single⟩,
          ⟨.x, .single⟩]).Lawful p.1 p.2 := by
  have h : (solved.after [⟨.r, .single⟩, ⟨.U, .inverse⟩, ⟨.M, .double⟩, ⟨.F, .single⟩,
      ⟨.x, .single⟩]).orientation = Orientation.canonical := by
    decide +kernel
  exact ⟨h, lawful_after _ h⟩

end Cube

end TwistyCube
