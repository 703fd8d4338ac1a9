import Mathlib.Algebra.Field.ZMod
import Mathlib.Data.Fin.VecNotation
import Mathlib.Data.List.Cycle
import Mathlib.Data.Sym.Sym2
import Mathlib.GroupTheory.Perm.List
import Mathlib.GroupTheory.Perm.Sign
import TwistyCube.Proofs.Space

/-!
# Pieces

The stickers of a cube sit on pieces: three on each of the eight corners, two on each of the twelve
edges, and one in the middle of each side.  A motion that keeps the pieces whole shuffles them: each
piece goes to a position of its kind, and is turned in it by some number of steps.

Main results:
- `Motion.Carries.mul`: shuffles are composed like the motions that bring them about, and what
  the laws of the puzzle count is kept: the turns add up to nothing, and the parities agree.
- `Algorithm.exists_carries`: the motion of every algorithm is of this kind.
-/

namespace TwistyCube

universe u

variable {α : Type u}

/-! ## Corners and edges -/

/-- A corner, by the sides that meet there, read clockwise from the top or the bottom. -/
inductive Corner where
  | topRightFront
  | topFrontLeft
  | topLeftBack
  | topBackRight
  | bottomFrontRight
  | bottomLeftFront
  | bottomBackLeft
  | bottomRightBack
  deriving DecidableEq

/-- An edge, by the sides that meet there: the top or the bottom first, or else the front or the
back. -/
inductive Edge where
  | topFront
  | topLeft
  | topBack
  | topRight
  | bottomFront
  | bottomLeft
  | bottomBack
  | bottomRight
  | frontLeft
  | frontRight
  | backLeft
  | backRight
  deriving DecidableEq

def Corner.all : List Corner :=
  [topRightFront, topFrontLeft, topLeftBack, topBackRight, bottomFrontRight, bottomLeftFront,
    bottomBackLeft, bottomRightBack]

instance : Fintype Corner := ⟨⟨Corner.all, by decide⟩, fun k => by cases k <;> decide⟩

def Edge.all : List Edge :=
  [topFront, topLeft, topBack, topRight, bottomFront, bottomLeft, bottomBack, bottomRight,
    frontLeft, frontRight, backLeft, backRight]

instance : Fintype Edge := ⟨⟨Edge.all, by decide⟩, fun e => by cases e <;> decide⟩

/-- The places of a corner, read clockwise from the top or the bottom. -/
def Corner.place : Corner → ZMod 3 → Place
  | topRightFront => ![.ofNat .top 2 2, .ofNat .right 0 0, .ofNat .front 0 2]
  | topFrontLeft => ![.ofNat .top 2 0, .ofNat .front 0 0, .ofNat .left 0 2]
  | topLeftBack => ![.ofNat .top 0 0, .ofNat .left 0 0, .ofNat .back 0 2]
  | topBackRight => ![.ofNat .top 0 2, .ofNat .back 0 0, .ofNat .right 0 2]
  | bottomFrontRight => ![.ofNat .bottom 0 2, .ofNat .front 2 2, .ofNat .right 2 0]
  | bottomLeftFront => ![.ofNat .bottom 0 0, .ofNat .left 2 2, .ofNat .front 2 0]
  | bottomBackLeft => ![.ofNat .bottom 2 0, .ofNat .back 2 2, .ofNat .left 2 0]
  | bottomRightBack => ![.ofNat .bottom 2 2, .ofNat .right 2 2, .ofNat .back 2 0]

/-- The places of an edge: the top or the bottom first, or else the front or the back. -/
def Edge.place : Edge → ZMod 2 → Place
  | topFront => ![.ofNat .top 2 1, .ofNat .front 0 1]
  | topLeft => ![.ofNat .top 1 0, .ofNat .left 0 1]
  | topBack => ![.ofNat .top 0 1, .ofNat .back 0 1]
  | topRight => ![.ofNat .top 1 2, .ofNat .right 0 1]
  | bottomFront => ![.ofNat .bottom 0 1, .ofNat .front 2 1]
  | bottomLeft => ![.ofNat .bottom 1 0, .ofNat .left 2 1]
  | bottomBack => ![.ofNat .bottom 2 1, .ofNat .back 2 1]
  | bottomRight => ![.ofNat .bottom 1 2, .ofNat .right 2 1]
  | frontLeft => ![.ofNat .front 1 0, .ofNat .left 1 2]
  | frontRight => ![.ofNat .front 1 2, .ofNat .right 1 0]
  | backLeft => ![.ofNat .back 1 2, .ofNat .left 1 0]
  | backRight => ![.ofNat .back 1 0, .ofNat .right 1 2]

/-- The determinant of three vectors.  For the normals of a corner it is negative when they are read
clockwise, as seen from outside. -/
def Vec.det (u v w : Vec) : Int :=
  u.x * (v.y * w.z - v.z * w.y) - u.y * (v.x * w.z - v.z * w.x) + u.z * (v.x * w.y - v.y * w.x)

/-- The three places of a corner are on one piece, and they are read clockwise. -/
theorem Corner.spot_place (k : Corner) :
    (∀ i j, (k.place i).spot.centre = (k.place j).spot.centre) ∧
      (k.place 0).spot.normal.det (k.place 1).spot.normal (k.place 2).spot.normal = -1 := by
  revert k
  decide

/-- The two places of an edge are on one piece. -/
theorem Edge.spot_place (e : Edge) (i j : ZMod 2) :
    (e.place i).spot.centre = (e.place j).spot.centre := by
  revert e i j
  decide

/-! ## Shuffles -/

/-- How pieces of one kind are shuffled: where each goes, and by how many steps it is turned. -/
structure Shuffle (ι : Type) (n : Nat) where
  perm : Equiv.Perm ι
  steps : ι → ZMod n

namespace Shuffle

variable {ι : Type} {n : Nat} {place : ι → ZMod n → Place}

/-- A permutation of the places moves pieces as a shuffle says. -/
def Describes (place : ι → ZMod n → Place) (s : Shuffle ι n) (g : Equiv.Perm Place) : Prop :=
  ∀ k i, g (place k i) = place (s.perm k) (i + s.steps k)

def still : Shuffle ι n := ⟨1, 0⟩

/-- One shuffle after another. -/
def comp (t s : Shuffle ι n) : Shuffle ι n :=
  ⟨t.perm * s.perm, fun k => s.steps k + t.steps (s.perm k)⟩

theorem describes_still : (still : Shuffle ι n).Describes place 1 := by
  intro k i
  show place k i = place k (i + 0)
  rw [add_zero]

/-- Shuffles describe one permutation after another if they describe each of them. -/
theorem Describes.comp {s t : Shuffle ι n} {g h : Equiv.Perm Place}
    (ht : t.Describes place h) (hs : s.Describes place g) :
    (t.comp s).Describes place (h * g) := by
  intro k i
  show h (g (place k i)) = place (t.perm (s.perm k)) (i + (s.steps k + t.steps (s.perm k)))
  -- The second shuffle turns the piece where the first one has brought it.
  rw [hs, ht, add_assoc]

variable [Fintype ι]

/-- The number of steps by which all pieces together are turned. -/
def total (s : Shuffle ι n) : ZMod n := ∑ k, s.steps k

theorem total_still : (still : Shuffle ι n).total = 0 := Finset.sum_const_zero

/-- The turns of one shuffle after another are added up. -/
theorem total_comp (t s : Shuffle ι n) : (t.comp s).total = s.total + t.total := by
  show ∑ k, (s.steps k + t.steps (s.perm k)) = ∑ k, s.steps k + ∑ k, t.steps k
  -- The second shuffle turns each piece once, in whatever order the first has left them.
  rw [Finset.sum_add_distrib, Equiv.sum_comp s.perm t.steps]

end Shuffle

/-- How a motion shuffles corners and edges.  The last three fields are what no motion of a puzzle
can do without taking it apart: a single corner cannot be turned, nor a single edge, and two pieces
alone cannot change places. -/
structure Motion.Carries (g : Motion) (s : Shuffle Corner 3) (t : Shuffle Edge 2) : Prop where
  corners : s.Describes Corner.place g.1
  edges : t.Describes Edge.place g.1
  total_corners : s.total = 0
  total_edges : t.total = 0
  sign : Equiv.Perm.sign s.perm = Equiv.Perm.sign t.perm * Equiv.Perm.sign g.2

theorem Motion.carries_one : Motion.Carries 1 .still .still where
  corners := Shuffle.describes_still
  edges := Shuffle.describes_still
  total_corners := Shuffle.total_still
  total_edges := Shuffle.total_still
  sign := rfl

/-- One motion after another moves the pieces as one shuffle after another, and keeps the laws. -/
theorem Motion.Carries.mul {g h : Motion} {s s' : Shuffle Corner 3} {t t' : Shuffle Edge 2}
    (hh : h.Carries s' t') (hg : g.Carries s t) : (h * g).Carries (s'.comp s) (t'.comp t) where
  corners := hh.corners.comp hg.corners
  edges := hh.edges.comp hg.edges
  total_corners := by rw [Shuffle.total_comp, hg.total_corners, hh.total_corners, add_zero]
  total_edges := by rw [Shuffle.total_comp, hg.total_edges, hh.total_edges, add_zero]
  sign := by
    show Equiv.Perm.sign (s'.perm * s.perm) =
      Equiv.Perm.sign (t'.perm * t.perm) * Equiv.Perm.sign (h.2 * g.2)
    -- Signs are multiplied, and the factors of the two motions are brought together.
    rw [map_mul, map_mul, map_mul, hh.sign, hg.sign]
    exact mul_mul_mul_comm ..

/-! ## The shuffles of primitive moves -/

namespace Primitive

/-- Where the corners go: in a cycle, each goes to where the next one is. -/
def corners : Primitive → Equiv.Perm Corner
  | .turnTop => List.formPerm [.topRightFront, .topFrontLeft, .topLeftBack, .topBackRight]
  | .rotate .x =>
    List.formPerm [.topRightFront, .topBackRight, .bottomRightBack, .bottomFrontRight] *
      List.formPerm [.topFrontLeft, .topLeftBack, .bottomBackLeft, .bottomLeftFront]
  | .rotate .y =>
    List.formPerm [.topRightFront, .topFrontLeft, .topLeftBack, .topBackRight] *
      List.formPerm [.bottomFrontRight, .bottomLeftFront, .bottomBackLeft, .bottomRightBack]
  | .rotate .z =>
    List.formPerm [.topRightFront, .bottomFrontRight, .bottomLeftFront, .topFrontLeft] *
      List.formPerm [.topBackRight, .bottomRightBack, .bottomBackLeft, .topLeftBack]

def edges : Primitive → Equiv.Perm Edge
  | .turnTop => List.formPerm [.topFront, .topLeft, .topBack, .topRight]
  | .rotate .x =>
    List.formPerm [.topFront, .topBack, .bottomBack, .bottomFront] *
      List.formPerm [.topLeft, .backLeft, .bottomLeft, .frontLeft] *
      List.formPerm [.topRight, .backRight, .bottomRight, .frontRight]
  | .rotate .y =>
    List.formPerm [.topFront, .topLeft, .topBack, .topRight] *
      List.formPerm [.bottomFront, .bottomLeft, .bottomBack, .bottomRight] *
      List.formPerm [.frontLeft, .backLeft, .backRight, .frontRight]
  | .rotate .z =>
    List.formPerm [.topFront, .frontRight, .bottomFront, .frontLeft] *
      List.formPerm [.topBack, .backRight, .bottomBack, .backLeft] *
      List.formPerm [.topRight, .bottomRight, .bottomLeft, .topLeft]

/-- The number of steps from the first place of a piece to a place of it. -/
def stepsTo {ι : Type} {n : Nat} (place : ι → ZMod n → Place) (k : ι) (q : Place) :
    ZMod n :=
  (List.range n).findIdx fun i => place k i = q

def cornerShuffle (p : Primitive) : Shuffle Corner 3 :=
  ⟨p.corners, fun k => stepsTo Corner.place (p.corners k) (p.places (k.place 0))⟩

def edgeShuffle (p : Primitive) : Shuffle Edge 2 :=
  ⟨p.edges, fun e => stepsTo Edge.place (p.edges e) (p.places (e.place 0))⟩

/-- Each primitive move shuffles corners and edges, and obeys the laws. -/
theorem carries (p : Primitive) : p.motion.Carries p.cornerShuffle p.edgeShuffle where
  corners := by
    -- Only the first place of a corner has been looked at to find the steps, and here all three
    -- are.
    show ∀ k i, p.places (k.place i) = (p.corners k).place (i + p.cornerShuffle.steps k)
    revert p
    decide
  edges := by
    show ∀ e i, p.places (e.place i) = (p.edges e).place (i + p.edgeShuffle.steps e)
    revert p
    decide
  total_corners := by
    -- A rotation about `x` or `z` twists four corners one way and the other four back.
    revert p
    decide
  total_edges := by
    -- A rotation about `x` or `y` flips four edges, and one about `z` all twelve.
    revert p
    decide
  sign := by
    -- A turn of the top layer is a cycle of four corners and one of four edges.  A rotation is two
    -- cycles of four corners, three of four edges, and one of four sides.
    revert p
    decide

end Primitive

/-- The motions that keep corners and edges whole and obey the laws of the puzzle. -/
def Motion.lawful : Submonoid Motion where
  carrier := {g | ∃ s t, g.Carries s t}
  one_mem' := ⟨.still, .still, Motion.carries_one⟩
  mul_mem' := by
    rintro h g ⟨s', t', hh⟩ ⟨s, t, hg⟩
    exact ⟨s'.comp s, t'.comp t, hh.mul hg⟩

/-- Every algorithm keeps the pieces whole, and obeys the laws of the puzzle. -/
theorem Algorithm.exists_carries (a : Algorithm) : ∃ s t, a.motion.Carries s t := by
  -- The laws hold of motions that are put together, so primitive moves are enough.
  have hprimitive : ∀ p : Primitive, p.motion ∈ Motion.lawful := by
    intro p
    exact ⟨p.cornerShuffle, p.edgeShuffle, p.carries⟩
  exact a.motion_mem Motion.lawful hprimitive

/-! ## The pieces of a cube -/

namespace Cube

/-- The stickers of a corner, read clockwise from the top or the bottom. -/
def cornerStickers (c : Cube α) (k : Corner) : List α :=
  [c.sticker (k.place 0), c.sticker (k.place 1), c.sticker (k.place 2)]

/-- The stickers of a corner, read clockwise from any of them. -/
def corner (c : Cube α) (k : Corner) : Cycle α := c.cornerStickers k

/-- The two stickers of an edge. -/
def edge (c : Cube α) (e : Edge) : Sym2 α := s(c.sticker (e.place 0), c.sticker (e.place 1))

/-- What a piece shows goes where the piece goes, and is turned as it is. -/
theorem sticker_smul_place {ι : Type} {n : Nat} {place : ι → ZMod n → Place} {s : Shuffle ι n}
    {g : Motion} (hs : s.Describes place g.1) (c : Cube α) (k : ι) (i : ZMod n) :
    (g • c).sticker (place (s.perm k) (i + s.steps k)) = c.sticker (place k i) := by
  rw [← hs k i, sticker_smul, Equiv.symm_apply_apply]

/-- A corner shows the same stickers where it goes, read clockwise from any of them. -/
theorem corner_smul {s : Shuffle Corner 3} {g : Motion} (hs : s.Describes Corner.place g.1)
    (c : Cube α) (k : Corner) : (g • c).corner (s.perm k) = c.corner k := by
  have h := sticker_smul_place hs c k
  have hsteps : s.steps k = 0 ∨ s.steps k = 1 ∨ s.steps k = 2 := by
    generalize s.steps k = n
    revert n
    decide
  unfold corner cornerStickers
  rw [← h 0, ← h 1, ← h 2]
  -- The same cycle is read from where the first sticker has got to.
  rcases hsteps with hn | hn | hn
  · rw [hn]
    rfl
  · rw [hn]
    exact Cycle.coe_eq_coe.2 ⟨1, rfl⟩
  · rw [hn]
    exact Cycle.coe_eq_coe.2 ⟨2, rfl⟩

theorem edge_smul {t : Shuffle Edge 2} {g : Motion} (ht : t.Describes Edge.place g.1)
    (c : Cube α) (e : Edge) : (g • c).edge (t.perm e) = c.edge e := by
  have h := sticker_smul_place ht c e
  have hsteps : t.steps e = 0 ∨ t.steps e = 1 := by
    generalize t.steps e = n
    revert n
    decide
  unfold edge
  rw [← h 0, ← h 1]
  -- The two stickers of a flipped edge have changed places.
  rcases hsteps with hn | hn
  · rw [hn]
    rfl
  · rw [hn]
    exact Sym2.eq_swap

end Cube

end TwistyCube
