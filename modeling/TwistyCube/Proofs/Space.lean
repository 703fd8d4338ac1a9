import TwistyCube.Proofs.Motion

/-!
# The cube in space

A reference for what moves should do that knows nothing of grids and orientations, of rewriting, or
of standing turned grids upright.  A cube is taken apart into 54 facelets in space, each with a
centre whose coordinates are from `-1` to `1`, and a normal that points out of the cube.  A move
turns centre and normal of the facelets in its layers about its axis, and leaves the others alone.

Main results:
- `Algorithm.spot_places`: places are permuted the way their spots in space are turned.
- `Cube.after_refines_space`: what algorithms do to cubes is what the reference does to facelets.
-/

namespace TwistyCube

universe u

variable {α : Type u}

/-! ## Spots in space -/

/-- A vector: `x` points to the right, `y` up, and `z` to the viewer. -/
structure Vec where
  x : Int
  y : Int
  z : Int
  deriving DecidableEq

/-- The quarter turn of space about an axis, in the sense of a clockwise rotation of the cube. -/
def Axis.quarter : Axis → Equiv.Perm Vec
  | .x => ⟨fun v => ⟨v.x, v.z, -v.y⟩, fun v => ⟨v.x, -v.z, v.y⟩, fun v => by simp, fun v => by simp⟩
  | .y => ⟨fun v => ⟨-v.z, v.y, v.x⟩, fun v => ⟨v.z, v.y, -v.x⟩, fun v => by simp, fun v => by simp⟩
  | .z => ⟨fun v => ⟨v.y, -v.x, v.z⟩, fun v => ⟨-v.y, v.x, v.z⟩, fun v => by simp, fun v => by simp⟩

/-- The centre of a facelet, and the normal that points away from the cube there. -/
structure Spot where
  centre : Vec
  normal : Vec
  deriving DecidableEq

/-- A spot that is turned about the middle of the cube. -/
def Spot.turnedBy (g : Equiv.Perm Vec) (p : Spot) : Spot := ⟨g p.centre, g p.normal⟩

/-- The spot of a place. -/
def Place.spot : Place → Spot
  | ⟨.front, i, j⟩ => ⟨⟨j.val - 1, 1 - i.val, 1⟩, ⟨0, 0, 1⟩⟩
  | ⟨.right, i, j⟩ => ⟨⟨1, 1 - i.val, 1 - j.val⟩, ⟨1, 0, 0⟩⟩
  | ⟨.back, i, j⟩ => ⟨⟨1 - j.val, 1 - i.val, -1⟩, ⟨0, 0, -1⟩⟩
  | ⟨.left, i, j⟩ => ⟨⟨-1, 1 - i.val, j.val - 1⟩, ⟨-1, 0, 0⟩⟩
  | ⟨.top, i, j⟩ => ⟨⟨j.val - 1, 1, i.val - 1⟩, ⟨0, 1, 0⟩⟩
  | ⟨.bottom, i, j⟩ => ⟨⟨j.val - 1, -1, 1 - i.val⟩, ⟨0, -1, 0⟩⟩

/-- The direction in which a side faces. -/
def Side.normal (s : Side) : Vec := (Place.centre s).spot.normal

theorem Place.spot_injective : Function.Injective spot := by
  intro p q
  revert p q
  decide

/-! ## Reference moves -/

namespace Letter

/-- How a clockwise quarter of a letter turns space. -/
def spin : Letter → Equiv.Perm Vec
  | U | u | y => Axis.y.quarter
  | D | d => Axis.y.quarter⁻¹
  | R | r | x => Axis.x.quarter
  | L | l | M => Axis.x.quarter⁻¹
  | F | z => Axis.z.quarter
  | B => Axis.z.quarter⁻¹

/-- Whether what has a given centre is in the layers that a letter turns. -/
def covers : Letter → Vec → Bool
  | U, v => v.y == 1
  | D, v => v.y == -1
  | R, v => v.x == 1
  | L, v => v.x == -1
  | F, v => v.z == 1
  | B, v => v.z == -1
  | M, v => v.x == 0
  | u, v => 0 ≤ v.y
  | d, v => v.y ≤ 0
  | r, v => 0 ≤ v.x
  | l, v => v.x ≤ 0
  | x, _ | y, _ | z, _ => true

end Letter

namespace Move

/-- How a move turns space: a quarter, a quarter back, or two quarters. -/
def spin (m : Move) : Equiv.Perm Vec :=
  match m.amount with
  | .single => m.letter.spin
  | .inverse => m.letter.spin⁻¹
  | .double => m.letter.spin * m.letter.spin

/-- Where a move takes a spot. -/
def turn (m : Move) (p : Spot) : Spot :=
  if m.letter.covers p.centre then ⟨m.spin p.centre, m.spin p.normal⟩ else p

end Move

/-- Where an algorithm takes a spot. -/
def Algorithm.turn (a : Algorithm) (p : Spot) : Spot := a.foldl (fun p m => m.turn p) p

/-! ## The table against the reference -/

/-- A primitive move, written as a move. -/
def Primitive.move : Primitive → Move
  | .turnTop => ⟨.U, .single⟩
  | .rotate .x => ⟨.x, .single⟩
  | .rotate .y => ⟨.y, .single⟩
  | .rotate .z => ⟨.z, .single⟩

/-- A primitive move permutes the places the way their spots are turned. -/
theorem Primitive.spot_places (p : Primitive) (q : Place) :
    (p.places q).spot = p.move.turn q.spot := by
  revert p q
  decide

/-- The table is right, entry by entry: a spot is taken where the move should take it when the move
is replaced by its own primitive move, if any, and the moves that take its place. -/
theorem Move.turn_expansion (m : Move) (q : Place) :
    m.expansion.turn (Algorithm.turn (m.primitive?.toList.map Primitive.move) q.spot) =
      m.turn q.spot := by
  revert q
  obtain ⟨k, a⟩ := m
  -- Each of the 42 entries is checked at all places.
  cases k <;> cases a <;> decide +kernel

/-- If each of some moves permutes the places the way their spots are turned, so do all of them one
after the other. -/
theorem Algorithm.spot_places_of_forall {a : Algorithm}
    (h : ∀ m ∈ a, ∀ q, (m.motion.1 q).spot = m.turn q.spot) (q : Place) :
    (a.motion.1 q).spot = a.turn q.spot := by
  induction a generalizing q with
  | nil => rfl
  | cons m a ih =>
    have hfirst := h m List.mem_cons_self q
    -- The other moves find the place where the first one has taken it.
    have hrest := ih (fun n hn => h n (List.mem_cons_of_mem m hn)) (m.motion.1 q)
    rw [motion_cons, Prod.fst_mul, Equiv.Perm.mul_apply, hrest, hfirst]
    rfl

/-- A move permutes the places the way their spots are turned. -/
theorem Move.spot_places (m : Move) (q : Place) : (m.motion.1 q).spot = m.turn q.spot := by
  -- The induction is on how moves are rewritten.  The table need only be right one entry at a time.
  induction m using Move.induction_on_expansion generalizing q with
  | h m ih =>
    -- A primitive move of its own comes first.
    have hown : ((Motion.ofPrimitives m.primitive?.toList).1 q).spot =
        Algorithm.turn (m.primitive?.toList.map Primitive.move) q.spot := by
      cases m.primitive? with
      | none => rfl
      | some p => exact p.spot_places q
    have hexpansion := Algorithm.spot_places_of_forall ih
    rw [m.motion_eq, Prod.fst_mul, Equiv.Perm.mul_apply, hexpansion, hown]
    exact m.turn_expansion q

/-- An algorithm permutes the places the way their spots are turned. -/
theorem Algorithm.spot_places (a : Algorithm) (q : Place) :
    (a.motion.1 q).spot = a.turn q.spot :=
  spot_places_of_forall (fun m _ => m.spot_places) q

/-! ## Cubes taken apart -/

/-- Two families that agree up to a permutation of the indices have the same members. -/
theorem map_univ_eq_of_perm {ι β : Type*} [Fintype ι] (g : Equiv.Perm ι) {f f' : ι → β}
    (h : ∀ i, f (g i) = f' i) : Finset.univ.val.map f = Finset.univ.val.map f' := by
  -- Going through the indices in another order changes nothing.
  calc Finset.univ.val.map f
      = (Finset.univ.val.map g).map f := by rw [Multiset.map_univ_val_equiv]
    _ = Finset.univ.val.map fun i => f (g i) := Multiset.map_map ..
    _ = Finset.univ.val.map f' := Multiset.map_congr rfl fun i _ => h i

/-- A mark at a spot in space. -/
structure Facelet (β : Type u) where
  spot : Spot
  mark : β

/-- The facelet where an algorithm takes it. -/
def Facelet.turn {β : Type u} (a : Algorithm) (f : Facelet β) : Facelet β :=
  ⟨a.turn f.spot, f.mark⟩

namespace Cube

/-- The stickers that are seen on a cube, as facelets in space. -/
def facelets (c : Cube α) : Multiset (Facelet α) :=
  Finset.univ.val.map fun q : Place => ⟨q.spot, c.sticker q⟩

/-- The physical faces of a cube, as marks on the facelets in the middle of the sides. -/
def faceMarks (c : Cube α) : Multiset (Facelet Face) :=
  Finset.univ.val.map fun s : Side => ⟨(Place.centre s).spot, c.orientation.face s⟩

/-- A motion takes each sticker along with its place. -/
theorem facelets_smul (g : Motion) (c : Cube α) :
    (g • c).facelets = Finset.univ.val.map fun q : Place => ⟨(g.1 q).spot, c.sticker q⟩ := by
  -- The places are gone through in the order in which the motion takes them.
  apply map_univ_eq_of_perm g.1
  intro q
  rw [sticker_smul, Equiv.symm_apply_apply]

/-- A motion takes each physical face along with its side. -/
theorem faceMarks_smul (g : Motion) (c : Cube α) :
    (g • c).faceMarks =
      Finset.univ.val.map fun s : Side => ⟨(Place.centre (g.2 s)).spot, c.orientation.face s⟩ := by
  apply map_univ_eq_of_perm g.2
  intro s
  rw [face_smul, Equiv.symm_apply_apply]

theorem facelets_after (a : Algorithm) (c : Cube α) :
    (c.after a).facelets = c.facelets.map (Facelet.turn a) := by
  rw [after_eq_smul, facelets_smul, facelets, Multiset.map_map]
  apply Multiset.map_congr rfl
  intro q _
  rw [a.spot_places]
  rfl

theorem faceMarks_after (a : Algorithm) (c : Cube α) :
    (c.after a).faceMarks = c.faceMarks.map (Facelet.turn a) := by
  rw [after_eq_smul, faceMarks_smul, faceMarks, Multiset.map_map]
  apply Multiset.map_congr rfl
  intro s _
  -- The side is where the middle of it has gone.
  rw [← a.places_centre, a.spot_places]
  rfl

/-- An algorithm does to a cube what the reference moves do to its facelets: the 54 stickers that
are seen afterwards are the stickers seen before, each at the spot where the reference takes it, and
each physical face is at the side where the reference takes the middle of its side. -/
theorem after_refines_space (a : Algorithm) (c : Cube α) :
    (c.after a).facelets = c.facelets.map (Facelet.turn a) ∧
      (c.after a).faceMarks = c.faceMarks.map (Facelet.turn a) :=
  ⟨facelets_after a c, faceMarks_after a c⟩

end Cube

end TwistyCube
