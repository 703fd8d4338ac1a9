import Mathlib.Data.Set.Card
import TwistyCube.Proofs.Pieces

/-!
# Handedness

Six faces can be put at six sides in 720 ways, but a real cube is only ever held in 24 of them.  The
permutations of the sides that a cube in the hand allows are those that keep the handedness of any
three sides: they leave opposite sides opposite, and show no mirror image.  Slices and wide turns
move the middles of the sides as well as rotations do, and none of them can do anything else.  The
other way round, the front can be brought to any side, and the top to any side at a right angle to
that, which is all that there is.

Main results:
- `Algorithm.sides_mem_rotations`: every algorithm rotates the six sides.
- `Side.exists_algorithm`: every rotation of the six sides is that of an algorithm.
- `Cube.reached_orientations`: what is reached from any orientation, left-handed ones included.
-/

namespace TwistyCube

universe u

variable {α : Type u}

/-! ## Rotations of the six sides -/

namespace Side

def opposite : Side → Side
  | front => back
  | right => left
  | back => front
  | left => right
  | top => bottom
  | bottom => top

/-- The permutations of the sides that keep the handedness of any three of them. -/
def rotations : Subgroup (Equiv.Perm Side) where
  carrier := {π | ∀ s t u,
    (π s).normal.det (π t).normal (π u).normal = s.normal.det t.normal u.normal}
  one_mem' _ _ _ := rfl
  mul_mem' := by
    intro π ρ hπ hρ s t u
    exact (hπ (ρ s) (ρ t) (ρ u)).trans (hρ s t u)
  inv_mem' := by
    intro π hπ s t u
    have h := hπ (π.symm s) (π.symm t) (π.symm u)
    rw [π.apply_symm_apply, π.apply_symm_apply, π.apply_symm_apply] at h
    exact h.symm

/-- Another side is the opposite one if no third side makes the two right-handed or left-handed. -/
theorem eq_opposite_iff {s t : Side} :
    t = s.opposite ↔ t ≠ s ∧ ∀ u : Side, s.normal.det t.normal u.normal = 0 := by
  revert s t
  decide

/-- Rotations of the sides keep opposite sides opposite. -/
theorem opposite_of_mem {π : Equiv.Perm Side} (hπ : π ∈ rotations) (s : Side) :
    π s.opposite = (π s).opposite := by
  obtain ⟨hne, hflat⟩ := eq_opposite_iff.1 (Eq.refl s.opposite)
  apply eq_opposite_iff.2
  refine ⟨fun h => hne (π.injective h), ?_⟩
  intro u
  -- Every side is where some side has been taken.
  obtain ⟨u, rfl⟩ := π.surjective u
  rw [hπ, hflat]

/-- For two sides at a right angle there is only one third side that makes them right-handed, and
only one that makes them left-handed. -/
theorem eq_of_det_eq {s t u v : Side}
    (h : s.normal.det t.normal u.normal = s.normal.det t.normal v.normal)
    (hne : s.normal.det t.normal u.normal ≠ 0) : u = v := by
  revert s t u v
  decide

/-- A rotation is known from where it takes the front and the top. -/
theorem eq_of_mem_rotations {π ρ : Equiv.Perm Side} (hπ : π ∈ rotations) (hρ : ρ ∈ rotations)
    (hfront : π front = ρ front) (htop : π top = ρ top) : π = ρ := by
  -- The right makes a right-handed three of the front and the top, and must go on doing so.
  have hright : π right = ρ right := by
    have hπ' := hπ front top right
    have hρ' := hρ front top right
    rw [← hfront, ← htop] at hρ'
    refine eq_of_det_eq (hπ'.trans hρ'.symm) ?_
    rw [hπ']
    decide
  have hopposite : ∀ s, π s = ρ s → π s.opposite = ρ s.opposite := by
    intro s h
    rw [opposite_of_mem hπ, opposite_of_mem hρ, h]
  apply Equiv.ext
  intro s
  cases s with
  | front => exact hfront
  | right => exact hright
  | back => exact hopposite front hfront
  | left => exact hopposite right hright
  | top => exact htop
  | bottom => exact hopposite top htop

end Side

/-! ## What algorithms do to the sides -/

theorem Primitive.sides_mem_rotations (p : Primitive) : p.sides ∈ Side.rotations := by
  show ∀ s t u, (p.sides s).normal.det (p.sides t).normal (p.sides u).normal =
    s.normal.det t.normal u.normal
  revert p
  decide

/-- Whatever an algorithm turns, it rotates the six sides. -/
theorem Algorithm.sides_mem_rotations (a : Algorithm) : a.motion.2 ∈ Side.rotations :=
  a.motion_mem (Side.rotations.toSubmonoid.comap (MonoidHom.snd _ _))
    Primitive.sides_mem_rotations

/-! ## Every rotation is reached -/

/-- A list of primitive moves, written as an algorithm, does what they do. -/
theorem Algorithm.motion_map_move (ps : List Primitive) :
    motion (ps.map Primitive.move) = .ofPrimitives ps := by
  -- A primitive move that is written as a move has nothing else to it.
  have hmove : ∀ p : Primitive, p.move.motion = p.motion := by
    intro p
    rw [Move.motion_eq]
    cases p with
    | turnTop => rfl
    | rotate ax => cases ax <;> rfl
  induction ps with
  | nil => rfl
  | cons p ps ih =>
    rw [List.map_cons, motion_cons, ih, hmove]
    rfl

namespace Side

/-- Two sides at a right angle. -/
abbrev RightAngle := {p : Side × Side // p.2 ≠ p.1 ∧ p.2 ≠ p.1.opposite}

/-- Rotations about the front, and then rotations that take the front to some side. -/
def framings : List (List Primitive) :=
  (List.range 4).flatMap fun n =>
    [[], [.y], [.y, .y], [.y, .y, .y], [.x], [.x, .x, .x]].map fun w =>
      (List.replicate n .z ++ w).map .rotate

/-- The front and the top can be brought to any two sides at a right angle. -/
theorem exists_framing (p : RightAngle) :
    ∃ w ∈ framings, (Motion.ofPrimitives w).2 front = p.1.1 ∧
      (Motion.ofPrimitives w).2 top = p.1.2 := by
  revert p
  decide

theorem exists_algorithm_of_rightAngle (p : RightAngle) :
    ∃ a : Algorithm, a.motion.2 front = p.1.1 ∧ a.motion.2 top = p.1.2 := by
  obtain ⟨w, -, h⟩ := exists_framing p
  refine ⟨w.map Primitive.move, ?_⟩
  rwa [Algorithm.motion_map_move]

/-- Where a rotation takes the front and the top. -/
def frame (π : rotations) : RightAngle :=
  ⟨(π.1 front, π.1 top), by
    refine ⟨fun h => ?_, fun h => ?_⟩
    · exact absurd (π.1.injective h) (by decide)
    · rw [← opposite_of_mem π.2] at h
      exact absurd (π.1.injective h) (by decide)⟩

/-- Every rotation of the six sides is brought about by an algorithm. -/
theorem exists_algorithm {π : Equiv.Perm Side} (hπ : π ∈ rotations) :
    ∃ a : Algorithm, a.motion.2 = π := by
  -- An algorithm that takes front and top to the same sides as the rotation is enough.
  obtain ⟨a, hfront, htop⟩ := exists_algorithm_of_rightAngle (frame ⟨π, hπ⟩)
  exact ⟨a, eq_of_mem_rotations a.sides_mem_rotations hπ hfront htop⟩

/-- Rotations and pairs of sides at a right angle correspond to each other. -/
theorem frame_bijective : Function.Bijective frame := by
  constructor
  · intro π ρ h
    have hframe := congrArg Subtype.val h
    exact Subtype.ext (eq_of_mem_rotations π.2 ρ.2 (congrArg Prod.fst hframe)
      (congrArg Prod.snd hframe))
  · intro p
    -- Algorithms rotate the sides, so the one that is found gives a rotation.
    obtain ⟨a, hfront, htop⟩ := exists_algorithm_of_rightAngle p
    exact ⟨⟨a.motion.2, a.sides_mem_rotations⟩, Subtype.ext (Prod.ext hfront htop)⟩

theorem card_rotations : Nat.card rotations = 24 := by
  rw [Nat.card_congr (Equiv.ofBijective frame frame_bijective), Nat.card_eq_fintype_card]
  -- There are six sides for the front, and four at a right angle to each.
  decide

end Side

/-! ## The orientations that are reached -/

/-- The orientation as it is seen in a mirror: the right and the left have changed faces. -/
def Orientation.mirror (o : Orientation) : Orientation := o.permute (Equiv.swap .right .left)

namespace Cube

/-- The orientations to which a cube is brought by algorithms. -/
def reached (c : Cube α) : Set Orientation := Set.range fun a : Algorithm => (c.after a).orientation

theorem orientation_after (a : Algorithm) (c : Cube α) :
    (c.after a).orientation = c.orientation.permute a.motion.2 := by
  rw [after_eq_smul, orientation_smul]

/-- The orientations that are reached are those that rotations of the sides make of it. -/
theorem reached_eq (c : Cube α) :
    c.reached = c.orientation.permute '' (Side.rotations : Set (Equiv.Perm Side)) := by
  ext o
  constructor
  · rintro ⟨a, rfl⟩
    exact ⟨a.motion.2, a.sides_mem_rotations, (orientation_after a c).symm⟩
  · rintro ⟨π, hπ, rfl⟩
    obtain ⟨a, rfl⟩ := Side.exists_algorithm hπ
    exact ⟨a, orientation_after a c⟩

theorem card_reached (c : Cube α) : c.reached.ncard = 24 := by
  rw [reached_eq, Set.ncard_image_of_injective _ c.orientation.permute_injective,
    ← Nat.card_coe_set_eq]
  exact Side.card_rotations

theorem mirror_notMem_reached (c : Cube α) : c.orientation.mirror ∉ c.reached := by
  rw [reached_eq]
  rintro ⟨π, hπ, hmirror⟩
  obtain rfl := c.orientation.permute_injective hmirror
  -- Right, top and front are right-handed, and left, top and front are not.
  exact absurd (hπ .right .top .front) (by decide)

/-- Faces that were opposite to each other are so after any algorithm. -/
theorem sideOf_opposite_after (a : Algorithm) (c : Cube α) (s : Side) :
    (c.after a).orientation.sideOf (c.orientation.face s.opposite) =
      ((c.after a).orientation.sideOf (c.orientation.face s)).opposite := by
  rw [after_eq_smul, sideOf_smul, sideOf_smul, Orientation.sideOf_face, Orientation.sideOf_face,
    Side.opposite_of_mem a.sides_mem_rotations]

/-- Six faces are accepted exactly if they are distinct, and then as the orientation that has these
faces.  From whatever orientation a cube is in, algorithms bring it exactly to the 24 orientations
that rotations of the six sides make of it, and never to its mirror image.  Faces that are opposite
stay so, and in every orientation that is reached the side of a face and the face of a side can be
looked up, and each look-up undoes the other. -/
theorem reached_orientations (faces : Sides Face) (c : Cube α) :
    ((∃ o, Orientation.ofFaces faces = .ok o) ↔ faces.toList.Nodup) ∧
      (∀ o, Orientation.ofFaces faces = .ok o ↔ o.faces = faces) ∧
      c.reached = c.orientation.permute '' (Side.rotations : Set (Equiv.Perm Side)) ∧
      c.reached.ncard = 24 ∧ c.orientation.mirror ∉ c.reached ∧
      ∀ a : Algorithm,
        let o := (c.after a).orientation
        (∀ s, o.sideOf (c.orientation.face s.opposite) =
            (o.sideOf (c.orientation.face s)).opposite) ∧
          (∀ s, o.sideOf (o.face s) = s) ∧ (∀ f, o.face (o.sideOf f) = f) ∧
          ∀ f, (Side.all.find? fun s => o.face s = f) = some (o.sideOf f) := by
  refine ⟨Orientation.exists_ofFaces_eq_ok_iff, fun o => Orientation.ofFaces_eq_ok_iff,
    c.reached_eq, c.card_reached, c.mirror_notMem_reached, ?_⟩
  intro a o
  exact ⟨sideOf_opposite_after a c, o.sideOf_face, o.face_sideOf, o.find?_face_all⟩

end Cube

end TwistyCube
