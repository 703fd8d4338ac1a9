import TwistyCube.Proofs.Space

/-!
# Rotations of the whole cube

A rotation turns all of space, so nothing on the cube moves against anything else.  Where the six
sides go says where every place goes, and on the way each grid is only turned.  The quarters by
which grids are turned upright are listed axis by axis; that they fit together shows when axes are
mixed and the cube comes to one orientation by different ways.

Main results:
- `Motion.eq_of_sides_eq`: rigid motions that take the sides alike are equal.
- `Cube.exists_face_after_eq_turn`: rotations turn each grid in its place, whatever is on it.
- `Cube.after_eq_of_orientation_eq`: rotations that end in the same orientation end with the same
  cube.
-/

namespace TwistyCube

universe u

variable {α : Type u}

/-! ## Rotations as moves -/

/-- Whether a letter rotates the whole cube. -/
def Letter.isRotation : Letter → Bool
  | x | y | z => true
  | _ => false

/-- All moves of the algorithm rotate the whole cube. -/
def Algorithm.Rotates (p : Algorithm) : Prop := ∀ m ∈ p, m.letter.isRotation

instance (p : Algorithm) : Decidable p.Rotates :=
  inferInstanceAs (Decidable (∀ m ∈ p, m.letter.isRotation))

/-- Rotations are made of rotations. -/
theorem Move.isRotation_of_mem_expansion {m n : Move} (hm : m.letter.isRotation)
    (hn : n ∈ m.expansion) : n.letter.isRotation := by
  have hall : ∀ n ∈ m.expansion, n.letter.isRotation := by
    obtain ⟨k, a⟩ := m
    -- Only the three rotations are left, in each of three amounts.
    cases k with
    | x | y | z => cases a <;> decide
    | _ => cases hm
  exact hall n hn

/-- If a rotation has a primitive move of its own, it is a quarter rotation. -/
theorem Move.exists_rotate_of_primitive? {m : Move} (hm : m.letter.isRotation) {p : Primitive}
    (hp : m.primitive? = some p) : ∃ ax, p = .rotate ax := by
  cases p with
  | rotate ax => exact ⟨ax, rfl⟩
  | turnTop =>
    obtain ⟨k, a⟩ := m
    cases k with
    | x | y | z => cases a <;> cases hp
    | _ => cases hm

/-- All that is performed for a rotation are quarter rotations. -/
theorem Move.exists_rotate_of_mem_primitives {m : Move} (hm : m.letter.isRotation) {p : Primitive}
    (hp : p ∈ m.primitives) : ∃ ax, p = .rotate ax := by
  -- What is performed for a move is its own primitive move or comes from a move it is made of.
  induction m using Move.induction_on_expansion with
  | h m ih =>
    rw [m.primitives_eq] at hp
    rcases List.mem_append.1 hp with hown | hexpansion
    · exact exists_rotate_of_primitive? hm (Option.mem_toList.1 hown)
    · obtain ⟨n, hn, hp⟩ := List.mem_flatMap.1 hexpansion
      exact ih n hn (isRotation_of_mem_expansion hm hn) hp

/-- What holds of the motions of quarter rotations, of standing still, and of one motion after
another, holds of the motion of every algorithm of rotations. -/
theorem Algorithm.motion_mem_of_rotates {p : Algorithm} (hp : p.Rotates) (S : Submonoid Motion)
    (h : ∀ ax, (Primitive.rotate ax).motion ∈ S) : p.motion ∈ S := by
  -- Whatever is performed on the way is a quarter rotation, so the others need not be looked at.
  apply Motion.ofPrimitives_mem
  intro q hq
  obtain ⟨m, hm, hq⟩ := List.mem_flatMap.1 hq
  obtain ⟨ax, rfl⟩ := Move.exists_rotate_of_mem_primitives (hp m hm) hq
  exact h ax

/-! ## Grids turned in their places -/

/-- The motions that bring the grid seen at a side, turned by some number of quarters, to the side
where the side goes.  The number is the same for all cubes. -/
def Motion.keepsGrids (α : Type u) : Submonoid Motion where
  carrier := {g | ∃ k : Side → Nat, ∀ (c : Cube α) s, (g • c).view (g.2 s) = (c.view s).turn (k s)}
  one_mem' := by
    refine ⟨fun _ => 0, ?_⟩
    intro c s
    rw [one_smul]
    rfl
  mul_mem' := by
    rintro g h ⟨k, hg⟩ ⟨l, hh⟩
    -- The second motion finds the grid at the side to which the first has brought it.
    refine ⟨fun s => l s + k (h.2 s), ?_⟩
    intro c s
    show ((g * h) • c).view (g.2 (h.2 s)) = (c.view s).turn (l s + k (h.2 s))
    rw [mul_smul, hg, hh, Grid.turn_turn]

/-- A quarter rotation turns the grid of each side by what stands it upright at the next side. -/
theorem Primitive.rotate_mem_keepsGrids (ax : Axis) :
    (Primitive.rotate ax).motion ∈ Motion.keepsGrids α := by
  refine ⟨fun s => ax.correction (ax.target s), ?_⟩
  intro c s
  rw [← Cube.perform_eq_smul]
  show (c.rotate ax).view (ax.target s) = (c.view s).turn (ax.correction (ax.target s))
  rw [Cube.view_rotate, Axis.source_target]

/-- Rotations turn the grid of each face in its place, by a number of quarters that depends only on
the side where the face was. -/
theorem Cube.exists_face_after_eq_turn {p : Algorithm} (hp : p.Rotates) :
    ∃ k : Side → Nat, ∀ (c : Cube α) f,
      (c.after p).face f = (c.face f).turn (k (c.orientation.sideOf f)) := by
  obtain ⟨k, hk⟩ :=
    Algorithm.motion_mem_of_rotates hp (Motion.keepsGrids α) Primitive.rotate_mem_keepsGrids
  refine ⟨k, ?_⟩
  intro c f
  rw [after_eq_smul, ← view_sideOf, sideOf_smul, hk, view_sideOf]

/-! ## Turning all of space -/

/-- The vector that has along three given vectors the coordinates of a vector. -/
def Vec.inFrame (v i j k : Vec) : Vec :=
  ⟨v.x * i.x + v.y * j.x + v.z * k.x, v.x * i.y + v.y * j.y + v.z * k.y,
    v.x * i.z + v.y * j.z + v.z * k.z⟩

/-- Along the directions to the right, up and to the viewer a vector has its own coordinates. -/
theorem Vec.inFrame_normals (v : Vec) :
    v.inFrame Side.right.normal Side.top.normal Side.front.normal = v := by
  have hright : Side.right.normal = ⟨1, 0, 0⟩ := rfl
  have htop : Side.top.normal = ⟨0, 1, 0⟩ := rfl
  have hfront : Side.front.normal = ⟨0, 0, 1⟩ := rfl
  simp [inFrame, hright, htop, hfront]

/-- A quarter turn of space is linear. -/
theorem Axis.quarter_inFrame (ax : Axis) (v i j k : Vec) :
    ax.quarter (v.inFrame i j k) = v.inFrame (ax.quarter i) (ax.quarter j) (ax.quarter k) := by
  cases ax <;> simp only [quarter, Vec.inFrame, Equiv.coe_fn_mk, Int.mul_neg, Int.neg_add]

theorem Axis.quarter_normal (ax : Axis) (s : Side) :
    ax.quarter s.normal = (ax.target s).normal := by
  revert s
  cases ax <;> decide

/-- A motion that comes from turning all of space: a linear map takes the spots where the places go,
and the directions in which the sides face where the sides go. -/
structure Motion.ComesFrom (g : Motion) (h : Equiv.Perm Vec) : Prop where
  spot : ∀ q, (g.1 q).spot = q.spot.turnedBy h
  inFrame : ∀ v i j k : Vec, h (v.inFrame i j k) = v.inFrame (h i) (h j) (h k)
  normal : ∀ s, h s.normal = (g.2 s).normal

/-- The motions that leave all parts of the cube where they are to each other. -/
def Motion.rigid : Submonoid Motion where
  carrier := {g | ∃ h, g.ComesFrom h}
  one_mem' := ⟨1, fun _ => rfl, fun _ _ _ _ => rfl, fun _ => rfl⟩
  mul_mem' := by
    rintro g g' ⟨h, hg⟩ ⟨h', hg'⟩
    refine ⟨h * h', ?_, ?_, ?_⟩
    · intro q
      show (g.1 (g'.1 q)).spot = (q.spot.turnedBy h').turnedBy h
      rw [hg.spot, hg'.spot]
    · intro v i j k
      show h (h' (v.inFrame i j k)) = v.inFrame (h (h' i)) (h (h' j)) (h (h' k))
      rw [hg'.inFrame, hg.inFrame]
    · intro s
      show h (h' s.normal) = (g.2 (g'.2 s)).normal
      rw [hg'.normal, hg.normal]

/-- A quarter rotation turns every spot about the axis. -/
theorem Primitive.spot_rotate (ax : Axis) (q : Place) :
    ((Primitive.rotate ax).places q).spot = q.spot.turnedBy ax.quarter := by
  rw [Primitive.spot_places]
  cases ax <;> rfl

theorem Primitive.rotate_mem_rigid (ax : Axis) : (Primitive.rotate ax).motion ∈ Motion.rigid :=
  ⟨ax.quarter, spot_rotate ax, ax.quarter_inFrame, ax.quarter_normal⟩

/-- Rotations leave all parts of the cube where they are to each other. -/
theorem Algorithm.Rotates.motion_mem_rigid {p : Algorithm} (hp : p.Rotates) :
    p.motion ∈ Motion.rigid :=
  motion_mem_of_rotates hp Motion.rigid Primitive.rotate_mem_rigid

/-- Rigid motions that take the sides alike are equal. -/
theorem Motion.eq_of_sides_eq {g g' : Motion} (hg : g ∈ rigid) (hg' : g' ∈ rigid)
    (hsides : g.2 = g'.2) : g = g' := by
  obtain ⟨h, hg⟩ := hg
  obtain ⟨h', hg'⟩ := hg'
  -- The sides go where their directions go.
  have hnormal : ∀ s : Side, h s.normal = h' s.normal := by
    intro s
    rw [hg.normal, hg'.normal, hsides]
  -- A linear map is known from where it takes the directions to the right, up and to the viewer.
  have hspace : h = h' := by
    apply Equiv.ext
    intro v
    rw [← v.inFrame_normals, hg.inFrame, hg'.inFrame, hnormal, hnormal, hnormal]
  -- Space is turned in the same way, so every spot is.
  have hplaces : ∀ q, g.1 q = g'.1 q := by
    intro q
    apply Place.spot_injective
    rw [hg.spot, hg'.spot, hspace]
  exact Prod.ext (Equiv.ext hplaces) hsides

namespace Cube

/-- Rotations that end in the same orientation end with the same cube, by whatever way they get
there.  They turn the grid of each face in its place, by a number of quarters that does not depend
on what is on the cube. -/
theorem after_eq_of_orientation_eq (p q : Algorithm) (hp : p.Rotates) (hq : q.Rotates)
    (c : Cube α) :
    ((c.after p).orientation = (c.after q).orientation → c.after p = c.after q) ∧
      ∃ k : Side → Nat, ∀ (d : Cube α) f,
        (d.after p).face f = (d.face f).turn (k (d.orientation.sideOf f)) := by
  constructor
  · intro ho
    rw [after_eq_smul, after_eq_smul] at ho ⊢
    -- The faces show where the sides have gone.
    have hsides : p.motion.2 = q.motion.2 := c.orientation.permute_injective ho
    rw [Motion.eq_of_sides_eq hp.motion_mem_rigid hq.motion_mem_rigid hsides]
  · exact exists_face_after_eq_turn hp

/-- Three rotations about two axes come to one about the third, on a cube whose stickers are all
different. -/
theorem after_eq_of_orientation_eq_mixed_axes :
    let c : Cube (Face × Fin 3 × Fin 3) :=
      ofGrids (Six.ofFn fun f => Grid.ofFn fun i j => (f, i, j))
    let p : Algorithm := [⟨.x, .single⟩, ⟨.y, .single⟩, ⟨.x, .inverse⟩]
    let q : Algorithm := [⟨.z, .single⟩]
    p.Rotates ∧ q.Rotates ∧ (c.after p).orientation = (c.after q).orientation ∧
      c.after p = c.after q := by
  intro c p q
  have hp : p.Rotates := by decide
  have hq : q.Rotates := by decide
  have ho : (c.after p).orientation = (c.after q).orientation := by decide +kernel
  exact ⟨hp, hq, ho, (after_eq_of_orientation_eq p q hp hq c).1 ho⟩

end Cube

end TwistyCube
