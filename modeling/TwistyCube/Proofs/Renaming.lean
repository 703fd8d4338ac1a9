import Mathlib.Algebra.Group.Semiconj.Basic
import TwistyCube.Proofs.Rotation

/-!
# Face turns under other names

Each face turn is named for the side where its layer is.  When the whole cube is rotated the layers
get to other sides, so a face turn before a rotation is a face turn of another name after it.  The
notation table brings each layer to the top by a rotation of its own; what is shown here is that any
rotation would have done as well.

One quarter rotation is looked at in space, where it takes the layer of a side to that of the next
side, together with the sense in which it turns.  Lists of face turns and lists of rotations follow.

Main results:
- `Move.turn_rename`: a face turn and then a quarter rotation, against the rotation and then the
  renamed turn.
- `Cube.after_append_rotations`: the same for any face turns and any rotations.
-/

namespace TwistyCube

universe u

variable {α : Type u}

/-! ## Names of face turns -/

/-- The letter that turns the layer of a side. -/
def Side.letter : Side → Letter
  | top => .U
  | bottom => .D
  | right => .R
  | left => .L
  | front => .F
  | back => .B

/-- The side whose layer a letter turns, if it turns such a layer and nothing else. -/
def Letter.side? : Letter → Option Side
  | U => some .top
  | D => some .bottom
  | R => some .right
  | L => some .left
  | F => some .front
  | B => some .back
  | _ => none

@[simp] theorem Letter.side?_letter (s : Side) : s.letter.side? = some s := by
  cases s <;> rfl

theorem Letter.eq_letter_of_side? {k : Letter} {s : Side} (h : k.side? = some s) :
    k = s.letter := by
  cases k <;> cases h <;> rfl

namespace Move

/-- A face turn of a side as the same turn of the side that a map has for it.  Other moves keep
their letters. -/
def rename (σ : Side → Side) (m : Move) : Move :=
  match m.letter.side? with
  | some s => { m with letter := (σ s).letter }
  | none => m

/-- A face turn is renamed to that of the other side, by the same amount. -/
theorem rename_of_side? {m : Move} {s : Side} (h : m.letter.side? = some s) (σ : Side → Side) :
    m.rename σ = ⟨(σ s).letter, m.amount⟩ := by
  rw [rename, h]

@[simp] theorem side?_letter_rename (σ : Side → Side) (m : Move) :
    (m.rename σ).letter.side? = m.letter.side?.map σ := by
  unfold rename
  cases h : m.letter.side? with
  | none => exact h
  | some s => exact Letter.side?_letter (σ s)

theorem rename_id (m : Move) : m.rename id = m := by
  unfold rename
  cases h : m.letter.side? with
  | none => rfl
  | some s =>
    obtain ⟨k, a⟩ := m
    obtain rfl := Letter.eq_letter_of_side? h
    rfl

/-- Moves that are renamed twice are renamed by one map after the other. -/
theorem rename_rename (σ τ : Side → Side) (m : Move) :
    (m.rename τ).rename σ = m.rename (σ ∘ τ) := by
  cases h : m.letter.side? with
  | none =>
    -- A move that is no face turn keeps its name under any map.
    have hkept : ∀ ρ : Side → Side, m.rename ρ = m := by
      intro ρ
      rw [rename, h]
    rw [hkept, hkept, hkept]
  | some s =>
    have hrenamed : (m.rename τ).letter.side? = some (τ s) := by rw [side?_letter_rename, h]; rfl
    rw [rename_of_side? hrenamed, rename_of_side? h, rename_of_side? h]
    rfl

end Move

namespace Algorithm

/-- The algorithm with its face turns renamed. -/
def rename (σ : Side → Side) (f : Algorithm) : Algorithm := f.map (Move.rename σ)

/-- All moves of the algorithm are face turns. -/
def TurnsFaces (f : Algorithm) : Prop := ∀ m ∈ f, m.letter.side?.isSome

instance (f : Algorithm) : Decidable f.TurnsFaces :=
  inferInstanceAs (Decidable (∀ m ∈ f, m.letter.side?.isSome))

theorem TurnsFaces.rename {f : Algorithm} (hf : f.TurnsFaces) (σ : Side → Side) :
    (f.rename σ).TurnsFaces := by
  intro n hn
  obtain ⟨m, hm, rfl⟩ := List.mem_map.1 hn
  rw [Move.side?_letter_rename, Option.isSome_map]
  exact hf m hm

theorem rename_id (f : Algorithm) : f.rename id = f :=
  (List.map_congr_left fun m _ => m.rename_id).trans (List.map_id f)

theorem rename_rename (σ τ : Side → Side) (f : Algorithm) :
    (f.rename τ).rename σ = f.rename (σ ∘ τ) := by
  unfold rename
  rw [List.map_map]
  exact List.map_congr_left fun m _ => m.rename_rename σ τ

end Algorithm

/-! ## One face turn and one quarter rotation -/

namespace Axis

/-- A quarter rotation takes the layer of a side to the layer of the next side. -/
theorem covers_quarter (ax : Axis) (s : Side) (v : Vec) :
    (ax.target s).letter.covers (ax.quarter v) = s.letter.covers v := by
  cases ax <;> cases s <;> simp [target, quarter, Side.letter, Letter.covers] <;> grind

/-- A quarter rotation takes the turn of a side to the turn of the next side, clockwise as seen from
there. -/
theorem semiconjBy_spin (ax : Axis) (s : Side) :
    SemiconjBy ax.quarter s.letter.spin (ax.target s).letter.spin := by
  apply Equiv.ext
  intro v
  show ax.quarter (s.letter.spin v) = (ax.target s).letter.spin (ax.quarter v)
  -- Each axis has six sides to check, and for each of them two rotations of coordinates.
  cases ax <;> cases s <;> simp [target, quarter, Side.letter, Letter.spin]

end Axis

namespace Move

/-- What holds of a clockwise quarter holds of a quarter back and of two quarters. -/
theorem semiconjBy_spin (ax : Axis) (s : Side) (a : Amount) :
    SemiconjBy ax.quarter (⟨s.letter, a⟩ : Move).spin (⟨(ax.target s).letter, a⟩ : Move).spin := by
  have hquarter := ax.semiconjBy_spin s
  cases a with
  | single => exact hquarter
  | inverse => exact hquarter.inv_right
  | double => exact hquarter.mul_right hquarter

/-- A face turn takes a spot, and a quarter rotation takes it from there, to where the renamed turn
takes what has been rotated. -/
theorem turn_rename {m : Move} (hm : m.letter.side?.isSome) (ax : Axis) (p : Spot) :
    (m.rename ax.target).turn (p.turnedBy ax.quarter) = (m.turn p).turnedBy ax.quarter := by
  obtain ⟨s, hs⟩ := Option.isSome_iff_exists.1 hm
  obtain ⟨k, a⟩ := m
  obtain rfl := Letter.eq_letter_of_side? hs
  rw [rename_of_side? hs]
  -- The spot is in the layer before exactly if it is in the next layer afterwards.
  have hcovers := ax.covers_quarter s p.centre
  have hspin : ∀ v, (⟨(ax.target s).letter, a⟩ : Move).spin (ax.quarter v) =
      ax.quarter ((⟨s.letter, a⟩ : Move).spin v) :=
    fun v => (Equiv.congr_fun (semiconjBy_spin ax s a) v).symm
  by_cases h : s.letter.covers p.centre
  · have hturned : (ax.target s).letter.covers (ax.quarter p.centre) := hcovers.trans h
    unfold turn Spot.turnedBy
    rw [if_pos h, if_pos hturned, hspin, hspin]
  · -- What is not in the layer before is not in the next layer afterwards.
    have hstill : ¬ (ax.target s).letter.covers (ax.quarter p.centre) := by rwa [hcovers]
    unfold turn Spot.turnedBy
    rw [if_neg h, if_neg hstill]

/-- A face turn followed by a quarter rotation has the motion of the rotation followed by the
renamed face turn. -/
theorem rotate_mul_motion {m : Move} (hm : m.letter.side?.isSome) (ax : Axis) :
    (Primitive.rotate ax).motion * m.motion =
      (m.rename ax.target).motion * (Primitive.rotate ax).motion := by
  have hcentred : ∀ n : Move, n.motion ∈ Motion.centred := fun n =>
    Motion.ofPrimitives_mem _ fun p _ => p.motion_mem_centred
  have hrotate := (Primitive.rotate ax).motion_mem_centred
  -- The sides follow the centres, so it is enough to see where each place goes in space.
  refine Motion.eq_of_places (mul_mem hrotate (hcentred m)) (mul_mem (hcentred _) hrotate) ?_
  intro q
  apply Place.spot_injective
  show ((Primitive.rotate ax).places (m.motion.1 q)).spot =
    ((m.rename ax.target).motion.1 ((Primitive.rotate ax).places q)).spot
  rw [Primitive.spot_rotate, Move.spot_places, Move.spot_places, Primitive.spot_rotate,
    turn_rename hm]

end Move

/-! ## Face turns and rotations -/

/-- The motions past which face turns can be brought if they are renamed along with the sides. -/
def Motion.renamesTurns : Submonoid Motion where
  carrier := {g | ∀ f : Algorithm, f.TurnsFaces → g * f.motion = (f.rename g.2).motion * g}
  one_mem' := by
    intro f _
    show 1 * f.motion = (f.rename id).motion * 1
    rw [one_mul, mul_one, f.rename_id]
  mul_mem' := by
    intro g h hg hh f hf
    calc g * h * f.motion
        = g * (h * f.motion) := mul_assoc ..
      _ = g * (f.rename h.2).motion * h := by rw [hh f hf, mul_assoc]
      _ = ((f.rename h.2).rename g.2).motion * (g * h) := by
        rw [hg _ (hf.rename h.2), mul_assoc]
      _ = (f.rename (g * h).2).motion * (g * h) := by
        rw [Algorithm.rename_rename]
        rfl

/-- Any face turns can be brought past a quarter rotation. -/
theorem Primitive.rotate_mem_renamesTurns (ax : Axis) :
    (Primitive.rotate ax).motion ∈ Motion.renamesTurns := by
  intro f hf
  show (rotate ax).motion * f.motion = (f.rename ax.target).motion * (rotate ax).motion
  -- The turns are brought past one by one, the last of them first.
  induction f with
  | nil => exact (mul_one _).trans (one_mul _).symm
  | cons m f ih =>
    obtain ⟨hm, hf⟩ := List.forall_mem_cons.1 hf
    calc (rotate ax).motion * Algorithm.motion (m :: f)
        = (rotate ax).motion * Algorithm.motion f * m.motion := by
          rw [Algorithm.motion_cons, mul_assoc]
      _ = (Algorithm.rename ax.target f).motion * ((m.rename ax.target).motion *
            (rotate ax).motion) := by
          rw [ih hf, mul_assoc, Move.rotate_mul_motion hm]
      _ = (Algorithm.rename ax.target (m :: f)).motion * (rotate ax).motion := by
          rw [← mul_assoc, ← Algorithm.motion_cons]
          rfl

namespace Cube

/-- The side where an algorithm takes the face that is at a side of a cube. -/
def sideAfter (c : Cube α) (a : Algorithm) (s : Side) : Side :=
  (c.after a).orientation.sideOf (c.orientation.face s)

/-- An algorithm takes faces from side to side in one way, whichever faces they are. -/
theorem sideAfter_eq (c : Cube α) (a : Algorithm) (s : Side) : c.sideAfter a s = a.motion.2 s := by
  rw [sideAfter, after_eq_smul, sideOf_smul, Orientation.sideOf_face]

/-- Face turns before rotations do what the turns of the sides to which these are taken do after the
rotations, on every cube and however it is held. -/
theorem after_append_rotations (f p : Algorithm) (hf : f.TurnsFaces) (hp : p.Rotates)
    (c : Cube α) :
    (∀ (d : Cube α) s, d.sideAfter p s = c.sideAfter p s) ∧
      c.after (f ++ p) = c.after (p ++ f.rename (c.sideAfter p)) := by
  constructor
  · intro d s
    rw [sideAfter_eq, sideAfter_eq]
  · have hsides : c.sideAfter p = p.motion.2 := funext fun s => c.sideAfter_eq p s
    -- Rotations are made of quarter rotations, and face turns are brought past one after the other.
    have hpast : p.motion ∈ Motion.renamesTurns :=
      Algorithm.motion_mem_of_rotates hp Motion.renamesTurns Primitive.rotate_mem_renamesTurns
    rw [after_eq_smul, after_eq_smul, Algorithm.motion_append, Algorithm.motion_append, hsides,
      hpast f hf]

/-- Two rotations that take the right to the top, the top to the front and the front to the right,
on a cube that is not held in the canonical orientation. -/
theorem after_append_rotations_circle :
    let f : Algorithm := [⟨.R, .single⟩, ⟨.U, .inverse⟩, ⟨.F, .double⟩]
    let p : Algorithm := [⟨.z, .inverse⟩, ⟨.y, .inverse⟩]
    let c : Cube Color := solvedIn (Orientation.canonical.rotate .x)
    f.TurnsFaces ∧ p.Rotates ∧
      f.rename (c.sideAfter p) = [⟨.U, .single⟩, ⟨.F, .inverse⟩, ⟨.R, .double⟩] ∧
      c.after (f ++ p) = c.after (p ++ f.rename (c.sideAfter p)) := by
  intro f p c
  have hf : f.TurnsFaces := by decide
  have hp : p.Rotates := by decide
  have hrenamed : f.rename (c.sideAfter p) = [⟨.U, .single⟩, ⟨.F, .inverse⟩, ⟨.R, .double⟩] := by
    decide +kernel
  exact ⟨hf, hp, hrenamed, (after_append_rotations f p hf hp c).2⟩

end Cube

end TwistyCube
