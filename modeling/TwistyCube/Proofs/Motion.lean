import Mathlib.Algebra.Group.Action.Defs
import Mathlib.Algebra.Group.End
import Mathlib.Algebra.Group.Prod
import Mathlib.Algebra.Group.Submonoid.Basic
import Mathlib.Algebra.GroupWithZero.Nat
import Mathlib.Data.Fintype.Prod
import TwistyCube.Proofs.Trace

/-!
# Moves as permutations

A place is where a sticker is seen: a side, a row and a column.  Moves look neither at the stickers
nor at which face is where.  They permute the 54 places and the six sides, and a pair of such
permutations is a `Motion`.  Motions form a group, and the group acts on cubes.

Main results:
- `Cube.perform_eq_smul`: a primitive move acts on every cube by one motion.
- `Cube.after_eq_smul`: so does every algorithm, by `Algorithm.motion`.
- `Algorithm.motion_mem`: to know something of the motions of all algorithms it is enough to know it
  of primitive moves.
-/

namespace TwistyCube

universe u

variable {α : Type u}

instance : Fintype Side := ⟨⟨Side.all, Sixfold.nodup_all⟩, Sixfold.mem_all⟩

def Primitive.all : List Primitive := [.turnTop, .rotate .x, .rotate .y, .rotate .z]

theorem Primitive.mem_all (p : Primitive) : p ∈ all := by
  cases p with
  | turnTop => decide
  | rotate a => cases a <;> decide

instance : Fintype Primitive := ⟨⟨Primitive.all, by decide⟩, Primitive.mem_all⟩

/-! ## Places -/

/-- A place where a sticker is seen. -/
structure Place where
  side : Side
  row : Fin 3
  col : Fin 3
  deriving DecidableEq

namespace Place

def equivProd : Side × Fin 3 × Fin 3 ≃ Place where
  toFun t := ⟨t.1, t.2.1, t.2.2⟩
  invFun q := (q.side, q.row, q.col)
  left_inv _ := rfl
  right_inv _ := rfl

instance : Fintype Place := Fintype.ofEquiv _ equivProd

/-- The place in a row and a column of a side, both counted from zero. -/
def ofNat (s : Side) (i j : Nat) : Place :=
  ⟨s, ⟨i % 3, Nat.mod_lt i (by decide)⟩, ⟨j % 3, Nat.mod_lt j (by decide)⟩⟩

/-- The place in the middle of a side. -/
def centre (s : Side) : Place := ofNat s 1 1

theorem centre_injective : Function.Injective centre := by
  intro s t h
  exact congrArg side h

/-- The place whose sticker is brought to a place by a clockwise quarter turn of its grid. -/
def turnedFrom (q : Place) : Place := ⟨q.side, q.col.rev, q.row⟩

end Place

/-- What a turned grid has at a place is found in the grid by going back quarter by quarter. -/
theorem Grid.get_turn (g : Grid α) (k : Nat) (q : Place) :
    (g.turn k).get q.row q.col =
      g.get (Place.turnedFrom^[k] q).row (Place.turnedFrom^[k] q).col := by
  -- The last of the quarter turns is undone first, so the place changes along with the number.
  induction k generalizing q with
  | zero => rfl
  | succ k ih =>
    rw [Grid.turn, Grid.get_rotate]
    exact ih q.turnedFrom

namespace Cube

/-- The sticker seen at a place. -/
def sticker (c : Cube α) (q : Place) : α := (c.view q.side).get q.row q.col

/-- Two cubes are equal if they are held in the same orientation and show the same sticker at each
place. -/
theorem ext_sticker {c d : Cube α} (ho : ∀ s, c.orientation.face s = d.orientation.face s)
    (h : ∀ q, c.sticker q = d.sticker q) : c = d := by
  have horientation : c.orientation = d.orientation := Orientation.ext_face ho
  -- A grid is known by what it has in each row and column.
  have hview : ∀ s, c.view s = d.view s := by
    intro s
    apply Grid.ext_get
    intro i j
    exact h ⟨s, i, j⟩
  exact ext_view horientation hview

end Cube

/-! ## Primitive moves -/

namespace Primitive

/-- The place whose sticker a primitive move brings to a place. -/
def origin : Primitive → Place → Place
  | .turnTop, q =>
    -- The top row of a side comes from the next side, and below it nothing moves.
    match q.side, q.row with
    | .front, 0 => { q with side := .right }
    | .right, 0 => { q with side := .back }
    | .back, 0 => { q with side := .left }
    | .left, 0 => { q with side := .front }
    | .top, _ => q.turnedFrom
    | _, _ => q
  | .rotate a, q => { Place.turnedFrom^[a.correction q.side] q with side := a.source q.side }

/-- A primitive move that is made four times brings every sticker back. -/
theorem iterate_origin_four (p : Primitive) (q : Place) : p.origin^[4] q = q := by
  revert p q
  decide

/-- The places as a primitive move permutes them. -/
def places (p : Primitive) : Equiv.Perm Place where
  -- Four steps from origin to origin lead round, so the way forward is three steps back.
  toFun := p.origin^[3]
  invFun := p.origin
  left_inv := p.iterate_origin_four
  right_inv := p.iterate_origin_four

/-- The sides as a primitive move permutes them. -/
def sides : Primitive → Equiv.Perm Side
  | .turnTop => 1
  | .rotate a => ⟨a.target, a.source, a.source_target, a.target_source⟩

end Primitive

/-! ## What is seen after a primitive move -/

namespace Cube

/-- A primitive move brings to each place the sticker of the place of origin. -/
theorem sticker_perform (p : Primitive) (c : Cube α) (q : Place) :
    (c.perform p).sticker q = c.sticker (p.places.symm q) := by
  show (c.perform p).sticker q = c.sticker (p.origin q)
  cases p with
  | turnTop =>
    obtain ⟨s, i, j⟩ := q
    unfold sticker perform turnTop
    rw [view_mapSides]
    cases s with
    | top => exact Grid.get_rotate _ i j
    | bottom => rfl
    | front | right | back | left =>
      -- Only the top row comes from the next side.
      match i with
      | 0 | 1 | 2 => rfl
  | rotate a =>
    -- The grid comes from another side, and is turned until it stands upright again.
    unfold sticker perform
    rw [view_rotate, Grid.get_turn]
    rfl

/-- A primitive move brings to each side the face of the side of origin. -/
theorem face_perform (p : Primitive) (c : Cube α) (s : Side) :
    (c.perform p).orientation.face s = c.orientation.face (p.sides.symm s) := by
  cases p with
  | turnTop => rfl
  | rotate a => exact Orientation.face_rotate a c.orientation s

end Cube

/-! ## Motions and their action -/

/-- A permutation of the places and one of the sides. -/
abbrev Motion := Equiv.Perm Place × Equiv.Perm Side

/-- The orientation with its faces moved along with the sides. -/
def Orientation.permute (g : Equiv.Perm Side) (o : Orientation) : Orientation where
  faces := Six.ofFn fun s => o.face (g.symm s)
  nodup := by
    apply Six.nodup_toList_iff.2
    intro s t h
    rw [Six.get_ofFn, Six.get_ofFn] at h
    exact g.symm.injective (o.face_injective h)

@[simp] theorem Orientation.face_permute (g : Equiv.Perm Side) (o : Orientation) (s : Side) :
    (o.permute g).face s = o.face (g.symm s) :=
  Six.get_ofFn _ s

/-- The faces show how the sides have been permuted. -/
theorem Orientation.permute_injective (o : Orientation) : Function.Injective o.permute := by
  intro g h heq
  replace heq : o.permute g = o.permute h := heq
  apply Equiv.ext
  intro s
  -- The face that is on a side now is found on the same side after either permutation.
  have hface : o.face (h.symm (g s)) = o.face s := by
    rw [← face_permute, ← heq, face_permute, Equiv.symm_apply_apply]
  have hside := congrArg o.sideOf hface
  rw [sideOf_face, sideOf_face] at hside
  exact h.symm_apply_eq.1 hside

namespace Cube

/-- A motion takes the stickers along with the places and the faces along with the sides. -/
instance : SMul Motion (Cube α) where
  smul g c :=
    mapSides (fun s _ => Grid.ofFn fun i j => c.sticker (g.1.symm ⟨s, i, j⟩))
      { c with orientation := c.orientation.permute g.2 }

@[simp] theorem face_smul (g : Motion) (c : Cube α) (s : Side) :
    (g • c).orientation.face s = c.orientation.face (g.2.symm s) :=
  Orientation.face_permute g.2 c.orientation s

/-- Each place has the sticker of the place that the motion takes there. -/
@[simp] theorem sticker_smul (g : Motion) (c : Cube α) (q : Place) :
    (g • c).sticker q = c.sticker (g.1.symm q) := by
  unfold sticker
  show Grid.get (view (mapSides _ _) q.side) q.row q.col = _
  rw [view_mapSides, Grid.get_ofFn]
  rfl

theorem orientation_smul (g : Motion) (c : Cube α) :
    (g • c).orientation = c.orientation.permute g.2 := rfl

/-- The side where a face is found goes where the motion takes it. -/
theorem sideOf_smul (g : Motion) (c : Cube α) (f : Face) :
    (g • c).orientation.sideOf f = g.2 (c.orientation.sideOf f) := by
  -- The side to which the motion takes it has the face, and no other side can have it.
  have hface : (g • c).orientation.face (g.2 (c.orientation.sideOf f)) = f := by
    rw [face_smul, Equiv.symm_apply_apply, Orientation.face_sideOf]
  have hside := (g • c).orientation.sideOf_face (g.2 (c.orientation.sideOf f))
  rwa [hface] at hside

instance : MulAction Motion (Cube α) where
  one_smul c := ext_sticker (fun s => face_smul 1 c s) fun q => sticker_smul 1 c q
  mul_smul g h c := by
    refine ext_sticker (fun s => ?_) fun q => ?_
    · rw [face_smul, face_smul, face_smul]
      rfl
    · rw [sticker_smul, sticker_smul, sticker_smul]
      rfl

end Cube

/-! ## The motion of an algorithm -/

/-- The motion of a primitive move. -/
def Primitive.motion (p : Primitive) : Motion := (p.places, p.sides)

/-- The motion of primitive moves that are performed from first to last. -/
def Motion.ofPrimitives : List Primitive → Motion
  | [] => 1
  | p :: ps => ofPrimitives ps * p.motion

/-- The motion of more primitive moves comes after that of the first ones. -/
theorem Motion.ofPrimitives_append (ps qs : List Primitive) :
    ofPrimitives (ps ++ qs) = ofPrimitives qs * ofPrimitives ps := by
  induction ps with
  | nil => exact (mul_one (ofPrimitives qs)).symm
  | cons p ps ih =>
    -- Motions are composed from right to left, moves are performed from left to right.
    calc ofPrimitives (p :: ps ++ qs)
        = ofPrimitives (ps ++ qs) * p.motion := rfl
      _ = ofPrimitives qs * ofPrimitives ps * p.motion := by rw [ih]
      _ = ofPrimitives qs * ofPrimitives (p :: ps) := mul_assoc ..

/-- What holds of the motions of primitive moves, and of one motion after another, holds of their
motion together. -/
theorem Motion.ofPrimitives_mem (S : Submonoid Motion) {ps : List Primitive}
    (h : ∀ p ∈ ps, p.motion ∈ S) : ofPrimitives ps ∈ S := by
  induction ps with
  | nil => exact S.one_mem
  | cons p ps ih =>
    -- The first move acts first, so its motion is the right factor.
    obtain ⟨hfirst, hrest⟩ := List.forall_mem_cons.1 h
    exact S.mul_mem (ih hrest) hfirst

/-- The motion of a move. -/
def Move.motion (m : Move) : Motion := .ofPrimitives m.primitives

namespace Algorithm

/-- The motion of an algorithm. -/
def motion (a : Algorithm) : Motion := .ofPrimitives a.primitives

@[simp] theorem motion_nil : motion [] = 1 := rfl

@[simp] theorem motion_cons (m : Move) (a : Algorithm) : motion (m :: a) = motion a * m.motion :=
  Motion.ofPrimitives_append ..

@[simp] theorem motion_append (a b : Algorithm) : motion (a ++ b) = motion b * motion a := by
  rw [motion, primitives_append, Motion.ofPrimitives_append]
  rfl

/-- What holds of the motions of primitive moves, of standing still, and of one motion after
another, holds of the motion of every algorithm. -/
theorem motion_mem (S : Submonoid Motion) (h : ∀ p : Primitive, p.motion ∈ S) (a : Algorithm) :
    a.motion ∈ S :=
  Motion.ofPrimitives_mem S fun p _ => h p

end Algorithm

/-- The motion of a move is that of its own primitive move, if any, and then that of the moves that
take its place. -/
theorem Move.motion_eq (m : Move) :
    m.motion = m.expansion.motion * .ofPrimitives m.primitive?.toList := by
  rw [motion, primitives_eq, Motion.ofPrimitives_append]
  rfl

namespace Cube

/-- A primitive move acts on every cube by its motion. -/
theorem perform_eq_smul (p : Primitive) (c : Cube α) : c.perform p = p.motion • c := by
  -- Faces and stickers come from the same places in both ways.
  refine ext_sticker (fun s => ?_) fun q => ?_
  · rw [face_perform, face_smul]
    rfl
  · rw [sticker_perform, sticker_smul]
    rfl

/-- Primitive moves that are performed in order act by their motion together. -/
theorem performAll_eq_smul (ps : List Primitive) (c : Cube α) :
    c.performAll ps = Motion.ofPrimitives ps • c := by
  induction ps generalizing c with
  | nil => exact (one_smul Motion c).symm
  | cons p ps ih =>
    calc c.performAll (p :: ps)
        = Motion.ofPrimitives ps • c.perform p := ih (c.perform p)
      _ = Motion.ofPrimitives ps • p.motion • c := by rw [perform_eq_smul]
      _ = Motion.ofPrimitives (p :: ps) • c := (mul_smul ..).symm

/-- An algorithm acts by its motion, whatever the cube. -/
theorem after_eq_smul (a : Algorithm) (c : Cube α) : c.after a = a.motion • c := by
  rw [after_eq_performAll, performAll_eq_smul]
  rfl

end Cube

/-! ## Centres

No move takes a sticker from the middle of a side to anywhere but the middle of a side, so the
places alone tell how the sides are permuted. -/

/-- The motions that take the middle of each side to the middle of the side that it goes to. -/
def Motion.centred : Submonoid Motion where
  carrier := {g | ∀ s, g.1 (.centre s) = .centre (g.2 s)}
  one_mem' _ := rfl
  mul_mem' {g h} hg hh s := by
    show g.1 (h.1 (.centre s)) = .centre (g.2 (h.2 s))
    rw [hh s, hg (h.2 s)]

theorem Primitive.motion_mem_centred (p : Primitive) : p.motion ∈ Motion.centred := by
  show ∀ s, p.places (.centre s) = .centre (p.sides s)
  revert p
  decide

theorem Algorithm.motion_mem_centred (a : Algorithm) : a.motion ∈ Motion.centred :=
  a.motion_mem Motion.centred Primitive.motion_mem_centred

/-- An algorithm takes the middle of a side to the middle of the side that the side goes to. -/
theorem Algorithm.places_centre (a : Algorithm) (s : Side) :
    a.motion.1 (.centre s) = .centre (a.motion.2 s) :=
  a.motion_mem_centred s

/-- Two such motions are equal if they permute the places alike. -/
theorem Motion.eq_of_places {g h : Motion} (hg : g ∈ centred) (hh : h ∈ centred)
    (hplaces : ∀ q, g.1 q = h.1 q) : g = h := by
  -- The middles of the sides go where the sides go, and are among the places.
  have hsides : ∀ s, g.2 s = h.2 s := by
    intro s
    apply Place.centre_injective
    rw [← hg s, ← hh s, hplaces]
  exact Prod.ext (Equiv.ext hplaces) (Equiv.ext hsides)

/-- Two algorithms that permute the places alike have the same motion. -/
theorem Algorithm.motion_eq_of_places {a b : Algorithm} (h : ∀ q, a.motion.1 q = b.motion.1 q) :
    a.motion = b.motion :=
  Motion.eq_of_places a.motion_mem_centred b.motion_mem_centred h

end TwistyCube
