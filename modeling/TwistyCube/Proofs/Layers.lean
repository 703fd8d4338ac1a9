import Mathlib.Algebra.Group.Pi.Basic
import Mathlib.Data.Fin.VecNotation
import Mathlib.Data.Int.ModEq
import TwistyCube.Proofs.Faithful

/-!
# Turning layers about one axis

Letters of one axis turn some of the three layers that lie across it, each by a quarter in one sense
or the other.  What a list of such letters does depends only on how many quarters each layer is
turned in all, whatever the order of the letters and whether they are layers, slices, wide turns or
rotations; and four quarters are none.

Main results:
- `Algorithm.turn_eq_turnedBy`: an algorithm of one axis turns each layer by its sum of quarters.
- `Cube.after_eq_of_turns_modEq`: such algorithms do the same exactly when their sums agree modulo
  four, and on the solved cube they already differ when these do not.
-/

namespace TwistyCube

universe u

variable {α : Type u}

/-! ## Quarters layer by layer -/

/-- The axis about which a letter turns. -/
def Letter.axis : Letter → Axis
  | R | L | M | r | l | x => .x
  | U | D | u | d | y => .y
  | F | B | z => .z

/-- The clockwise quarters by which a letter turns the layers across its axis: left, middle and
right, or bottom, middle and top, or back, middle and front. -/
def Letter.turns : Letter → Fin 3 → Int
  | R | U | F => ![0, 0, 1]
  | L | D | B => ![-1, 0, 0]
  | M => ![0, -1, 0]
  | r | u => ![0, 1, 1]
  | l | d => ![-1, -1, 0]
  | x | y | z => ![1, 1, 1]

def Move.turns (m : Move) : Fin 3 → Int :=
  match m.amount with
  | .single => m.letter.turns
  | .inverse => -m.letter.turns
  | .double => 2 • m.letter.turns

/-- The quarters by which an algorithm of one axis turns each layer in all. -/
def Algorithm.turns (a : Algorithm) : Fin 3 → Int := (a.map Move.turns).sum

@[simp] theorem Algorithm.turns_cons (m : Move) (a : Algorithm) :
    turns (m :: a) = m.turns + turns a := List.sum_cons

/-! ## Layers in space -/

namespace Axis

/-- How far along an axis a point is. -/
def along : Axis → Vec → Int
  | x, v => v.x
  | y, v => v.y
  | z, v => v.z

theorem along_quarter (ax : Axis) (v : Vec) : ax.along (ax.quarter v) = ax.along v := by
  cases ax <;> rfl

/-- Turning about an axis keeps every point in its layer. -/
theorem along_quarter_zpow (ax : Axis) (n : Int) (v : Vec) :
    ax.along ((ax.quarter ^ n) v) = ax.along v := by
  induction n using Int.induction_on generalizing v with
  | zero => rfl
  | succ n ih => rw [zpow_add_one, Equiv.Perm.mul_apply, ih, along_quarter]
  | pred n ih =>
    -- A quarter back is undone by a quarter forward, of which it is known that it keeps the layer.
    have hback : ax.quarter (ax.quarter⁻¹ v) = v := ax.quarter.apply_symm_apply v
    rw [zpow_sub_one, Equiv.Perm.mul_apply, ih, ← along_quarter, hback]

theorem quarter_pow_four (ax : Axis) : ax.quarter ^ (4 : Int) = 1 := by
  apply Equiv.ext
  intro v
  show ax.quarter (ax.quarter (ax.quarter (ax.quarter v))) = v
  obtain ⟨x, y, z⟩ := v
  cases ax <;> simp [quarter]

/-- Only the remainder modulo four counts of a number of quarters. -/
theorem quarter_zpow_eq_of_modEq (ax : Axis) {m n : Int} (h : m ≡ n [ZMOD 4]) :
    ax.quarter ^ m = ax.quarter ^ n := by
  rw [zpow_eq_zpow_emod m ax.quarter_pow_four, h.eq, ← zpow_eq_zpow_emod n ax.quarter_pow_four]

/-- A direction at a right angle to an axis. -/
def across : Axis → Vec
  | x => ⟨0, 0, 1⟩
  | y => ⟨0, 0, 1⟩
  | z => ⟨0, 1, 0⟩

/-- Any number of quarters comes to none, one, two or three. -/
theorem exists_quarter_zpow_eq (ax : Axis) (n : Int) :
    ∃ r : Fin 4, n % 4 = r.val ∧ ax.quarter ^ n = ax.quarter ^ r.val := by
  obtain ⟨r, hr⟩ := Int.eq_ofNat_of_zero_le (Int.emod_nonneg n (by decide : (4 : Int) ≠ 0))
  have hlt : n % 4 < 4 := Int.emod_lt_of_pos n (by decide)
  refine ⟨⟨r, by omega⟩, hr, ?_⟩
  rw [zpow_eq_zpow_emod n ax.quarter_pow_four, hr]
  exact zpow_natCast ax.quarter r

/-- None, one, two and three quarters take a direction across the axis to four directions. -/
theorem quarter_pow_across_injective (ax : Axis) {r s : Fin 4}
    (h : (ax.quarter ^ r.val) ax.across = (ax.quarter ^ s.val) ax.across) : r = s := by
  revert r s
  cases ax <;> decide

/-- Only whole turns about an axis leave a direction at a right angle to it as it was. -/
theorem modEq_of_quarter_zpow_across (ax : Axis) {m n : Int}
    (h : (ax.quarter ^ m) ax.across = (ax.quarter ^ n) ax.across) : m ≡ n [ZMOD 4] := by
  -- Whole turns are left out on both sides, and what remains is told apart.
  obtain ⟨r, hr, hm⟩ := ax.exists_quarter_zpow_eq m
  obtain ⟨s, hs, hn⟩ := ax.exists_quarter_zpow_eq n
  rw [hm, hn] at h
  rw [Int.ModEq, hr, hs, ax.quarter_pow_across_injective h]

end Axis

/-! ## Moves layer by layer -/

/-- A letter turns the layers for which it has quarters, and no others. -/
theorem Letter.covers_iff_turns_ne_zero (k : Letter) {i : Fin 3} {v : Vec}
    (hv : k.axis.along v = i - 1) : k.covers v = true ↔ k.turns i ≠ 0 := by
  -- The layers have coordinates `-1`, `0` and `1`, in the order in which they are counted.
  cases k <;> fin_cases i <;> simp_all [axis, Axis.along, covers, turns]

/-- It turns them all alike. -/
theorem Letter.spin_eq_zpow (k : Letter) {i : Fin 3} (h : k.turns i ≠ 0) :
    k.spin = k.axis.quarter ^ k.turns i := by
  -- A letter that turns a layer at all turns it as it turns space.
  cases k <;> fin_cases i <;> simp_all [axis, spin, turns]

/-- A move turns each layer across its axis by the quarters it has for it. -/
theorem Move.turn_eq_turnedBy (m : Move) {i : Fin 3} {p : Spot}
    (hp : m.letter.axis.along p.centre = i - 1) :
    m.turn p = p.turnedBy (m.letter.axis.quarter ^ m.turns i) := by
  have hcovers := m.letter.covers_iff_turns_ne_zero hp
  by_cases h : m.letter.turns i = 0
  · -- The layer is not turned by the letter, so it is not turned by any amount of it.
    have hturns : m.turns i = 0 := by
      unfold turns
      cases m.amount <;> simp [h]
    have hstill : ¬ m.letter.covers p.centre = true := by simpa [h] using hcovers
    rw [hturns, turn, if_neg hstill]
    rfl
  · -- The amount says how often and in which sense the letter turns the layer.
    have hspin : m.spin = m.letter.axis.quarter ^ m.turns i := by
      unfold spin turns
      rw [m.letter.spin_eq_zpow h]
      cases m.amount with
      | single => rfl
      | inverse => exact (zpow_neg _ _).symm
      | double =>
        rw [← zpow_add]
        simp [two_mul]
    rw [turn, if_pos (hcovers.2 h), hspin]
    rfl

/-- An algorithm of one axis turns each layer across it by the sum of its quarters. -/
theorem Algorithm.turn_eq_turnedBy {ax : Axis} {a : Algorithm} (ha : ∀ m ∈ a, m.letter.axis = ax)
    {i : Fin 3} {p : Spot} (hp : ax.along p.centre = i - 1) :
    a.turn p = p.turnedBy (ax.quarter ^ a.turns i) := by
  -- The induction keeps two facts: the moves are of the axis, and the spot is in the layer.
  induction a generalizing p with
  | nil => rfl
  | cons m a ih =>
    obtain ⟨rfl, ha⟩ := List.forall_mem_cons.1 ha
    have hfirst := m.turn_eq_turnedBy hp
    -- What has been turned is still in its layer.
    have hlayer : m.letter.axis.along (m.turn p).centre = i - 1 := by
      rw [hfirst]
      exact (m.letter.axis.along_quarter_zpow _ _).trans hp
    calc turn (m :: a) p
        = (m.turn p).turnedBy (m.letter.axis.quarter ^ turns a i) := ih ha hlayer
      _ = p.turnedBy (m.letter.axis.quarter ^ turns (m :: a) i) := by
        rw [hfirst, turns_cons, Pi.add_apply, add_comm, zpow_add]
        rfl

/-! ## Algorithms of one axis -/

/-- Every place is in one of the layers across an axis. -/
theorem Place.exists_layer (ax : Axis) (q : Place) :
    ∃ i : Fin 3, ax.along q.spot.centre = i - 1 := by
  revert q
  cases ax <;> decide

/-- A place in a layer across an axis, on a side that goes round with it. -/
def Place.onRim : Axis → Fin 3 → Place
  | .x, i => { Place.centre .front with col := i }
  | .y, i => { Place.centre .front with row := i.rev }
  | .z, i => { Place.centre .top with row := i }

theorem Place.spot_onRim (ax : Axis) (i : Fin 3) :
    ax.along (onRim ax i).spot.centre = i - 1 ∧ (onRim ax i).spot.normal = ax.across := by
  revert i
  cases ax <;> decide

/-- Algorithms of one axis have the same motion exactly when they turn each layer by as many
quarters, up to whole turns. -/
theorem Algorithm.motion_eq_iff_turns_modEq {ax : Axis} {a b : Algorithm}
    (ha : ∀ m ∈ a, m.letter.axis = ax) (hb : ∀ m ∈ b, m.letter.axis = ax) :
    a.motion = b.motion ↔ ∀ i, a.turns i ≡ b.turns i [ZMOD 4] := by
  constructor
  · intro h i
    -- A sticker on the rim of a layer shows by how many quarters the layer has been turned.
    obtain ⟨hlayer, hnormal⟩ := Place.spot_onRim ax i
    have hspot : a.turn (Place.onRim ax i).spot = b.turn (Place.onRim ax i).spot := by
      rw [← spot_places, ← spot_places, h]
    rw [turn_eq_turnedBy ha hlayer, turn_eq_turnedBy hb hlayer] at hspot
    apply ax.modEq_of_quarter_zpow_across
    rw [← hnormal]
    exact congrArg Spot.normal hspot
  · intro h
    -- Every place is in some layer, and turned with it.
    apply motion_eq_of_places
    intro q
    apply Place.spot_injective
    obtain ⟨i, hlayer⟩ := q.exists_layer ax
    rw [spot_places, spot_places, turn_eq_turnedBy ha hlayer, turn_eq_turnedBy hb hlayer,
      ax.quarter_zpow_eq_of_modEq (h i)]

namespace Cube

/-- Algorithms of one axis do the same to every cube if they turn each layer by as many quarters, up
to whole turns, and they already differ on the solved cube if they do not. -/
theorem after_eq_of_turns_modEq (ax : Axis) (a b : Algorithm) (ha : ∀ m ∈ a, m.letter.axis = ax)
    (hb : ∀ m ∈ b, m.letter.axis = ax) :
    ((∀ i, a.turns i ≡ b.turns i [ZMOD 4]) → ∀ c : Cube α, c.after a = c.after b) ∧
      ((¬ ∀ i, a.turns i ≡ b.turns i [ZMOD 4]) → solved.after a ≠ solved.after b) := by
  have hiff := Algorithm.motion_eq_iff_turns_modEq ha hb
  constructor
  · intro h c
    rw [after_eq_smul, after_eq_smul, hiff.2 h]
  · intro h hsolved
    -- The solved cube tells motions apart, and with them the sums of quarters.
    exact h (hiff.1 (Algorithm.motion_eq_of_after_solved hsolved))

/-- Wide turns, a slice and a rotation that come to one wide turn, which is also three of them the
other way, but not a turn of the face alone. -/
theorem after_eq_of_turns_modEq_wide :
    let a : Algorithm := [⟨.r, .double⟩, ⟨.M, .single⟩, ⟨.l, .inverse⟩, ⟨.x, .inverse⟩]
    let b : Algorithm := [⟨.r, .inverse⟩, ⟨.r, .inverse⟩, ⟨.r, .inverse⟩]
    let c : Algorithm := [⟨.R, .single⟩]
    (∀ m ∈ a, m.letter.axis = .x) ∧ (∀ m ∈ b, m.letter.axis = .x) ∧
      (∀ m ∈ c, m.letter.axis = .x) ∧ (∀ i, a.turns i ≡ b.turns i [ZMOD 4]) ∧
      (¬ ∀ i, a.turns i ≡ c.turns i [ZMOD 4]) ∧
      solved.after a = solved.after b ∧ solved.after a ≠ solved.after c := by
  intro a b c
  have ha : ∀ m ∈ a, m.letter.axis = .x := by decide
  have hb : ∀ m ∈ b, m.letter.axis = .x := by decide
  have hc : ∀ m ∈ c, m.letter.axis = .x := by decide
  have hsame : ∀ i, a.turns i ≡ b.turns i [ZMOD 4] := by decide
  have hdiffer : ¬ ∀ i, a.turns i ≡ c.turns i [ZMOD 4] := by decide
  exact ⟨ha, hb, hc, hsame, hdiffer, (after_eq_of_turns_modEq .x a b ha hb).1 hsame solved,
    (after_eq_of_turns_modEq (α := Color) .x a c ha hc).2 hdiffer⟩

end Cube

end TwistyCube
