/-!
# Six of a kind

A cube has six faces, six sides and six colours, and each of these types lists its members in a
fixed order.  `Six ι α` is a table with one value for each member of such a type.  It is written
down by position and looked up by member, so it can be compared and printed like a list and used
like a function.

Main results:
- `Six.get_ofFn`, `Six.ext_get`: a table is known from the values that are looked up in it.
- `Six.nodup_toList_iff`: no value is in a table twice exactly if looking up is injective.
- `Sixfold.mem_of_nodup`: six members that differ from each other are all that there are.
-/

namespace TwistyCube

universe u v

/-- A position among six. -/
inductive Ordinal where
  | first
  | second
  | third
  | fourth
  | fifth
  | sixth
  deriving DecidableEq

def Ordinal.all : List Ordinal := [first, second, third, fourth, fifth, sixth]

/-- One value for each member of a type with six members, in their order. -/
structure Six (ι : Type) (α : Type u) where
  first : α
  second : α
  third : α
  fourth : α
  fifth : α
  sixth : α
  deriving DecidableEq

namespace Six

variable {ι : Type} {α : Type u} {β : Type v}

/-! ## By position -/

/-- The value at a position. -/
def nth (t : Six ι α) : Ordinal → α
  | .first => t.first
  | .second => t.second
  | .third => t.third
  | .fourth => t.fourth
  | .fifth => t.fifth
  | .sixth => t.sixth

/-- The values in their order. -/
def toList (t : Six ι α) : List α := [t.first, t.second, t.third, t.fourth, t.fifth, t.sixth]

def map (h : α → β) (t : Six ι α) : Six ι β :=
  ⟨h t.first, h t.second, h t.third, h t.fourth, h t.fifth, h t.sixth⟩

theorem toList_eq_map_nth (t : Six ι α) : t.toList = Ordinal.all.map t.nth := rfl

theorem toList_map (h : α → β) (t : Six ι α) : (t.map h).toList = t.toList.map h := rfl

theorem nth_map (h : α → β) (t : Six ι α) (n : Ordinal) : (t.map h).nth n = h (t.nth n) := by
  cases n <;> rfl

theorem ext_nth {s t : Six ι α} (h : ∀ n, s.nth n = t.nth n) : s = t := by
  obtain ⟨s₁, s₂, s₃, s₄, s₅, s₆⟩ := s
  obtain ⟨t₁, t₂, t₃, t₄, t₅, t₆⟩ := t
  obtain rfl : s₁ = t₁ := h .first
  obtain rfl : s₂ = t₂ := h .second
  obtain rfl : s₃ = t₃ := h .third
  obtain rfl : s₄ = t₄ := h .fourth
  obtain rfl : s₅ = t₅ := h .fifth
  obtain rfl : s₆ = t₆ := h .sixth
  rfl

theorem nodup_toList_iff_nth {t : Six ι α} :
    t.toList.Nodup ↔ ∀ m n, t.nth m = t.nth n → m = n := by
  constructor
  · intro h m n
    simp only [toList, List.nodup_cons, List.mem_cons, List.not_mem_nil, or_false, not_or] at h
    cases m <;> cases n <;> grind [nth]
  · intro h
    -- The positions differ from each other, and so do the values at them.
    have hall : Ordinal.all.Nodup := by decide
    rw [toList_eq_map_nth]
    exact List.Pairwise.map t.nth (fun m n hne heq => hne (h m n heq)) hall

end Six

/-! ## Types of six members -/

/-- A type of six members, which stand in a fixed order. -/
class Sixfold (ι : Type) where
  /-- The members in their order. -/
  members : Six ι ι
  /-- The position of a member. -/
  position : ι → Ordinal
  nth_position : ∀ i, members.nth (position i) = i
  position_nth : ∀ n, position (members.nth n) = n

namespace Sixfold

variable {ι : Type} [Sixfold ι]

/-- All members, in their order. -/
def all (ι : Type) [Sixfold ι] : List ι := (members : Six ι ι).toList

theorem mem_all (i : ι) : i ∈ all ι := by
  have hmem : members.nth (position i) ∈ all ι := by
    cases position i <;> simp [all, Six.nth, Six.toList]
  rwa [nth_position] at hmem

theorem nodup_all : (all ι).Nodup := by
  apply Six.nodup_toList_iff_nth.2
  intro m n h
  -- A member has only one position.
  rw [← position_nth (ι := ι) m, h, position_nth]

/-- Each item of a list is one of the six members. -/
theorem sum_count [DecidableEq ι] (l : List ι) :
    l.count (members : Six ι ι).first + l.count (members : Six ι ι).second +
      l.count (members : Six ι ι).third + l.count (members : Six ι ι).fourth +
      l.count (members : Six ι ι).fifth + l.count (members : Six ι ι).sixth = l.length := by
  have hnodup := nodup_all (ι := ι)
  simp only [all, Six.toList, List.nodup_cons, List.mem_cons, List.not_mem_nil, or_false,
    not_or] at hnodup
  induction l with
  | nil => rfl
  | cons i l ih =>
    have hmem := mem_all i
    simp only [all, Six.toList, List.mem_cons, List.not_mem_nil, or_false] at hmem
    simp only [List.count_cons, List.length_cons, ← ih]
    -- The item is equal to one of the members, and then it differs from the other five.
    grind

/-- Six members that differ from each other are all the members. -/
theorem mem_of_nodup [DecidableEq ι] {l : List ι} (hnodup : l.Nodup) (hlength : l.length = 6)
    (i : ι) : i ∈ l := by
  have hsum := sum_count l
  have hle := List.nodup_iff_count.1 hnodup
  have h1 := hle (members : Six ι ι).first
  have h2 := hle (members : Six ι ι).second
  have h3 := hle (members : Six ι ι).third
  have h4 := hle (members : Six ι ι).fourth
  have h5 := hle (members : Six ι ι).fifth
  have h6 := hle (members : Six ι ι).sixth
  -- Six items are counted, none of them twice, so each of the six members is.
  rw [← List.count_pos_iff, ← nth_position i]
  cases position i <;> (simp only [Six.nth]; omega)

end Sixfold

/-! ## By member -/

namespace Six

variable {ι : Type} [Sixfold ι] {α : Type u} {β : Type v}

/-- The value that belongs to a member. -/
def get (t : Six ι α) (i : ι) : α := t.nth (Sixfold.position i)

/-- Holds for each member what a function gives. -/
def ofFn (h : ι → α) : Six ι α := Sixfold.members.map h

@[simp] theorem get_ofFn (h : ι → α) (i : ι) : (ofFn h).get i = h i := by
  rw [get, ofFn, nth_map, Sixfold.nth_position]

@[simp] theorem ofFn_get (t : Six ι α) : ofFn t.get = t := by
  apply ext_nth
  intro n
  rw [ofFn, nth_map, get, Sixfold.position_nth]

@[simp] theorem get_map (h : α → β) (t : Six ι α) (i : ι) : (t.map h).get i = h (t.get i) :=
  nth_map h t _

/-- Two tables are equal if they hold the same for each member. -/
theorem ext_get {s t : Six ι α} (h : ∀ i, s.get i = t.get i) : s = t := by
  rw [← ofFn_get s, ← ofFn_get t, funext h]

theorem toList_eq_map (t : Six ι α) : t.toList = (Sixfold.all ι).map t.get := by
  have hlist := congrArg toList (ofFn_get t)
  rwa [ofFn, toList_map, eq_comm] at hlist

/-- No value is in a table twice exactly if no two members have the same value. -/
theorem nodup_toList_iff {t : Six ι α} :
    t.toList.Nodup ↔ ∀ i j, t.get i = t.get j → i = j := by
  rw [nodup_toList_iff_nth]
  constructor
  · intro h i j hij
    rw [← Sixfold.nth_position i, h _ _ hij, Sixfold.nth_position]
  · intro h m n hmn
    -- Each position is that of some member.
    rw [← Sixfold.position_nth (ι := ι) m, ← Sixfold.position_nth (ι := ι) n] at hmn ⊢
    rw [h _ _ hmn]

end Six

end TwistyCube
