import TwistyCube.Face
import TwistyCube.Side

/-!
# Orientations

An orientation says which physical face occupies each side.  No face is at two sides, and the type
carries this, so each face is at exactly one side.  Arrangements that no rotation of a real cube
could bring about, left-handed ones among them, are orientations too.

Main results:
- `Orientation.ofFaces_eq_ok_iff`: which arrangements of faces are accepted.
- `Orientation.face_sideOf`, `Orientation.sideOf_face`: the two look-ups undo each other.
-/

namespace TwistyCube

universe u

/-- A fault in the faces given for an orientation. -/
inductive OrientationError where
  /-- The face is given for more than one side. -/
  | repeatedFace (f : Face)
  deriving DecidableEq

def OrientationError.message : OrientationError → String
  | .repeatedFace f =>
    "face " ++ String.singleton f.letter ++ " is assigned to more than one side"

/-- Which face occupies each side: no face at two sides. -/
structure Orientation where
  faces : Sides Face
  nodup : faces.toList.Nodup
  deriving DecidableEq

/-- The first member of a list that is equal to an earlier one. -/
def firstRepeat {α : Type u} [DecidableEq α] (seen : List α) : List α → Option α
  | [] => none
  | a :: rest => if a ∈ seen then some a else firstRepeat (a :: seen) rest

/-- A list without repeats has no member met before, neither in it nor in what was seen. -/
theorem firstRepeat_eq_none_iff {α : Type u} [DecidableEq α] {seen l : List α} :
    firstRepeat seen l = none ↔ l.Nodup ∧ ∀ a ∈ l, a ∉ seen := by
  induction l generalizing seen with
  | nil => simp [firstRepeat]
  | cons a rest ih =>
    by_cases ha : a ∈ seen
    · simp [firstRepeat, ha]
    · -- From here on the member counts as seen, and the others must differ from it too.
      simp only [firstRepeat, ha, if_false, ih, List.nodup_cons, List.mem_cons, not_or]
      constructor
      · rintro ⟨hnodup, h⟩
        exact ⟨⟨fun hmem => (h a hmem).1 rfl, hnodup⟩, by
          rintro b (rfl | hb)
          · exact ha
          · exact (h b hb).2⟩
      · rintro ⟨⟨hmem, hnodup⟩, h⟩
        exact ⟨hnodup, fun b hb => ⟨fun hba => hmem (hba ▸ hb), h b (.inr hb)⟩⟩

namespace Orientation

/-- Red in front, green on the right, yellow on top. -/
def canonical : Orientation where
  faces := ⟨.red, .green, .orange, .blue, .yellow, .white⟩
  nodup := by decide

/-- The orientation with given faces at the sides.  It is refused if a face is given twice, and
the fault names the first face that had been given before. -/
def ofFaces (faces : Sides Face) : Except OrientationError Orientation :=
  match h : firstRepeat [] faces.toList with
  | some f => .error (.repeatedFace f)
  | none => .ok ⟨faces, (firstRepeat_eq_none_iff.1 h).1⟩

/-- The faces of every orientation are accepted, and no others. -/
theorem ofFaces_eq_ok_iff {faces : Sides Face} {o : Orientation} :
    ofFaces faces = .ok o ↔ o.faces = faces := by
  unfold ofFaces
  split
  · next f h =>
    constructor
    · intro hok
      cases hok
    · rintro rfl
      -- An orientation has no face twice, so none would have been found.
      have hnone : firstRepeat [] o.faces.toList = none :=
        firstRepeat_eq_none_iff.2 ⟨o.nodup, fun _ _ => List.not_mem_nil⟩
      rw [hnone] at h
      cases h
  · constructor
    · intro hok
      rw [← Except.ok.inj hok]
    · rintro rfl
      rfl

/-- Six faces are accepted exactly if they differ from each other. -/
theorem exists_ofFaces_eq_ok_iff {faces : Sides Face} :
    (∃ o, ofFaces faces = .ok o) ↔ faces.toList.Nodup := by
  constructor
  · rintro ⟨o, ho⟩
    obtain rfl := ofFaces_eq_ok_iff.1 ho
    exact o.nodup
  · intro h
    exact ⟨⟨faces, h⟩, ofFaces_eq_ok_iff.2 rfl⟩

def face (o : Orientation) (s : Side) : Face := o.faces.get s

/-- The first side at which a face is found. -/
def sideOf (o : Orientation) (f : Face) : Side :=
  if o.face .front = f then .front
  else if o.face .right = f then .right
  else if o.face .back = f then .back
  else if o.face .left = f then .left
  else if o.face .top = f then .top
  else .bottom

/-- No face is at two sides. -/
theorem face_injective (o : Orientation) {s t : Side} (h : o.face s = o.face t) : s = t :=
  Six.nodup_toList_iff.1 o.nodup s t h

/-- The orientation after a clockwise quarter rotation. -/
def rotate (a : Axis) (o : Orientation) : Orientation where
  faces := Six.ofFn fun s => o.face (a.source s)
  nodup := by
    apply Six.nodup_toList_iff.2
    intro s t h
    rw [Six.get_ofFn, Six.get_ofFn] at h
    -- Different sides get their faces from different sides.
    exact a.source_injective (o.face_injective h)

def render (o : Orientation) : String := String.ofList (o.faces.toList.map Face.letter)

@[simp] theorem face_rotate (a : Axis) (o : Orientation) (s : Side) :
    (o.rotate a).face s = o.face (a.source s) :=
  Six.get_ofFn _ s

/-- Six faces at six sides leave none out. -/
theorem exists_face_eq (o : Orientation) (f : Face) : ∃ s, o.face s = f := by
  have hmem := Sixfold.mem_of_nodup o.nodup rfl f
  rw [Six.toList_eq_map, List.mem_map] at hmem
  obtain ⟨s, -, hs⟩ := hmem
  exact ⟨s, hs⟩

@[simp] theorem sideOf_face (o : Orientation) (s : Side) : o.sideOf (o.face s) = s := by
  -- Only at its own side is the face found.
  have hface : ∀ t, o.face t = o.face s ↔ t = s := by
    intro t
    exact ⟨o.face_injective, congrArg o.face⟩
  simp only [sideOf, hface]
  cases s <;> rfl

@[simp] theorem face_sideOf (o : Orientation) (f : Face) : o.face (o.sideOf f) = f := by
  obtain ⟨s, rfl⟩ := o.exists_face_eq f
  rw [sideOf_face]

/-- Only the side that it occupies shows a face. -/
theorem face_eq_iff {o : Orientation} {s : Side} {f : Face} : o.face s = f ↔ s = o.sideOf f := by
  constructor
  · rintro rfl
    exact (sideOf_face o s).symm
  · rintro rfl
    exact face_sideOf o f

/-- A search through the sides for a face always ends at one. -/
theorem find?_face_all (o : Orientation) (f : Face) :
    (Side.all.find? fun s => o.face s = f) = some (o.sideOf f) := by
  simp only [face_eq_iff]
  cases o.sideOf f <;> rfl

/-- An orientation is known from the faces at the sides. -/
theorem ext_face {o p : Orientation} (h : ∀ s, o.face s = p.face s) : o = p := by
  cases o
  cases p
  congr
  exact Six.ext_get h

end Orientation

end TwistyCube
