import TwistyCube.Proofs.Undo

/-!
# Reading while performing

A list of items is read in two ways.  A performance reads an item when all moves before it have been
performed, and ends at the first item that cannot be read.  `List.mapM` reads all items before
anything is done, and answers with the moves or with the fault of the first item that cannot be
read.  Both find the same moves and the same fault, and the lazy way leaves on the cube what the
moves before the fault do.

Main result: `Cube.applyWords_or_stops`.
-/

namespace TwistyCube

universe u v w

variable {α : Type u} {ι : Type v}

/-! ## Written moves -/

namespace Move

/-- A text is read as a move exactly if it is the written form of that move. -/
theorem parse_eq_ok_iff {text : String} {m : Move} : parse text = .ok m ↔ text = m.render := by
  unfold parse
  constructor
  · intro h
    split at h
    · next n hn =>
      obtain rfl : n = m := Except.ok.inj h
      rw [render, ← ofChars?_eq_some_iff.1 hn, String.ofList_toList]
    · cases h
  · rintro rfl
    have h : ofChars? m.render.toList = some m := by
      rw [ofChars?_eq_some_iff, render, String.toList_ofList]
    rw [h]

/-- A text that is not read as a move is the written form of none, and is reported as it stands. -/
theorem parse_eq_error {text : String} {e : MoveError} (h : parse text = .error e) :
    e = .unknown text ∧ ∀ m : Move, m.render ≠ text := by
  refine ⟨?_, ?_⟩
  · unfold parse at h
    split at h
    · cases h
    · exact (Except.error.inj h).symm
  · intro m hm
    -- If it were the written form of a move, it would have been read.
    rw [parse_eq_ok_iff.2 hm.symm] at h
    cases h

end Move

/-- Texts are read as the moves of an algorithm if they are the written forms of its moves. -/
theorem Algorithm.map_parse_eq_iff {texts : List String} {a : Algorithm} :
    texts.map Move.parse = a.map Except.ok ↔ texts = a.map Move.render := by
  -- Both lists are taken apart together, one text for each move.
  induction a generalizing texts with
  | nil => simp
  | cons m a ih =>
    cases texts with
    | nil => simp
    | cons text texts => simp [ih, Move.parse_eq_ok_iff]

/-! ## Items that can be read and items that cannot -/

section Items

variable {ε : Type u} {β : Type w} {read : ι → Except ε β}

/-- Either all items can be read, or there is a first that cannot. -/
theorem exists_readable_or_fault (read : ι → Except ε β) (items : List ι) :
    (∃ values : List β, items.map read = values.map Except.ok) ∨
      ∃ (before : List ι) (values : List β) (item : ι) (rest : List ι) (e : ε),
        items = before ++ item :: rest ∧ before.map read = values.map Except.ok ∧
          read item = .error e := by
  induction items with
  | nil => exact .inl ⟨[], rfl⟩
  | cons item items ih =>
    cases hitem : read item with
    -- The first fault is here, so nothing is known or needed of the items behind it.
    | error e => exact .inr ⟨[], [], item, items, e, rfl, rfl, hitem⟩
    | ok b =>
      -- This item can be read, so what is found behind it is moved back by one place.
      rcases ih with ⟨values, hvalues⟩ | ⟨before, values, bad, rest, e, rfl, hvalues, hbad⟩
      · exact .inl ⟨b :: values, by simp [hitem, hvalues]⟩
      · exact .inr ⟨item :: before, b :: values, bad, rest, e, rfl, by simp [hitem, hvalues], hbad⟩

/-- All items can be read together exactly if each of them can be read. -/
theorem exists_readable_iff {items : List ι} :
    (∃ values : List β, items.map read = values.map Except.ok) ↔
      ∀ item ∈ items, ∃ b, read item = .ok b := by
  constructor
  · rintro ⟨values, hvalues⟩ item hitem
    have hmem : read item ∈ values.map Except.ok := hvalues ▸ List.mem_map_of_mem hitem
    obtain ⟨b, -, hb⟩ := List.mem_map.1 hmem
    exact ⟨b, hb.symm⟩
  · -- The values are collected from the back, one for each item.
    intro hall
    induction items with
    | nil => exact ⟨[], rfl⟩
    | cons item items ih =>
      obtain ⟨⟨b, hb⟩, hall⟩ := List.forall_mem_cons.1 hall
      obtain ⟨values, hvalues⟩ := ih hall
      exact ⟨b :: values, by simp [hb, hvalues]⟩

/-- Each item is read as one value. -/
theorem length_eq_of_readable {items : List ι} {values : List β}
    (h : items.map read = values.map Except.ok) : values.length = items.length := by
  have hlength := congrArg List.length h
  rw [List.length_map, List.length_map] at hlength
  exact hlength.symm

/-- Reading all items in advance answers with what they are read as. -/
theorem mapM_readable {items : List ι} {values : List β}
    (h : items.map read = values.map Except.ok) : items.mapM read = .ok values := by
  -- The induction is on what is read, since it says how many items there are and that each can be
  -- read.
  induction values generalizing items with
  | nil =>
    obtain rfl : items = [] := List.map_eq_nil_iff.1 h
    rfl
  | cons b values ih =>
    obtain ⟨item, items, rfl, hitem, hitems⟩ := List.map_eq_cons_iff.1 h
    rw [List.mapM_cons, hitem, ih hitems]
    rfl

/-- Reading all items in advance fails with the fault of the first that cannot be read. -/
theorem mapM_fault {before : List ι} {values : List β}
    (h : before.map read = values.map Except.ok) {item : ι} {e : ε}
    (hitem : read item = .error e) (rest : List ι) :
    (before ++ item :: rest).mapM read = .error e := by
  -- The items before the fault are read, the fault ends the reading, and the items behind it are
  -- never looked at.
  rw [List.mapM_append, mapM_readable h, List.mapM_cons, hitem]
  rfl

/-- Reading all items in advance succeeds exactly if each of them can be read. -/
theorem mapM_eq_ok_iff {items : List ι} {values : List β} :
    items.mapM read = .ok values ↔ items.map read = values.map Except.ok := by
  refine ⟨?_, mapM_readable⟩
  intro hok
  rcases exists_readable_or_fault read items with
    ⟨found, hfound⟩ | ⟨before, found, item, rest, e, rfl, hfound, he⟩
  · rw [mapM_readable hfound] at hok
    rw [hfound, Except.ok.inj hok]
  · -- A fault anywhere would have been the answer.
    rw [mapM_fault hfound he] at hok
    cases hok

/-- It fails exactly if there is a first item that cannot be read, and with the fault of that. -/
theorem mapM_eq_error_iff {items : List ι} {e : ε} :
    items.mapM read = .error e ↔
      ∃ (before : List ι) (values : List β) (item : ι) (rest : List ι),
        items = before ++ item :: rest ∧ before.map read = values.map Except.ok ∧
          read item = .error e := by
  constructor
  · intro herror
    rcases exists_readable_or_fault read items with
      ⟨found, hfound⟩ | ⟨before, found, item, rest, f, rfl, hfound, hf⟩
    · -- Items that can all be read would have been the answer.
      rw [mapM_readable hfound] at herror
      cases herror
    · rw [mapM_fault hfound hf] at herror
      obtain rfl := Except.error.inj herror
      exact ⟨before, found, item, rest, rfl, hfound, hf⟩
  · rintro ⟨before, values, item, rest, rfl, hbefore, hitem⟩
    exact mapM_fault hbefore hitem rest

end Items

/-! ## Performing what is read -/

namespace Cube

variable {read : ι → Except MoveError Move}

/-- Items that can all be read are performed as the moves that they are read as. -/
theorem applyItems_readable {items : List ι} {a : Algorithm}
    (h : items.map read = a.map Except.ok) (c : Cube α) :
    c.applyItems read items = c.applyMoves a := by
  unfold applyMoves applyItems
  have hrun := Config.run_readable h [] (.start c)
  rw [List.append_nil, Config.run_done] at hrun
  rw [hrun, Config.run_moves]

/-- An item that cannot be read ends the performance after the moves before it.  What comes after
it makes no difference. -/
theorem applyItems_fault {before : List ι} {a : Algorithm}
    (h : before.map read = a.map Except.ok) {item : ι} {e : MoveError}
    (hitem : read item = .error e) (rest : List ι) (c : Cube α) :
    c.applyItems read (before ++ item :: rest) = (c.applyMoves a).refuse e := by
  unfold applyMoves applyItems
  -- The moves before the fault are received, and then the run is at the item that cannot be read.
  rw [Config.run_readable h, Config.run_input_error hitem, Config.run_moves]

theorem fault_applyMoves (a : Algorithm) (c : Cube α) : (c.applyMoves a).fault = none := by
  rw [applyMoves, applyItems, Config.run_moves]

theorem taken_applyMoves (a : Algorithm) (c : Cube α) : (c.applyMoves a).taken = a.length := by
  rw [applyMoves, applyItems, Config.run_moves]
  exact (Progress.taken_foldl_receive _ a).trans (Nat.zero_add _)

/-- The texts are the written forms of the moves of an algorithm, and all of them are performed. -/
structure Completes (c : Cube α) (texts : List String) (a : Algorithm) : Prop where
  texts_eq : texts = a.map Move.render
  fault : (c.applyWords texts).fault = none
  taken : (c.applyWords texts).taken = texts.length
  cube : (c.applyWords texts).cube = c.after a

/-- The texts begin with the written forms of the moves of an algorithm, and then comes a text that
is the written form of no move.  The moves are performed, the text is reported, and nothing after
it is looked at. -/
structure StopsAt (c : Cube α) (texts : List String) (a : Algorithm) (bad : String)
    (rest : List String) : Prop where
  texts_eq : texts = a.map Move.render ++ bad :: rest
  not_move : ∀ m : Move, m.render ≠ bad
  fault : (c.applyWords texts).fault = some (.unknown bad)
  taken : (c.applyWords texts).taken = a.length + 1
  cube : (c.applyWords texts).cube = c.after a
  /-- The inverse of the moves that have been performed restores the cube. -/
  undo : (c.applyWords texts).cube.after a.inverse = c
  unread : ∀ others,
    c.applyWords (a.map Move.render ++ bad :: others) = c.applyWords texts

/-- The written forms of the moves of an algorithm are all performed. -/
theorem completes_of_render (a : Algorithm) (c : Cube α) :
    c.Completes (a.map Move.render) a := by
  -- Everything that is asked of the texts is known of the moves themselves.
  have hperformed : c.applyWords (a.map Move.render) = c.applyMoves a :=
    applyItems_readable (Algorithm.map_parse_eq_iff.2 rfl) c
  constructor
  · rfl
  · rw [hperformed, fault_applyMoves]
  · rw [hperformed, taken_applyMoves, List.length_map]
  · rw [hperformed]
    rfl

/-- A text that cannot be read ends the performance after the written moves before it. -/
theorem stopsAt_of_parse_error (a : Algorithm) {bad : String} {e : MoveError}
    (h : Move.parse bad = .error e) (rest : List String) (c : Cube α) :
    c.StopsAt (a.map Move.render ++ bad :: rest) a bad rest := by
  -- What stands behind the bad text is kept general here, since nothing may depend on it.
  have hperformed : ∀ others, c.applyWords (a.map Move.render ++ bad :: others) =
      (c.applyMoves a).refuse e := by
    intro others
    exact applyItems_fault (Algorithm.map_parse_eq_iff.2 rfl) h others c
  obtain ⟨rfl, hbad⟩ := Move.parse_eq_error h
  -- A refusal leaves the cube as it is, so only the moves before the bad text have changed it.
  have hcube : (c.applyWords (a.map Move.render ++ bad :: rest)).cube = c.after a := by
    rw [hperformed]
    rfl
  constructor
  · rfl
  · exact hbad
  · rw [hperformed]
    rfl
  · -- The bad text has been taken too, and is counted with the moves.
    rw [hperformed]
    exact congrArg (· + 1) (taken_applyMoves a c)
  · exact hcube
  · rw [hcube, after_inverse]
  · intro others
    rw [hperformed, hperformed]

/-- A text is performed as the algorithm that is read from it, or else with the very fault that
reading it in advance has. -/
theorem applyText_eq_parse (text : String) (c : Cube α) :
    match Algorithm.parse text with
    | .ok a => c.applyText text = c.applyMoves a
    | .error e => (c.applyText text).fault = some e := by
  unfold Algorithm.parse applyText applyWords
  -- The words of the text decide it: the lazy way and the way in advance are compared once where
  -- all can be read and once where there is a first fault.
  rcases exists_readable_or_fault Move.parse (Text.words text) with
    ⟨a, ha⟩ | ⟨before, a, bad, rest, e, hwords, ha, hbad⟩
  · rw [mapM_readable ha]
    exact applyItems_readable ha c
  · rw [hwords, mapM_fault ha hbad]
    show (c.applyItems Move.parse (before ++ bad :: rest)).fault = some e
    rw [applyItems_fault ha hbad]
    rfl

/-- Texts are performed up to the first that is no move: either there is none, and the outcome is
that of the algorithm they write, or it is reported, and the moves before it stay performed.  Of a
text with many words, performing succeeds exactly when reading does, with the effect of the
algorithm that is read, and fails with the fault of reading otherwise. -/
theorem applyWords_or_stops (texts : List String) (text : String) (c : Cube α) :
    ((∃ a, c.Completes texts a) ∨ ∃ a bad rest, c.StopsAt texts a bad rest) ∧
      match Algorithm.parse text with
      | .ok a => (c.applyText text).fault = none ∧ (c.applyText text).cube = c.after a
      | .error e => (c.applyText text).fault = some e := by
  constructor
  · -- The texts before the first fault are the written forms of what they are read as.
    rcases exists_readable_or_fault Move.parse texts with
      ⟨a, ha⟩ | ⟨before, a, bad, rest, e, rfl, ha, hbad⟩
    · obtain rfl := Algorithm.map_parse_eq_iff.1 ha
      exact .inl ⟨a, completes_of_render a c⟩
    · obtain rfl := Algorithm.map_parse_eq_iff.1 ha
      exact .inr ⟨a, bad, rest, stopsAt_of_parse_error a hbad rest c⟩
  · -- Performing a text goes as reading it in advance does.
    have htext := applyText_eq_parse text c
    cases hparse : Algorithm.parse text with
    | ok a =>
      rw [hparse] at htext
      rw [htext]
      exact ⟨fault_applyMoves a c, rfl⟩
    | error e =>
      rw [hparse] at htext
      exact htext

end Cube

end TwistyCube
