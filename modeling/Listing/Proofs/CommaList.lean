import Mathlib
import Listing.CommaList

/-!
# Splitting what was joined

A comma that does not follow a backslash separates, whatever stands around it: `piecesAfter_append`.
A text is a whole item if each of its commas follows a backslash. Whole items joined by commas
are split into the same items again, unless one that is not the last ends with a backslash:
`pieces_joinWith`. What splitting gives is of this kind: `pieces_facts`. Splitting and
unescaping together lose exactly the separators and the escapes: `length_splitFilters`. Both can be
put back, so that a text is its items, escaped and joined again: `joinWith_escape_splitFilters`.
-/

namespace Listing.CommaList

/-! ## Escapes -/

theorem unescape_cons {c : Char} {rest : Text} (apart : ¬ (c = '\\' ∧ rest.head? = some ',')) :
    unescape (c :: rest) = c :: unescape rest := by
  rw [unescape]
  rintro more rfl rfl
  exact apart ⟨rfl, rfl⟩

theorem escape_cons (c : Char) (rest : Text) :
    escape (c :: rest) = (if c = ',' then ['\\', ','] else [c]) ++ escape rest :=
  List.flatMap_cons

theorem head_escape (t : Text) : (escape t).head? ≠ some ',' := by
  cases t with
  | nil => simp [escape]
  | cons c rest =>
    rw [escape_cons]
    by_cases comma : c = ','
    · simp [comma]
    · simp [comma]

theorem unescape_escape (t : Text) : unescape (escape t) = t := by
  induction t with
  | nil => rfl
  | cons c rest ih =>
    rw [escape_cons]
    by_cases comma : c = ','
    · subst comma
      exact congrArg (',' :: ·) ih
    · rw [if_neg comma, List.singleton_append, unescape_cons, ih]
      rintro ⟨-, head⟩
      exact head_escape rest head

/-- Unescaping leaves what has no commas, and undoes the escapes after it. -/
theorem unescape_append_escape {plain : Text} (noComma : ',' ∉ plain) (t : Text) :
    unescape (plain ++ escape t) = plain ++ t := by
  induction plain with
  | nil => exact unescape_escape t
  | cons c rest ih =>
    have later : ',' ∉ rest := fun h => noComma (List.mem_cons_of_mem c h)
    rw [List.cons_append, unescape_cons, ih later, List.cons_append]
    rintro ⟨-, head⟩
    cases rest with
    | nil => exact head_escape t head
    | cons d more =>
      have same : d = ',' := Option.some.inj head
      exact later (same ▸ List.mem_cons_self)

theorem getLast?_escape (t : Text) : (escape t).getLast? = t.getLast? := by
  rcases List.eq_nil_or_concat t with rfl | ⟨before, c, rfl⟩
  · rfl
  · rw [escape, List.concat_eq_append, List.flatMap_append, List.flatMap_singleton]
    by_cases comma : c = ','
    · simp [comma]
    · simp [comma]

/-- Unescaping keeps the last character: the comma of an escape stays. -/
theorem getLast?_unescape (t : Text) : (unescape t).getLast? = t.getLast? := by
  fun_induction unescape t with
  | case1 => rfl
  | case2 rest ih =>
    rw [List.getLast?_cons, ih, List.getLast?_cons, List.getLast?_cons]
    rfl
  | case3 c rest _ ih => rw [List.getLast?_cons, ih, List.getLast?_cons]

/-! ## Whole items -/

/-- Whether every comma of a text follows a backslash, for a text that itself follows a backslash
or does not. -/
def whole (backslash : Bool) : Text → Bool
  | [] => true
  | c :: rest => (c ≠ ',' || backslash) && whole (c = '\\') rest

/-- Whether what stands after a text follows a backslash. -/
def trails (backslash : Bool) : Text → Bool
  | [] => backslash
  | c :: rest => trails (c = '\\') rest

theorem trails_eq (backslash : Bool) (t : Text) :
    trails backslash t = (t.getLast?.map fun c => decide (c = '\\')).getD backslash := by
  induction t generalizing backslash with
  | nil => rfl
  | cons c rest ih =>
    rw [trails, ih, List.getLast?_cons]
    cases rest.getLast? with
    | none => rfl
    | some d => rfl

theorem trails_false_iff {t : Text} : trails false t = false ↔ t.getLast? ≠ some '\\' := by
  rw [trails_eq]
  cases t.getLast? with
  | none => simp
  | some c => simp

theorem whole_append (backslash : Bool) (s t : Text) :
    whole backslash (s ++ t) = (whole backslash s && whole (trails backslash s) t) := by
  induction s generalizing backslash with
  | nil => rfl
  | cons c rest ih => rw [List.cons_append, whole, whole, ih, Bool.and_assoc]; rfl

theorem whole_of_not_mem (backslash : Bool) {t : Text} (noComma : ',' ∉ t) :
    whole backslash t = true := by
  induction t generalizing backslash with
  | nil => rfl
  | cons c rest ih =>
    have apart : c ≠ ',' := fun same => noComma (same ▸ List.mem_cons_self)
    rw [whole, ih _ fun h => noComma (List.mem_cons_of_mem c h)]
    simp [apart]

theorem whole_escape (backslash : Bool) (t : Text) : whole backslash (escape t) = true := by
  induction t generalizing backslash with
  | nil => rfl
  | cons c rest ih =>
    rw [escape_cons, whole_append, ih]
    by_cases comma : c = ','
    · simp [comma, whole]
    · simp [comma, whole]

/-- A whole text is one piece. -/
theorem piecesAfter_of_whole {backslash : Bool} {t : Text} (h : whole backslash t = true) :
    piecesAfter backslash t = [t] := by
  induction t generalizing backslash with
  | nil => rfl
  | cons c rest ih =>
    obtain ⟨kept, later⟩ := Bool.and_eq_true_iff.1 h
    have inside : ¬ (c = ',' ∧ (!backslash) = true) := by
      rintro ⟨rfl, unescaped⟩
      simp_all
    rw [piecesAfter, if_neg inside, ih later]

/-- A comma that does not follow a backslash separates, whatever stands on its two sides. -/
theorem piecesAfter_append {backslash : Bool} {s : Text} (closed : trails backslash s = false)
    (t : Text) :
    piecesAfter backslash (s ++ ',' :: t) = piecesAfter backslash s ++ piecesAfter false t := by
  -- On the first text: what splitting remembers at its end is what `trails` says of it.
  induction s generalizing backslash with
  | nil =>
    have outside : backslash = false := closed
    simp [piecesAfter, outside]
  | cons c rest ih =>
    rw [trails] at closed
    have later := ih closed
    rw [List.cons_append, piecesAfter, piecesAfter]
    by_cases separates : c = ',' ∧ (!backslash) = true
    · have apart : (decide (c = '\\')) = false := by simp [separates.1]
      rw [apart] at later
      rw [if_pos separates, if_pos separates, later, List.cons_append]
    · rw [if_neg separates, if_neg separates, later]
      cases first : piecesAfter (c = '\\') rest with
      | nil => exact absurd first (piecesAfter_ne_nil _ _)
      | cons piece more => rfl

/-- A comma after a whole text that does not end with a backslash separates. -/
theorem piecesAfter_append_comma {backslash : Bool} {t : Text} (h : whole backslash t = true)
    (closed : trails backslash t = false) (rest : Text) :
    piecesAfter backslash (t ++ ',' :: rest) = t :: piecesAfter false rest := by
  rw [piecesAfter_append closed, piecesAfter_of_whole h, List.singleton_append]

/-- Whole items that can stand before a separator come back from the joined text. The last one
may end with a backslash. -/
theorem pieces_joinWith {items : List Text} (present : items ≠ [])
    (wholes : ∀ t ∈ items, whole false t = true)
    (closed : items.Pairwise fun t _ => trails false t = false) :
    pieces (joinWith [','] items) = items := by
  -- On the items: the first comma that separates is the one after the first item.
  induction items with
  | nil => exact absurd rfl present
  | cons t more ih =>
    cases more with
    | nil =>
      rw [joinWith_singleton]
      exact piecesAfter_of_whole (wholes t List.mem_cons_self)
    | cons next others =>
      obtain ⟨first, later⟩ := List.pairwise_cons.1 closed
      have rest : pieces (joinWith [','] (next :: others)) = next :: others :=
        ih (List.cons_ne_nil _ _) (fun u hu => wholes u (List.mem_cons_of_mem t hu)) later
      rw [joinWith_cons_cons, List.append_assoc, List.singleton_append, pieces,
        piecesAfter_append_comma (wholes t List.mem_cons_self) (first next List.mem_cons_self)]
      exact congrArg (t :: ·) rest

/-- Joined to a text and split again, whole items are unescaped. -/
theorem splitFilters_joinWith {items : List Text} (filled : joinWith [','] items ≠ [])
    (wholes : ∀ t ∈ items, whole false t = true)
    (closed : items.Pairwise fun t _ => t.getLast? ≠ some '\\') :
    splitFilters (joinWith [','] items) = items.map unescape := by
  have present : items ≠ [] := by
    rintro rfl
    exact filled (joinWith_nil [','])
  have split : pieces (joinWith [','] items) = items :=
    pieces_joinWith present wholes (closed.imp fun {t} _ last => trails_false_iff.2 last)
  rw [splitFilters, if_neg (by simpa using filled), split]

/-! ## What splitting gives -/

/-- The pieces of a text are whole, and only the last can end with a backslash. The first one
stands where the text does. -/
theorem piecesAfter_facts {backslash : Bool} {t piece : Text} {more : List Text}
    (h : piecesAfter backslash t = piece :: more) :
    whole backslash piece = true ∧ (more ≠ [] → trails backslash piece = false) ∧
      (∀ u ∈ more, whole false u = true) ∧ more.Pairwise fun u _ => trails false u = false := by
  -- On the text: splitting remembers of what it has passed just what `whole` and `trails` do.
  induction t generalizing backslash piece more with
  | nil =>
    obtain ⟨rfl, rfl⟩ := List.cons.inj h
    simp [whole]
  | cons c rest ih =>
    rw [piecesAfter] at h
    by_cases separates : c = ',' ∧ (!backslash) = true
    · rw [if_pos separates] at h
      obtain ⟨rfl, after⟩ := List.cons.inj h
      have outside : backslash = false := by simpa using separates.2
      cases more with
      | nil => exact absurd after (piecesAfter_ne_nil _ _)
      | cons next others =>
        obtain ⟨nextWhole, nextClosed, wholes, closed⟩ := ih after
        refine ⟨rfl, fun _ => outside, ?_, ?_⟩
        · exact List.forall_mem_cons.2 ⟨nextWhole, wholes⟩
        · exact List.pairwise_cons.2 ⟨fun u hu => nextClosed (List.ne_nil_of_mem hu), closed⟩
    · rw [if_neg separates] at h
      cases after : piecesAfter (c = '\\') rest with
      | nil => exact absurd after (piecesAfter_ne_nil _ _)
      | cons inner others =>
        -- The character goes to the first piece of the rest, which follows it.
        rw [after] at h
        obtain ⟨rfl, rfl⟩ := List.cons.inj h
        obtain ⟨innerWhole, innerClosed, wholes, closed⟩ := ih after
        refine ⟨?_, innerClosed, wholes, closed⟩
        have kept : (c ≠ ',' || backslash) = true := by
          by_cases comma : c = ',' <;> simp_all
        rw [whole, innerWhole, Bool.and_true]
        exact kept

theorem pieces_facts (t : Text) : (∀ u ∈ pieces t, whole false u = true) ∧
    (pieces t).Pairwise fun u _ => trails false u = false := by
  cases split : pieces t with
  | nil => exact absurd split (piecesAfter_ne_nil _ _)
  | cons piece more =>
    obtain ⟨pieceWhole, pieceClosed, wholes, closed⟩ := piecesAfter_facts split
    exact ⟨List.forall_mem_cons.2 ⟨pieceWhole, wholes⟩,
      List.pairwise_cons.2 ⟨fun u hu => pieceClosed (List.ne_nil_of_mem hu), closed⟩⟩

/-- Only the last item of a list of filters can end with a backslash. -/
theorem splitFilters_closed (t : Text) :
    (splitFilters t).Pairwise fun u _ => u.getLast? ≠ some '\\' := by
  unfold splitFilters
  split
  · exact List.Pairwise.nil
  · refine List.pairwise_map.2 ((pieces_facts t).2.imp ?_)
    intro piece _ closed
    rw [getLast?_unescape]
    exact trails_false_iff.1 closed

/-! ## Putting the escapes back -/

/-- A whole text stays whole without its first character, unless this escapes a comma. -/
theorem whole_of_cons {c : Char} {rest : Text} (apart : ¬ (c = '\\' ∧ rest.head? = some ','))
    (h : whole false (c :: rest) = true) : c ≠ ',' ∧ whole false rest = true := by
  obtain ⟨kept, later⟩ := Bool.and_eq_true_iff.1 h
  refine ⟨by simpa using kept, ?_⟩
  cases rest with
  | nil => rfl
  | cons d more =>
    obtain ⟨head, tail⟩ := Bool.and_eq_true_iff.1 later
    have notComma : d ≠ ',' := by
      rintro rfl
      have slash : c = '\\' := by simpa using head
      exact apart ⟨slash, rfl⟩
    rw [whole, tail]
    simp [notComma]

/-- Escaping undoes the unescaping of a whole text: each of its commas had a backslash. -/
theorem escape_unescape {t : Text} (h : whole false t = true) : escape (unescape t) = t := by
  -- On the text as it is unescaped: an escape goes and comes in one step.
  fun_induction unescape t with
  | case1 => rfl
  | case2 rest ih =>
    have later : whole false rest = true := by simpa [whole] using h
    rw [escape_cons, if_pos rfl, ih later]
    rfl
  | case3 c rest unescaped ih =>
    have apart : ¬ (c = '\\' ∧ rest.head? = some ',') := by
      rintro ⟨slash, head⟩
      obtain ⟨more, rfl⟩ := List.head?_eq_some_iff.1 head
      exact unescaped more slash rfl
    obtain ⟨notComma, later⟩ := whole_of_cons apart h
    rw [escape_cons, if_neg notComma, ih later, List.singleton_append]

theorem map_escape_unescape_pieces (t : Text) :
    ((pieces t).map fun piece => escape (unescape piece)) = pieces t :=
  (List.map_congr_left fun piece hpiece =>
    escape_unescape ((pieces_facts t).1 piece hpiece)).trans (List.map_id _)

theorem splitFilters_eq_nil_iff {t : Text} : splitFilters t = [] ↔ t = [] := by
  unfold splitFilters
  cases t with
  | nil => simp
  | cons c rest => simpa [pieces] using piecesAfter_ne_nil false (c :: rest)

/-- The items of a text, escaped and joined again, are the text. -/
theorem joinWith_splitFilters (t : Text) :
    joinWith [','] ((splitFilters t).map escape) = t := by
  unfold splitFilters
  cases t with
  | nil => rfl
  | cons c rest =>
    rw [if_neg (by simp), List.map_map]
    show joinWith [','] ((pieces (c :: rest)).map fun piece => escape (unescape piece)) = _
    rw [map_escape_unescape_pieces]
    exact intercalate_piecesAfter false (c :: rest)

/-- Items that are escaped and joined to a text come back, if none but the last ends with a
backslash. -/
theorem splitFilters_joinWith_escape {items : List Text}
    (filled : joinWith [','] (items.map escape) ≠ [])
    (closed : items.Pairwise fun u _ => u.getLast? ≠ some '\\') :
    splitFilters (joinWith [','] (items.map escape)) = items := by
  have wholes : ∀ t ∈ items.map escape, whole false t = true := by
    intro t ht
    obtain ⟨item, -, rfl⟩ := List.mem_map.1 ht
    exact whole_escape false item
  have closedEscapes : (items.map escape).Pairwise fun t _ => t.getLast? ≠ some '\\' := by
    refine List.pairwise_map.2 (closed.imp fun {u} _ last => ?_)
    rw [getLast?_escape]
    exact last
  rw [splitFilters_joinWith filled wholes closedEscapes, List.map_map]
  exact (List.map_congr_left fun item _ => unescape_escape item).trans (List.map_id items)

/-- Splitting a list of filters loses no text: the items, escaped and joined again, are the text,
and every piece that splitting cuts is what unescaping and escaping make of it. No other items give
the text in this way, unless one of them that is not the last ends with a backslash. -/
theorem joinWith_escape_splitFilters (t : Text) :
    joinWith [','] ((splitFilters t).map escape) = t ∧
      ((pieces t).map fun piece => escape (unescape piece)) = pieces t ∧
      ∀ items : List Text, splitFilters t = items ↔
        joinWith [','] (items.map escape) = t ∧ (items = [] ↔ t = []) ∧
          items.Pairwise fun u _ => u.getLast? ≠ some '\\' := by
  refine ⟨joinWith_splitFilters t, map_escape_unescape_pieces t, fun items => ⟨?_, ?_⟩⟩
  · rintro rfl
    exact ⟨joinWith_splitFilters t, splitFilters_eq_nil_iff, splitFilters_closed t⟩
  · rintro ⟨rfl, empty, closed⟩
    by_cases present : items = []
    · rw [present]
      rfl
    · exact splitFilters_joinWith_escape (mt empty.2 present) closed

/-- A doubled backslash before a comma, two commas side by side, and a backslash at the end. -/
example : splitFilters "a\\\\,b,,\\,c\\".toList =
    ["a\\,b".toList, [], ",c\\".toList] := by
  decide

/-! ## Lengths -/

/-- The number of characters of a text that are not commas. -/
def solid (t : Text) : Nat :=
  t.countP (· ≠ ',')

theorem solid_append (s t : Text) : solid (s ++ t) = solid s + solid t :=
  List.countP_append

theorem solid_le_length (t : Text) : solid t ≤ t.length :=
  List.countP_le_length

/-- A text is as long as it is solid only without commas. -/
theorem solid_eq_length_iff {t : Text} : solid t = t.length ↔ ',' ∉ t := by
  rw [solid, List.countP_eq_length]
  constructor
  · intro all comma
    exact absurd rfl (of_decide_eq_true (all ',' comma))
  · intro none c hc
    apply decide_eq_true
    rintro rfl
    exact none hc

/-- Each comma of a text is paid for by its escape. -/
theorem solid_escape (t : Text) : solid (escape t) = t.length := by
  induction t with
  | nil => rfl
  | cons c rest ih =>
    rw [escape_cons, solid_append, ih]
    by_cases comma : c = ','
    · simp [comma, solid, Nat.add_comm]
    · simp [comma, solid, Nat.add_comm]

theorem solid_joinWith (parts : List Text) :
    solid (joinWith [','] parts) = (parts.map solid).sum := by
  induction parts with
  | nil => rfl
  | cons part more ih =>
    cases more with
    | nil => simp
    | cons next others =>
      have comma : solid [','] = 0 := rfl
      rw [joinWith_cons_cons, solid_append, solid_append, ih, comma, Nat.add_zero]
      rfl

theorem length_unescape {t : Text} (h : whole false t = true) :
    (unescape t).length = solid t := by
  rw [← solid_escape, escape_unescape h]

/-- The items of a list of filters have together as many characters as the list without its
commas: each comma is a separator or costs its backslash. -/
theorem length_splitFilters (t : Text) :
    ((splitFilters t).map List.length).sum = solid t := by
  unfold splitFilters
  cases t with
  | nil => rfl
  | cons c rest =>
    have joined : joinWith [','] (pieces (c :: rest)) = c :: rest :=
      intercalate_piecesAfter false (c :: rest)
    have lengths : (pieces (c :: rest)).map (List.length ∘ unescape) =
        (pieces (c :: rest)).map solid :=
      List.map_congr_left fun piece hpiece =>
        length_unescape ((pieces_facts (c :: rest)).1 piece hpiece)
    rw [if_neg (by simp), List.map_map, lengths, ← solid_joinWith, joined]

end Listing.CommaList
