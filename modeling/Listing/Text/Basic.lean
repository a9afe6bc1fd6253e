/-!
# Texts

A text is a list of code points, so that splitting, searching and quoting are recursions on
lists. Texts are ordered by code point, position by position.
-/

namespace Listing

/-- A text: its code points in order. -/
abbrev Text := List Char

instance : Coe String Text := ⟨String.toList⟩

/-- Parts written one after the other with a separator between neighbours. -/
def joinWith (separator : Text) (parts : List Text) : Text :=
  separator.intercalate parts

/-- Whether `needle` occurs in the text as consecutive characters. The empty needle occurs
everywhere. -/
def occursIn (needle : Text) : Text → Bool
  | [] => needle.isEmpty
  | c :: rest => needle.isPrefixOf (c :: rest) || occursIn needle rest

/-- The decimal digits of a natural number, without leading zeros. -/
def natText (n : Nat) : Text :=
  Nat.toDigits 10 n

/-- The decimal digits of an integer, after a minus sign if it is negative. -/
def intText : Int → Text
  | .ofNat n => natText n
  | .negSucc n => '-' :: natText (n + 1)

/-- The greatest number of digits of an integer that is read or written. -/
def digitLimit : Nat := 4300

/-- Whether a text comes before another in the order of code points. -/
def precedes : Text → Text → Bool
  | _, [] => false
  | [], _ :: _ => true
  | a :: as, b :: bs => a.toNat < b.toNat || (a = b && precedes as bs)

/-- Insert a text into an ascending list, once. -/
def insertOnce (t : Text) : List Text → List Text
  | [] => [t]
  | u :: rest =>
    if t = u then u :: rest else if precedes t u then t :: u :: rest else u :: insertOnce t rest

/-- The distinct texts of a list in ascending order. -/
def sortedDistinct (ts : List Text) : List Text :=
  ts.foldr insertOnce []

/-- The first occurrences of the texts of a list, in order. -/
def distinctInOrder (ts : List Text) : List Text :=
  ts.foldl (fun kept t => if t ∈ kept then kept else kept ++ [t]) []

/-- The text before the first occurrence of a character, and the text after it if it occurs. -/
def cutAt (mark : Char) : Text → Text × Option Text
  | [] => ([], none)
  | c :: rest =>
    if c = mark then ([], some rest)
    else ((c :: (cutAt mark rest).1), (cutAt mark rest).2)

/-- Characters of ASCII satisfy what their 128 code points do. -/
theorem ascii_forall {P : Char → Prop} (all : ∀ n < 128, P (Char.ofNat n)) {c : Char}
    (ascii : c.toNat < 128) : P c := by
  have := all c.toNat ascii
  rwa [Char.ofNat_toNat] at this

/-- A text is cut at a character that does not occur before. -/
theorem cutAt_append {mark : Char} {t : Text} (h : mark ∉ t) (rest : Text) :
    cutAt mark (t ++ mark :: rest) = (t, some rest) := by
  induction t with
  | nil => simp [cutAt]
  | cons c more ih =>
    have apart : ¬ c = mark := fun same => h (same ▸ List.mem_cons_self)
    have later := ih fun hm => h (List.mem_cons_of_mem _ hm)
    rw [List.cons_append, cutAt, if_neg apart, later]

/-- A text without a character is not cut at it. -/
theorem cutAt_of_not_mem {mark : Char} {t : Text} (h : mark ∉ t) : cutAt mark t = (t, none) := by
  induction t with
  | nil => rfl
  | cons c more ih =>
    have apart : ¬ c = mark := fun same => h (same ▸ List.mem_cons_self)
    rw [cutAt, if_neg apart, ih fun hm => h (List.mem_cons_of_mem _ hm)]

/-- The character does not occur before the cut. -/
theorem not_mem_cutAt (mark : Char) (t : Text) : mark ∉ (cutAt mark t).1 := by
  induction t with
  | nil => simp [cutAt]
  | cons c rest ih =>
    unfold cutAt
    split
    · simp
    · next apart => simpa [ih] using fun same => apart same.symm

@[simp] theorem joinWith_nil (separator : Text) : joinWith separator [] = [] := by
  simp [joinWith]

@[simp] theorem joinWith_singleton (separator part : Text) :
    joinWith separator [part] = part := by
  simp [joinWith]

theorem joinWith_cons_cons (separator part next : Text) (more : List Text) :
    joinWith separator (part :: next :: more) =
      part ++ separator ++ joinWith separator (next :: more) := by
  simp [joinWith]

theorem joinWith_cons_ne_nil {separator part : Text} (filled : part ≠ []) (more : List Text) :
    joinWith separator (part :: more) ≠ [] := by
  cases more with
  | nil => rwa [joinWith_singleton]
  | cons next others =>
    rw [joinWith_cons_cons, List.append_assoc]
    exact List.append_ne_nil_of_left_ne_nil filled _

/-- A character of joined parts is of the separator or of a part. -/
theorem mem_joinWith {c : Char} {separator : Text} {parts : List Text}
    (h : c ∈ joinWith separator parts) : c ∈ separator ∨ ∃ part ∈ parts, c ∈ part := by
  induction parts with
  | nil => simp at h
  | cons part more ih =>
    cases more with
    | nil => exact .inr ⟨part, List.mem_cons_self, by simpa using h⟩
    | cons next others =>
      rw [joinWith_cons_cons] at h
      rcases List.mem_append.1 h with h | h
      · rcases List.mem_append.1 h with h | h
        · exact .inr ⟨part, List.mem_cons_self, h⟩
        · exact .inl h
      · rcases ih h with h | ⟨other, hother, h⟩
        · exact .inl h
        · exact .inr ⟨other, List.mem_cons_of_mem _ hother, h⟩

/-- A mark ends a part, whatever stands around it. -/
theorem splitOn_append_cons (s t : Text) (mark : Char) :
    (s ++ mark :: t).splitOn mark = s.splitOn mark ++ t.splitOn mark := by
  simp only [List.splitOn_eq_splitOnP]
  exact List.splitOnP_append_cons s t (beq_self_eq_true mark)

/-- No part between two marks has the mark. -/
theorem not_mem_of_mem_splitOn {mark : Char} {t part : Text} (h : part ∈ t.splitOn mark) :
    mark ∉ part := by
  induction t generalizing part with
  | nil =>
    rw [List.splitOn_nil, List.mem_singleton] at h
    simp [h]
  | cons c rest ih =>
    rw [List.splitOn_cons_eq_if_modifyHead] at h
    split at h
    · rcases List.mem_cons.1 h with rfl | h
      · exact List.not_mem_nil
      · exact ih h
    · next apart =>
      cases split : rest.splitOn mark with
      | nil => exact absurd split (List.splitOn_ne_nil _ _)
      | cons first more =>
        rw [split, List.modifyHead_cons] at h
        rcases List.mem_cons.1 h with rfl | h
        · intro hmark
          rcases List.mem_cons.1 hmark with same | hmark
          · exact apart (beq_iff_eq.2 same.symm)
          · exact ih (split ▸ List.mem_cons_self) hmark
        · exact ih (split ▸ List.mem_cons_of_mem first h)

theorem occursIn_iff (needle t : Text) : occursIn needle t = true ↔ needle <:+: t := by
  induction t with
  | nil => simp [occursIn]
  | cons c rest ih => simp [occursIn, ih, List.infix_cons_iff]

@[simp] theorem precedes_self (t : Text) : precedes t t = false := by
  induction t with
  | nil => rfl
  | cons c rest ih => simp [precedes, ih]

/-- Of two different texts exactly one comes first. -/
theorem precedes_total {s t : Text} (h : s ≠ t) : precedes t s = !precedes s t := by
  induction s generalizing t with
  | nil =>
    cases t with
    | nil => exact absurd rfl h
    | cons d rest => rfl
  | cons c more ih =>
    cases t with
    | nil => rfl
    | cons d rest =>
      by_cases hc : c = d
      · subst hc
        simpa [precedes] using ih fun same => h (by rw [same])
      · have apart : c.toNat ≠ d.toNat := fun same => hc (Char.toNat_inj.1 same)
        have swapped : ¬ d = c := fun same => hc same.symm
        simp only [precedes, hc, swapped, decide_false, Bool.false_and, Bool.or_false]
        by_cases below : c.toNat < d.toNat
        · simp [below, Nat.not_lt.2 (Nat.le_of_lt below)]
        · simp [below, Nat.lt_of_le_of_ne (Nat.not_lt.1 below) (Ne.symm apart)]

end Listing
