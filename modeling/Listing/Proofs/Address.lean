import Listing.Address
import Listing.Proofs.QueryString

/-!
# Addresses under another query

An address that is written without its query and read back as it was keeps its other parts under
every query that is written for it (`read_text_withQuery`):

* **cuts** — the scheme and the host end before the query, so what is cut off for them does not
  depend on the query or the fragment (`cutScheme_append`, `cutHost_append`);
* **parts** — no part of an address that was read holds a mark that ends it (`ReadParts`);
* **start** — what was read from a cleaned text is written as a clean text (`clean_text`).
-/

namespace Listing.Address

/-! ## Cuts -/

/-- What may follow the path of an address: nothing, or a query or fragment after its mark. -/
def EndsPath (t : Text) : Prop :=
  ∀ c ∈ t.head?, c = '?' ∨ c = '#'

theorem endsPath_marks (query fragment : Text) :
    EndsPath (marked '?' query ++ marked '#' fragment) := by
  cases query with
  | nil =>
    cases fragment with
    | nil => intro c hc; cases hc
    | cons d more => intro c hc; cases hc; exact .inr rfl
  | cons d more => intro c hc; cases hc; exact .inl rfl

theorem cutAt_append_of_not_mem {mark : Char} {t : Text} (h : mark ∉ t) (rest : Text) :
    cutAt mark (t ++ rest) = (t ++ (cutAt mark rest).1, (cutAt mark rest).2) := by
  induction t with
  | nil => rfl
  | cons c more ih =>
    have apart : ¬ c = mark := fun same => h (same ▸ List.mem_cons_self)
    rw [List.cons_append, cutAt, if_neg apart, ih fun hm => h (List.mem_cons_of_mem _ hm)]
    rfl

theorem not_isScheme_of_mark (before rest : Text) {c : Char} (hc : c = '?' ∨ c = '#') :
    isScheme (before ++ c :: rest) = false := by
  have outside : isSchemeChar c = false := by rcases hc with rfl | rfl <;> decide
  have noLetter : c.isAlpha = false := by rcases hc with rfl | rfl <;> decide
  cases before with
  | nil => simp [isScheme, noLetter]
  | cons d more => simp [isScheme, outside]

/-- The scheme is cut off before the query and the fragment. -/
theorem cutScheme_append (t : Text) : ∃ scheme rest, rest <:+ t ∧
    ∀ tail, EndsPath tail → cutScheme (t ++ tail) = (scheme, rest ++ tail) := by
  -- A colon after the text makes no scheme, since a mark of the query or the fragment is before it.
  by_cases hm : ':' ∈ t
  · obtain ⟨before, after, rfl, fresh⟩ := List.eq_append_cons_of_mem hm
    have cut (tail : Text) : cutAt ':' (before ++ ':' :: after ++ tail) =
        (before, some (after ++ tail)) := by
      rw [List.append_assoc]
      exact cutAt_append fresh _
    by_cases named : isScheme before = true
    · refine ⟨before.map Char.toLower, after, ?_, ?_⟩
      · exact ⟨before ++ [':'], by simp⟩
      · intro tail _
        rw [cutScheme, cut]
        simp only [named, if_true]
    · refine ⟨[], before ++ ':' :: after, List.suffix_refl _, ?_⟩
      intro tail _
      rw [cutScheme, cut]
      simp only [named, Bool.false_eq_true, if_false]
  · refine ⟨[], t, List.suffix_refl t, ?_⟩
    intro tail ends
    rw [cutScheme, cutAt_append_of_not_mem hm]
    cases tail with
    | nil => rfl
    | cons c more =>
      have mark : c = '?' ∨ c = '#' := ends c rfl
      have apart : ¬ c = ':' := by rcases mark with rfl | rfl <;> decide
      have noScheme := not_isScheme_of_mark t (cutAt ':' more).1 mark
      rw [cutAt, if_neg apart]
      cases found : (cutAt ':' more).2 with
      | none => rfl
      | some rest => simp only [noScheme, Bool.false_eq_true, if_false]

theorem endsHost_of_endsPath {tail : Text} (ends : EndsPath tail) :
    ∀ c ∈ tail.head?, endsHost c = true := by
  intro c hc
  rcases ends c hc with rfl | rfl <;> decide

/-- The host is cut off before the query and the fragment. -/
theorem cutHost_append (t : Text) : ∃ host rest, rest <:+ t ∧
    ∀ tail, EndsPath tail → cutHost (t ++ tail) = (host, rest ++ tail) := by
  by_cases slashes : ∃ after, t = '/' :: '/' :: after
  · obtain ⟨after, rfl⟩ := slashes
    refine ⟨after.takeWhile fun c => !endsHost c, after.dropWhile fun c => !endsHost c, ?_, ?_⟩
    · exact (List.dropWhile_suffix _).trans ⟨['/', '/'], rfl⟩
    · intro tail ends
      have taken : tail.takeWhile (fun c => !endsHost c) = [] := by
        cases tail with
        | nil => rfl
        | cons c more => simp [endsHost_of_endsPath ends c rfl]
      have kept : tail.dropWhile (fun c => !endsHost c) = tail := by
        cases tail with
        | nil => rfl
        | cons c more => simp [endsHost_of_endsPath ends c rfl]
      show (List.takeWhile _ (after ++ tail), List.dropWhile _ (after ++ tail)) = _
      rw [List.takeWhile_append, List.dropWhile_append, taken, kept]
      refine Prod.ext ?_ ?_
      · show (if _ then _ else _) = _
        split
        · next whole =>
          rw [List.append_nil]
          exact ((List.takeWhile_prefix _).eq_of_length whole).symm
        · rfl
      · show (if _ then _ else _) = _
        split
        · next none => rw [List.isEmpty_iff.1 none, List.nil_append]
        · rfl
  · refine ⟨[], t, List.suffix_refl t, ?_⟩
    intro tail ends
    -- The end of the path has no slash, so the two slashes of a host would be in the text.
    unfold cutHost
    split
    · next rest same =>
      exfalso
      have noSlash : ∀ rest, tail ≠ '/' :: rest := by
        rintro rest rfl
        rcases ends '/' rfl with h | h <;> exact absurd h (by simp)
      match t, slashes, same with
      | [], _, same => exact noSlash _ same
      | [c], _, same => exact noSlash _ (List.cons.inj same).2
      | c :: d :: after, slashes, same =>
        have first : c = '/' := (List.cons.inj same).1
        have second : d = '/' := (List.cons.inj (List.cons.inj same).2).1
        exact slashes ⟨after, by rw [first, second]⟩
    · rfl

theorem cutAt_marked (mark : Char) (part : Text) :
    (cutAt mark (marked mark part)).1 = [] ∧
      ((cutAt mark (marked mark part)).2).getD [] = part := by
  cases part with
  | nil => exact ⟨rfl, rfl⟩
  | cons c more => simp [marked, cutAt]

/-- Reading, with every part by its cuts. -/
theorem read_eq (t : Text) :
    read t = (Host.check (cutHost (cutScheme (clean t)).2).1).map fun _ =>
      let afterHost := (cutHost (cutScheme (clean t)).2).2
      { scheme := (cutScheme (clean t)).1
        host := (cutHost (cutScheme (clean t)).2).1
        path := (cutAt '?' (cutAt '#' afterHost).1).1
        query := ((cutAt '?' (cutAt '#' afterHost).1).2).getD []
        fragment := ((cutAt '#' afterHost).2).getD [] } := by
  show (Host.check (cutHost (cutScheme (clean t)).2).1 >>= fun _ => Except.ok _) = _
  cases Host.check (cutHost (cutScheme (clean t)).2).1 <;> rfl

/-- A text that ends before its query is read alike under every query and fragment. -/
theorem read_append {t : Text} (noQuery : '?' ∉ t) (noFragment : '#' ∉ t) :
    ∃ scheme host path, ∀ query fragment, '#' ∉ query →
      clean (t ++ (marked '?' query ++ marked '#' fragment)) =
        t ++ (marked '?' query ++ marked '#' fragment) →
      read (t ++ (marked '?' query ++ marked '#' fragment)) =
        (Host.check host).map fun _ => ⟨scheme, host, path, query, fragment⟩ := by
  obtain ⟨scheme, rest, inText, schemeCut⟩ := cutScheme_append t
  obtain ⟨host, path, inRest, hostCut⟩ := cutHost_append rest
  refine ⟨scheme, host, path, ?_⟩
  intro query fragment plain cleaned
  have inPath {c : Char} (h : c ∈ path) : c ∈ t := inText.subset (inRest.subset h)
  have ends := endsPath_marks query fragment
  have noMark : '#' ∉ path ++ marked '?' query := by
    intro h
    rcases List.mem_append.1 h with h | h
    · exact noFragment (inPath h)
    · unfold marked at h
      split at h
      · cases h
      · rcases List.mem_cons.1 h with h | h
        · exact absurd h (by simp)
        · exact plain h
  have fragmentCut : cutAt '#' (path ++ (marked '?' query ++ marked '#' fragment)) =
      (path ++ marked '?' query, (cutAt '#' (marked '#' fragment)).2) := by
    rw [← List.append_assoc, cutAt_append_of_not_mem noMark, (cutAt_marked '#' fragment).1,
      List.append_nil]
  have queryCut : cutAt '?' (path ++ marked '?' query) =
      (path, (cutAt '?' (marked '?' query)).2) := by
    rw [cutAt_append_of_not_mem fun h => noQuery (inPath h), (cutAt_marked '?' query).1,
      List.append_nil]
  rw [read_eq, cleaned, schemeCut _ ends]
  simp only [hostCut _ ends, fragmentCut, queryCut, (cutAt_marked _ _).2]

/-! ## Parts -/

/-- Whether a character is one that reading drops anywhere. -/
def isDropped (c : Char) : Bool :=
  c = '\t' || c = '\r' || c = '\n'

theorem not_isDropped_of_mem_clean {c : Char} {t : Text} (h : c ∈ clean t) :
    isDropped c = false := by
  have kept := (List.mem_filter.1 h).2
  simpa [isDropped, and_assoc] using kept

theorem clean_eq_self {t : Text} (start : ∀ c ∈ t.head?, 0x20 < c.toNat)
    (kept : ∀ c ∈ t, isDropped c = false) : clean t = t := by
  have whole : t.dropWhile (fun c => decide (c.toNat ≤ 0x20)) = t := by
    cases t with
    | nil => rfl
    | cons c more => simp [Nat.not_le.2 (start c rfl)]
  rw [clean, whole]
  apply List.filter_eq_self.2
  intro c hc
  simpa [isDropped, and_assoc] using kept c hc

theorem head_clean {t : Text} {c : Char} (h : c ∈ (clean t).head?) : 0x20 < c.toNat := by
  have stop := List.head?_dropWhile_not (fun c => decide (c.toNat ≤ 0x20)) t
  unfold clean at h
  cases start : t.dropWhile (fun c => decide (c.toNat ≤ 0x20)) with
  | nil => rw [start] at h; cases h
  | cons d more =>
    rw [start] at h stop
    have large : 0x20 < d.toNat := Nat.not_le.1 (of_decide_eq_false stop)
    have kept : d ≠ '\t' ∧ d ≠ '\r' ∧ d ≠ '\n' := by
      refine ⟨?_, ?_, ?_⟩ <;> (rintro rfl; revert large; decide)
    rw [List.filter_cons_of_pos (by simpa using kept)] at h
    cases h
    exact large

theorem cutAt_isPrefix (mark : Char) (t : Text) : (cutAt mark t).1 <+: t := by
  induction t with
  | nil => exact List.nil_prefix
  | cons c rest ih =>
    unfold cutAt
    split
    · exact List.nil_prefix
    · exact List.cons_prefix_cons.2 ⟨rfl, ih⟩

theorem cutAt_isSuffix (mark : Char) (t : Text) : (cutAt mark t).2.getD [] <:+ t := by
  induction t with
  | nil => exact List.nil_suffix
  | cons c rest ih =>
    unfold cutAt
    split
    · exact List.suffix_cons c rest
    · exact ih.trans (List.suffix_cons c rest)

theorem cutHost_rest_suffix (t : Text) : (cutHost t).2 <:+ t := by
  obtain ⟨host, rest, inText, cut⟩ := cutHost_append t
  have alone := cut [] (by intro c hc; cases hc)
  simp only [List.append_nil] at alone
  rw [alone]
  exact inText

theorem cutScheme_rest_suffix (t : Text) : (cutScheme t).2 <:+ t := by
  obtain ⟨scheme, rest, inText, cut⟩ := cutScheme_append t
  have alone := cut [] (by intro c hc; cases hc)
  simp only [List.append_nil] at alone
  rw [alone]
  exact inText

theorem toLower_schemeChar {c : Char} (h : isSchemeChar c = true) :
    0x20 < c.toLower.toNat ∧ c.toLower ≠ '?' ∧ c.toLower ≠ '#' := by
  have ascii : c.toNat < 128 := by
    by_cases plus : c = '+'
    · subst plus; decide
    · refine (Form.isPlain_bounds ?_).1
      simp only [isSchemeChar, Bool.or_eq_true, decide_eq_true_eq, plus, or_false] at h
      rcases h with (h | h) | h <;> simp [Form.isPlain, h]
  revert h
  exact ascii_forall (P := fun c => isSchemeChar c = true →
    0x20 < c.toLower.toNat ∧ c.toLower ≠ '?' ∧ c.toLower ≠ '#') (by decide) ascii

/-- What is known of the parts of an address that was read: no mark that ends a part is in it,
and nothing that reading drops. -/
structure ReadParts (a : Address) : Prop where
  scheme : ∀ c ∈ a.scheme, 0x20 < c.toNat ∧ c ≠ '?' ∧ c ≠ '#'
  host : ∀ c ∈ a.host, isDropped c = false ∧ c ≠ '?' ∧ c ≠ '#'
  path : ∀ c ∈ a.path, isDropped c = false ∧ c ≠ '?' ∧ c ≠ '#'
  fragment : ∀ c ∈ a.fragment, isDropped c = false
  start : a.scheme = [] → a.host = [] → ∀ c ∈ a.path.head?, 0x20 < c.toNat

theorem cutScheme_cases (t : Text) :
    (∃ named, isScheme named = true ∧ (cutScheme t).1 = named.map Char.toLower) ∨
      cutScheme t = ([], t) := by
  unfold cutScheme
  split
  · next named rest _ =>
    by_cases h : isScheme named = true
    · exact .inl ⟨named, h, by simp [h]⟩
    · exact .inr (by simp [h])
  · exact .inr rfl

theorem cutHost_cases (t : Text) :
    (∃ after : Text, (cutHost t).1 = after.takeWhile (fun c => !endsHost c) ∧
      (cutHost t).2 = after.dropWhile (fun c => !endsHost c)) ∨ cutHost t = ([], t) := by
  unfold cutHost
  split
  · next after => exact .inl ⟨after, rfl, rfl⟩
  · exact .inr rfl

theorem isSchemeChar_of_mem {named : Text} (h : isScheme named = true) {c : Char} (hc : c ∈ named) :
    isSchemeChar c = true := by
  cases named with
  | nil => cases hc
  | cons d more =>
    simp only [isScheme, Bool.and_eq_true] at h
    rcases List.mem_cons.1 hc with rfl | hc
    · simp [isSchemeChar, Char.isAlphanum, h.1]
    · exact List.all_eq_true.1 h.2 c hc

theorem ne_nil_of_isScheme {named : Text} (h : isScheme named = true) : named ≠ [] := by
  rintro rfl
  cases h

theorem mem_of_mem_cutHost {c : Char} {t : Text} (h : c ∈ (cutHost t).1) : c ∈ t := by
  unfold cutHost at h
  split at h
  · exact List.mem_cons_of_mem _ (List.mem_cons_of_mem _ ((List.takeWhile_prefix _).subset h))
  · cases h

theorem scheme_marks {t : Text} {c : Char} (h : c ∈ (cutScheme t).1) :
    0x20 < c.toNat ∧ c ≠ '?' ∧ c ≠ '#' := by
  rcases cutScheme_cases t with ⟨named, isNamed, same⟩ | same
  · rw [same] at h
    obtain ⟨d, hd, rfl⟩ := List.mem_map.1 h
    exact toLower_schemeChar (isSchemeChar_of_mem isNamed hd)
  · rw [same] at h
    cases h

theorem host_marks {t : Text} {c : Char} (h : c ∈ (cutHost t).1) : c ≠ '?' ∧ c ≠ '#' := by
  rcases cutHost_cases t with ⟨after, same, -⟩ | same
  · rw [same] at h
    have inside : endsHost c = false := by simpa using List.all_eq_true.1 List.all_takeWhile c h
    simp only [endsHost, Bool.or_eq_false_iff, decide_eq_false_iff_not] at inside
    exact ⟨inside.1.2, inside.2⟩
  · rw [same] at h
    cases h

/-- What stands after a host starts with a mark that ends it, or is all of the text. -/
theorem head_afterHost {t : Text} {c : Char} (h : c ∈ (cutHost t).2.head?) :
    endsHost c = true ∨ c ∈ t.head? := by
  rcases cutHost_cases t with ⟨after, -, rest⟩ | same
  · rw [rest] at h
    have stop := List.head?_dropWhile_not (fun c => !endsHost c) after
    rw [show (after.dropWhile fun c => !endsHost c).head? = some c from h] at stop
    exact .inl (by simpa using stop)
  · rw [same] at h
    exact .inr h

theorem head_of_prefix {s t : Text} (h : s <+: t) {c : Char} (hc : c ∈ s.head?) : c ∈ t.head? := by
  obtain ⟨rest, rfl⟩ := h
  cases s with
  | nil => cases hc
  | cons d more => exact hc

theorem readParts {t : Text} {a : Address} (h : read t = .ok a) : ReadParts a := by
  rw [read_eq] at h
  obtain ⟨-, -, rfl⟩ := map_eq_ok_iff.1 h
  -- Host, path and fragment all come from the cleaned text.
  have afterScheme {c : Char} (hc : c ∈ (cutScheme (clean t)).2) : isDropped c = false :=
    not_isDropped_of_mem_clean ((cutScheme_rest_suffix _).subset hc)
  have afterHost {c : Char} (hc : c ∈ (cutHost (cutScheme (clean t)).2).2) : isDropped c = false :=
    afterScheme ((cutHost_rest_suffix _).subset hc)
  refine ⟨fun c hc => scheme_marks hc, ?_, ?_, ?_, ?_⟩
  · intro c hc
    exact ⟨afterScheme (mem_of_mem_cutHost hc), host_marks hc⟩
  · intro c hc
    have before := (cutAt_isPrefix '?' _).subset hc
    refine ⟨afterHost ((cutAt_isPrefix '#' _).subset before), ?_, ?_⟩
    · rintro rfl
      exact not_mem_cutAt '?' _ hc
    · rintro rfl
      exact not_mem_cutAt '#' _ before
  · intro c hc
    exact afterHost ((cutAt_isSuffix '#' _).subset hc)
  · intro noScheme noHost c hc
    have start := head_of_prefix ((cutAt_isPrefix '?' _).trans (cutAt_isPrefix '#' _)) hc
    -- Without a scheme nothing was cut off, so the path starts as the text does.
    have all : (cutScheme (clean t)).2 = clean t := by
      rcases cutScheme_cases (clean t) with ⟨named, isNamed, same⟩ | same
      · exact absurd (List.map_eq_nil_iff.1 (same.symm.trans noScheme)) (ne_nil_of_isScheme isNamed)
      · rw [same]
    rw [all] at start
    rcases head_afterHost start with ends | first
    · simp only [endsHost, Bool.or_eq_true, decide_eq_true_eq] at ends
      rcases ends with (rfl | rfl) | rfl <;> decide
    · exact head_clean first

/-! ## Start -/

/-- Scheme, host and path, as they are written before the query. -/
def base (a : Address) : Text :=
  (if a.scheme.isEmpty then [] else a.scheme ++ [':']) ++ a.location

theorem text_eq (a : Address) : a.text = a.base ++ (marked '?' a.query ++ marked '#' a.fragment) :=
  List.append_assoc ..

theorem mem_location {a : Address} {c : Char} (h : c ∈ a.location) :
    c = '/' ∨ c ∈ a.host ∨ c ∈ a.path := by
  unfold location at h
  split at h
  · rcases List.mem_append.1 h with h | h
    · rcases List.mem_append.1 h with h | h
      · rcases List.mem_append.1 h with h | h
        · simp only [List.mem_cons, List.not_mem_nil, or_false, or_self] at h
          exact .inl h
        · exact .inr (.inl h)
      · split at h
        · cases h
        · exact .inl (List.mem_singleton.1 h)
    · exact .inr (.inr h)
  · exact .inr (.inr h)

theorem mem_base {a : Address} (parts : ReadParts a) {c : Char} (h : c ∈ a.base) :
    isDropped c = false ∧ c ≠ '?' ∧ c ≠ '#' := by
  rcases List.mem_append.1 h with h | h
  · split at h
    · cases h
    · rcases List.mem_append.1 h with h | h
      · obtain ⟨large, marks⟩ := parts.scheme c h
        refine ⟨?_, marks⟩
        simp only [isDropped, Bool.or_eq_false_iff, decide_eq_false_iff_not]
        refine ⟨⟨?_, ?_⟩, ?_⟩ <;> (rintro rfl; revert large; decide)
      · rw [List.mem_singleton.1 h]
        decide
  · rcases mem_location h with rfl | h | h
    · decide
    · exact parts.host c h
    · exact parts.path c h

theorem head_base {a : Address} (parts : ReadParts a) : ∀ c ∈ a.base.head?, 0x20 < c.toNat := by
  intro c hc
  unfold base at hc
  cases named : a.scheme with
  | cons d more =>
    rw [named] at hc
    cases hc
    exact (parts.scheme c (by rw [named]; exact List.mem_cons_self)).1
  | nil =>
    rw [named] at hc
    have plain : a.location.head? = some c := hc
    unfold location at plain
    split at plain
    · cases plain
      decide
    · next hidden =>
      have noHost : a.host = [] := by
        simp only [showsHost, Bool.or_eq_true, not_or, Bool.not_eq_true',
          Bool.not_eq_true] at hidden
        simpa using hidden.1
      exact parts.start named noHost c plain

theorem mem_marked {mark : Char} {part : Text} {c : Char} (h : c ∈ marked mark part) :
    c = mark ∨ c ∈ part := by
  unfold marked at h
  split at h
  · cases h
  · exact List.mem_cons.1 h

/-- The text of an address that was read is clean under every clean query. -/
theorem clean_text {a : Address} (parts : ReadParts a) {query : Text}
    (kept : ∀ c ∈ query, isDropped c = false) :
    clean (a.base ++ (marked '?' query ++ marked '#' a.fragment)) =
      a.base ++ (marked '?' query ++ marked '#' a.fragment) := by
  refine clean_eq_self ?_ ?_
  · intro c hc
    cases written : a.base with
    | cons d more =>
      rw [written] at hc
      exact head_base parts c (by rw [written]; exact hc)
    | nil =>
      rw [written] at hc
      rcases endsPath_marks query a.fragment c hc with rfl | rfl <;> decide
  · intro c hc
    rcases List.mem_append.1 hc with hc | hc
    · exact (mem_base parts hc).1
    · rcases List.mem_append.1 hc with hc | hc
      · rcases mem_marked hc with rfl | hc
        · decide
        · exact kept c hc
      · rcases mem_marked hc with rfl | hc
        · decide
        · exact parts.fragment c hc

/-! ## The law -/

/-- Written without its query and read back, an address is as it was. -/
def Survives (a : Address) : Prop :=
  read ({ a with query := [] } : Address).text = .ok { a with query := [] }

theorem isQueryChar_facts {c : Char} (h : Form.isQueryChar c = true) :
    isDropped c = false ∧ c ≠ '#' ∧ c ≠ ':' := by
  have ascii : c.toNat < 128 := by
    by_cases plain : Form.isPlain c = true
    · exact (Form.isPlain_bounds plain).1
    · simp only [Form.isQueryChar, plain, Bool.false_or, Bool.or_eq_true, decide_eq_true_eq] at h
      rcases h with ((rfl | rfl) | rfl) | rfl <;> decide
  revert h
  exact ascii_forall (P := fun c => Form.isQueryChar c = true →
    isDropped c = false ∧ c ≠ '#' ∧ c ≠ ':')
    (by decide) ascii

/-- An address that survives keeps its parts under every query of written characters. -/
theorem read_text_withQuery {t : Text} {a : Address} (h : read t = .ok a) (survives : a.Survives)
    {query : Text} (written : ∀ c ∈ query, Form.isQueryChar c = true) :
    read ({ a with query := query } : Address).text = .ok { a with query := query } := by
  have parts := readParts h
  obtain ⟨scheme, host, path, alike⟩ := read_append (t := a.base)
    (fun hm => (mem_base parts hm).2.1 rfl) (fun hm => (mem_base parts hm).2.2 rfl)
  have bare := alike [] a.fragment (fun hm => by cases hm) (clean_text parts (by simp))
  have asked := alike query a.fragment (fun hm => (isQueryChar_facts (written _ hm)).2.1 rfl)
    (clean_text parts fun c hc => (isQueryChar_facts (written c hc)).1)
  unfold Survives at survives
  rw [text_eq] at survives ⊢
  obtain ⟨_, checked, same⟩ := map_eq_ok_iff.1 (bare.symm.trans survives)
  refine asked.trans (map_eq_ok_iff.2 ⟨_, checked, ?_⟩)
  obtain ⟨rfl, rfl, rfl⟩ : scheme = a.scheme ∧ host = a.host ∧ path = a.path := by
    simpa using same
  rfl

/-- A written query after its mark is an address with nothing else. -/
theorem read_queryOnly {query : Text} (written : ∀ c ∈ query, Form.isQueryChar c = true) :
    read ('?' :: query) = .ok { query } := by
  have facts : ∀ c ∈ '?' :: query, isDropped c = false ∧ c ≠ '#' ∧ c ≠ ':' := by
    intro c hc
    rcases List.mem_cons.1 hc with rfl | hc
    · decide
    · exact isQueryChar_facts (written c hc)
  have cleaned : clean ('?' :: query) = '?' :: query := by
    refine clean_eq_self ?_ fun c hc => (facts c hc).1
    intro c hc
    obtain rfl : '?' = c := Option.some.inj hc
    decide
  have noScheme : cutScheme ('?' :: query) = ([], '?' :: query) := by
    rw [cutScheme, cutAt_of_not_mem fun hm => (facts _ hm).2.2 rfl]
  have noFragment : cutAt '#' ('?' :: query) = ('?' :: query, none) :=
    cutAt_of_not_mem fun hm => (facts _ hm).2.1 rfl
  have queryCut : cutAt '?' ('?' :: query) = ([], some query) := cutAt_append List.not_mem_nil query
  have noHost : cutHost ('?' :: query) = ([], '?' :: query) := rfl
  rw [read_eq, cleaned, noScheme]
  simp only [noHost, noFragment, queryCut]
  rfl

end Listing.Address
