import Mathlib
import Listing.Form

/-!
# Query strings read back

Writing pairs as a query string and reading it gives the pairs again, for all texts:

* **characters** — the pieces of an encoded character are its octets (`piecesOf_encodeChar`), and
  its octets decode to it whatever follows (`decodeFrom_utf8`);
* **fields** — no encoded text has a separator in it (`not_mem_encode`), so a written field is cut
  where it was joined (`readField_encodePair`);
* **strings** — `read_write`, and `write_isQueryChar`: a written query string has no character
  that ends the query of an address.
-/

namespace Listing.Form

/-! ## Characters -/

theorem hexValue?_hexDigit {n : Nat} (h : n < 16) : hexValue? (hexDigit n) = some n := by
  revert h n
  decide

theorem octet_lt_of_mem_utf8 {c : Char} {b : Nat} (h : b ∈ utf8 c) : b < 256 := by
  have bound : c.toNat < 0x110000 := by
    rcases c.valid with small | ⟨_, large⟩
    · exact Nat.lt_trans small (by decide)
    · exact large
  simp only [utf8] at h
  split at h
  · simp only [List.mem_singleton] at h
    omega
  · split at h
    · simp only [List.mem_cons, List.not_mem_nil, or_false] at h
      omega
    · split at h <;> simp only [List.mem_cons, List.not_mem_nil, or_false] at h <;> omega

/-- A character that is written as it is lies in ASCII and has no part in the syntax. -/
theorem isPlain_bounds {c : Char} (h : isPlain c = true) :
    c.toNat < 0x80 ∧ c ≠ '%' ∧ c ≠ '+' ∧ c ≠ '&' ∧ c ≠ '=' := by
  simp only [isPlain, Char.isAlphanum, Char.isAlpha, Char.isUpper, Char.isLower, Char.isDigit,
    Bool.or_eq_true, Bool.and_eq_true, decide_eq_true_eq] at h
  have ascii : c.toNat < 0x80 := by
    rcases h with ((((h | h) | h) | h) | h)
    · simp only [Char.toNat, UInt32.le_iff_toNat_le, ge_iff_le] at h ⊢
      rcases h with (h | h) | h
      · exact Nat.lt_of_le_of_lt h.2 (by decide)
      · exact Nat.lt_of_le_of_lt h.2 (by decide)
      · exact Nat.lt_of_le_of_lt h.2 (by decide)
    all_goals (subst h; decide)
  refine ⟨ascii, ?_, ?_, ?_, ?_⟩ <;> (rintro rfl; revert h; decide)

/-- The escapes of octets are read as these octets. -/
theorem piecesOf_escapes (octets : List Nat) (bounded : ∀ b ∈ octets, b < 256) (rest : Text) :
    piecesOf (octets.flatMap escapeOctet ++ rest) = octets.map Piece.octet ++ piecesOf rest := by
  induction octets with
  | nil => rfl
  | cons b more ih =>
    have hb : b < 256 := bounded b List.mem_cons_self
    have high := hexValue?_hexDigit (show b / 16 < 16 by omega)
    have low := hexValue?_hexDigit (show b % 16 < 16 by omega)
    have value : 16 * (b / 16) + b % 16 = b := by omega
    rw [List.flatMap_cons, List.append_assoc]
    show piecesOf ('%' :: hexDigit (b / 16) :: hexDigit (b % 16) ::
      (more.flatMap escapeOctet ++ rest)) = _
    rw [piecesOf, high, low]
    simp only [value]
    rw [ih fun x hx => bounded x (List.mem_cons_of_mem _ hx)]
    rfl

/-- An encoded character is read as the octets of the character. -/
theorem piecesOf_encodeChar (c : Char) (rest : Text) :
    piecesOf (encodeChar c ++ rest) = (utf8 c).map Piece.octet ++ piecesOf rest := by
  unfold encodeChar
  split
  · next plain =>
    obtain ⟨ascii, notPercent, notPlus, -, -⟩ := isPlain_bounds plain
    have octets : utf8 c = [c.toNat] := by simp [utf8, ascii]
    have piece : plainPiece c = .octet c.toNat := by simp [plainPiece, notPlus, ascii]
    -- The equation for a character that is no percent sign does not apply before this is known.
    rw [octets, List.singleton_append, piecesOf.eq_def]
    split
    · next heq => exact absurd (List.cons.inj heq).1 notPercent
    · next heq =>
      obtain ⟨rfl, rfl⟩ := List.cons.inj heq
      rw [piece]
      rfl
    · next heq => exact absurd heq (List.cons_ne_nil _ _)
  · split
    · next space =>
      subst space
      rfl
    · exact piecesOf_escapes (utf8 c) (fun b hb => octet_lt_of_mem_utf8 hb) rest

theorem piecesOf_encode (t rest : Text) :
    piecesOf (encode t ++ rest) = (t.flatMap utf8).map Piece.octet ++ piecesOf rest := by
  induction t with
  | nil => rfl
  | cons c more ih =>
    show piecesOf (encodeChar c ++ encode more ++ rest) = _
    rw [List.append_assoc, piecesOf_encodeChar, ih, List.flatMap_cons, List.map_append,
      List.append_assoc]

/-- An octet within the bounds of a character begun goes on with it. -/
theorem next_of_within {begun : Begun} {b : Nat} (low : begun.least ≤ b)
    (high : b ≤ begun.greatest) :
    next begun b =
      if begun.owed ≤ 1 then ([Char.ofNat (begun.bits * 64 + (b - 0x80))], none)
      else ([], some ⟨begun.owed - 1, 0x80, 0xBF, begun.bits * 64 + (b - 0x80)⟩) := by
  unfold next
  rw [if_pos ⟨low, high⟩]

/-- The last octet of a character gives it. -/
theorem decodeFrom_last {bits n : Nat} {least greatest b : Nat} (low : least ≤ b)
    (high : b ≤ greatest) (sum : bits * 64 + (b - 0x80) = n) (rest : List Piece) :
    decodeFrom (some ⟨1, least, greatest, bits⟩) (.octet b :: rest) =
      Char.ofNat n :: decodeFrom none rest := by
  rw [decodeFrom, next_of_within low high, if_pos (Nat.le_refl 1), sum]
  rfl

/-- An octet of a character before its last one. -/
theorem decodeFrom_inner {owed bits n : Nat} {least greatest b : Nat} (more : 1 < owed)
    (low : least ≤ b) (high : b ≤ greatest) (sum : bits * 64 + (b - 0x80) = n)
    (rest : List Piece) :
    decodeFrom (some ⟨owed, least, greatest, bits⟩) (.octet b :: rest) =
      decodeFrom (some ⟨owed - 1, 0x80, 0xBF, n⟩) rest := by
  rw [decodeFrom, next_of_within low high, if_neg (Nat.not_le.2 more), sum]
  rfl

/-- The first octet of a character of several octets. -/
theorem decodeFrom_begin {b : Nat} {begun : Begun} (beyond : 0x80 ≤ b)
    (starts : begin? b = some begun) (rest : List Piece) :
    decodeFrom none (.octet b :: rest) = decodeFrom (some begun) rest := by
  rw [decodeFrom, first, if_neg (Nat.not_lt.2 beyond), starts]
  rfl

/-- The first of three octets. The bounds it sets for the second one keep out long forms and
surrogates, and a character is neither. -/
theorem begin?_three {n : Nat} (low : 0x800 ≤ n) (high : n < 0x10000)
    (valid : n < 0xD800 ∨ 0xDFFF < n) :
    ∃ least greatest, begin? (0xE0 + n / 4096) = some ⟨2, least, greatest, n / 4096⟩ ∧
      least ≤ 0x80 + n / 64 % 64 ∧ 0x80 + n / 64 % 64 ≤ greatest := by
  by_cases first : n / 4096 = 0
  · exact ⟨0xA0, 0xBF, by rw [first]; rfl, by omega, by omega⟩
  · by_cases surrogate : n / 4096 = 13
    · exact ⟨0x80, 0x9F, by rw [surrogate]; rfl, by omega, by omega⟩
    · refine ⟨0x80, 0xBF, ?_, by omega, by omega⟩
      rw [begin?, if_neg (by omega), if_neg (by omega), if_neg (by omega), if_pos (by omega)]
      simp

/-- The first of four octets. The bounds it sets keep the character below the last plane. -/
theorem begin?_four {n : Nat} (low : 0x10000 ≤ n) (high : n < 0x110000) :
    ∃ least greatest, begin? (0xF0 + n / 262144) = some ⟨3, least, greatest, n / 262144⟩ ∧
      least ≤ 0x80 + n / 4096 % 64 ∧ 0x80 + n / 4096 % 64 ≤ greatest := by
  by_cases first : n / 262144 = 0
  · exact ⟨0x90, 0xBF, by rw [first]; rfl, by omega, by omega⟩
  · by_cases last : n / 262144 = 4
    · exact ⟨0x80, 0x8F, by rw [last]; rfl, by omega, by omega⟩
    · refine ⟨0x80, 0xBF, ?_, by omega, by omega⟩
      rw [begin?, if_neg (by omega), if_neg (by omega), if_neg (by omega), if_neg (by omega),
        if_neg (by omega), if_pos (by omega)]
      simp

/-- The octets of a character decode to it, whatever follows. -/
theorem decodeFrom_utf8 (c : Char) (rest : List Piece) :
    decodeFrom none ((utf8 c).map Piece.octet ++ rest) = c :: decodeFrom none rest := by
  have valid : c.toNat < 0xD800 ∨ 0xDFFF < c.toNat ∧ c.toNat < 0x110000 := c.valid
  have back : Char.ofNat c.toNat = c := Char.ofNat_toNat c
  -- From here on the character is its number, so that `omega` sees all there is to it.
  generalize hn : c.toNat = n at valid back
  have octets : utf8 c = if n < 0x80 then [n]
      else if n < 0x800 then [0xC0 + n / 64, 0x80 + n % 64]
      else if n < 0x10000 then [0xE0 + n / 4096, 0x80 + n / 64 % 64, 0x80 + n % 64]
      else [0xF0 + n / 262144, 0x80 + n / 4096 % 64, 0x80 + n / 64 % 64, 0x80 + n % 64] := by
    rw [← hn]
    rfl
  rw [octets, ← back]
  split
  · next one =>
    show decodeFrom none (.octet n :: rest) = _
    rw [decodeFrom, first, if_pos one]
    rfl
  · split
    · next two =>
      have starts : begin? (0xC0 + n / 64) = some ⟨1, 0x80, 0xBF, n / 64⟩ := by
        rw [begin?, if_pos (by omega)]
        simp
      show decodeFrom none (.octet (0xC0 + n / 64) :: .octet (0x80 + n % 64) :: rest) = _
      rw [decodeFrom_begin (by omega) starts,
        decodeFrom_last (n := n) (by omega) (by omega) (by omega)]
    · split
      · next three =>
        show decodeFrom none (.octet (0xE0 + n / 4096) :: .octet (0x80 + n / 64 % 64) ::
          .octet (0x80 + n % 64) :: rest) = _
        obtain ⟨least, greatest, starts, low, high⟩ :=
          begin?_three (n := n) (by omega) three (by omega)
        rw [decodeFrom_begin (by omega) starts,
          decodeFrom_inner (n := n / 64) (by omega) low high (by omega),
          decodeFrom_last (n := n) (by omega) (by omega) (by omega)]
      · next four =>
        show decodeFrom none (.octet (0xF0 + n / 262144) :: .octet (0x80 + n / 4096 % 64) ::
          .octet (0x80 + n / 64 % 64) :: .octet (0x80 + n % 64) :: rest) = _
        obtain ⟨least, greatest, starts, low, high⟩ :=
          begin?_four (n := n) (by omega) (by omega)
        rw [decodeFrom_begin (by omega) starts,
          decodeFrom_inner (n := n / 4096) (by omega) low high (by omega),
          decodeFrom_inner (n := n / 64) (by omega) (by omega) (by omega) (by omega),
          decodeFrom_last (n := n) (by omega) (by omega) (by omega)]

theorem decodeFrom_octets (t : Text) :
    decodeFrom none ((t.flatMap utf8).map Piece.octet) = t := by
  induction t with
  | nil => rfl
  | cons c more ih => rw [List.flatMap_cons, List.map_append, decodeFrom_utf8, ih]

/-- Decoding undoes encoding, for every text. -/
theorem decode_encode (t : Text) : decode (encode t) = t := by
  have pieces := piecesOf_encode t []
  rw [List.append_nil, show piecesOf [] = [] from rfl, List.append_nil] at pieces
  rw [decode, pieces, decodeFrom_octets]

/-! ## Fields -/

theorem isPlain_hexDigit {n : Nat} (h : n < 16) : isPlain (hexDigit n) = true := by
  revert h n
  decide

/-- The characters of encoded texts. -/
theorem mem_encode {c : Char} {t : Text} (h : c ∈ encode t) :
    isPlain c = true ∨ c = '+' ∨ c = '%' := by
  obtain ⟨d, -, hd⟩ := List.mem_flatMap.1 h
  unfold encodeChar at hd
  split at hd
  · next plain =>
    rw [List.mem_singleton.1 hd]
    exact .inl plain
  · split at hd
    · exact .inr (.inl (List.mem_singleton.1 hd))
    · obtain ⟨b, hb, hc⟩ := List.mem_flatMap.1 hd
      have bounded := octet_lt_of_mem_utf8 hb
      simp only [escapeOctet, List.mem_cons, List.not_mem_nil, or_false] at hc
      rcases hc with rfl | rfl | rfl
      · exact .inr (.inr rfl)
      · exact .inl (isPlain_hexDigit (by omega))
      · exact .inl (isPlain_hexDigit (by omega))

/-- Neither separator of a query string is in an encoded text. -/
theorem not_mem_encode (t : Text) : '&' ∉ encode t ∧ '=' ∉ encode t := by
  constructor <;> intro h <;> rcases mem_encode h with plain | same | same
  · exact (isPlain_bounds plain).2.2.2.1 rfl
  · exact absurd same (by simp)
  · exact absurd same (by simp)
  · exact (isPlain_bounds plain).2.2.2.2 rfl
  · exact absurd same (by simp)
  · exact absurd same (by simp)

/-- A written field is read as the pair that it stands for. -/
theorem readField_encodePair (pair : Text × Text) : readField (encodePair pair) = pair := by
  obtain ⟨name, value⟩ := pair
  have cut : cutAt '=' (encodePair (name, value)) = (encode name, some (encode value)) :=
    cutAt_append (not_mem_encode name).2 _
  rw [readField, cut]
  simp only [Option.getD_some, decode_encode]

theorem not_mem_encodePair (pair : Text × Text) : '&' ∉ encodePair pair := by
  intro h
  rcases List.mem_append.1 h with h | h
  · exact (not_mem_encode _).1 h
  · rcases List.mem_cons.1 h with h | h
    · exact absurd h (by simp)
    · exact (not_mem_encode _).1 h

theorem encodePair_ne_nil (pair : Text × Text) : encodePair pair ≠ [] := by
  intro h
  exact absurd (List.append_eq_nil_iff.1 h).2 (List.cons_ne_nil _ _)

/-! ## Strings -/

/-- Reading undoes writing, for every list of pairs. -/
theorem read_write (pairs : List (Text × Text)) : read (write pairs) = pairs := by
  cases pairs with
  | nil => rfl
  | cons pair more =>
    have split : (write (pair :: more)).splitOn '&' = (pair :: more).map encodePair := by
      refine List.splitOn_intercalate '&' ?_ (by simp)
      intro field hfield
      obtain ⟨p, -, rfl⟩ := List.mem_map.1 hfield
      exact not_mem_encodePair p
    have kept : ((pair :: more).map encodePair).filter (fun field => field ≠ []) =
        (pair :: more).map encodePair := by
      apply List.filter_eq_self.2
      intro field hfield
      obtain ⟨p, -, rfl⟩ := List.mem_map.1 hfield
      exact decide_eq_true (encodePair_ne_nil p)
    rw [read, split, kept, List.map_map]
    exact (List.map_congr_left fun p _ => readField_encodePair p).trans (List.map_id _)

/-- Whether a character can be in a written query string. -/
def isQueryChar (c : Char) : Bool :=
  isPlain c || c = '+' || c = '%' || c = '&' || c = '='

/-- No written query string has another character. -/
theorem write_isQueryChar {pairs : List (Text × Text)} {c : Char} (h : c ∈ write pairs) :
    isQueryChar c = true := by
  have encoded {t : Text} (h : c ∈ encode t) : isQueryChar c = true := by
    rcases mem_encode h with plain | rfl | rfl
    · simp [isQueryChar, plain]
    · rfl
    · rfl
  rcases mem_joinWith h with same | ⟨field, hfield, hc⟩
  · rw [List.mem_singleton.1 same]
    rfl
  · obtain ⟨pair, -, rfl⟩ := List.mem_map.1 hfield
    rcases List.mem_append.1 hc with hc | hc
    · exact encoded hc
    · rcases List.mem_cons.1 hc with rfl | hc
      · rfl
      · exact encoded hc

end Listing.Form
