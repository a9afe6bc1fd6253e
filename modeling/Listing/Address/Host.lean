import Listing.Failure

/-!
# Hosts

The part of an address that names a machine, with a user before an at sign and a service after
a colon. A host in brackets is numeric: eight groups of hexadecimal digits, where two colons
stand for a run of zero groups, or a later version by its number. No host holds a character
that turns into a delimiter when it is normalised.
-/

namespace Listing.Host

/-! ## Numeric hosts -/

def isPlainDigit (c : Char) : Bool :=
  '0' ≤ c && c ≤ '9'

def isHexDigit (c : Char) : Bool :=
  isPlainDigit c || ('a' ≤ c && c ≤ 'f') || ('A' ≤ c && c ≤ 'F')

/-- Whether a text is a number up to 255 without leading zeros. -/
def isOctet (t : Text) : Bool :=
  !t.isEmpty && t.length ≤ 3 && t.all isPlainDigit && (t.length = 1 || t.head? != some '0')
    && t.foldl (fun value c => 10 * value + (c.toNat - 48)) 0 ≤ 255

/-- Whether a text is four octets with points between them. -/
def isQuad (t : Text) : Bool :=
  let octets := t.splitOn '.'
  octets.length = 4 && octets.all isOctet

def isGroup (t : Text) : Bool :=
  !t.isEmpty && t.length ≤ 4 && t.all isHexDigit

/-- The number of groups that groups with colons between them stand for, if they are
groups. The last one may be a quad, which stands for two. -/
def groupCount? (quadAtEnd : Bool) : List Text → Option Nat
  | [] => some 0
  | [last] =>
    if isGroup last then some 1 else if quadAtEnd && isQuad last then some 2 else none
  | group :: rest => if isGroup group then (groupCount? quadAtEnd rest).map (· + 1) else none

/-- The groups of a text. The empty text has none. -/
def groupsOf (t : Text) : List Text :=
  if t.isEmpty then [] else t.splitOn ':'

/-- The text before the first two colons in a row, and the text after them if there are
any. -/
def cutAtGap : Text → Text × Option Text
  | [] => ([], none)
  | ':' :: ':' :: rest => ([], some rest)
  | c :: rest => (c :: (cutAtGap rest).1, (cutAtGap rest).2)

/-- Whether a text is eight groups: all of them written, or up to seven around a gap. -/
def isGroups (t : Text) : Bool :=
  match cutAtGap t with
  | (all, none) => groupCount? true (groupsOf all) = some 8
  | (before, some after) =>
    match groupCount? false (groupsOf before), groupCount? true (groupsOf after) with
    | some m, some n => m + n ≤ 7
    | _, _ => false

/-- Whether a text is eight groups, or eight groups in a zone. The zone follows a percent
sign, is not empty and has no further percent sign. -/
def isZonedGroups (t : Text) : Bool :=
  match cutAt '%' t with
  | (groups, none) => isGroups groups
  | (groups, some zone) => !zone.isEmpty && !zone.contains '%' && isGroups groups

/-- Whether a text is a host of a later version: a `v`, the version in hexadecimal digits, a
point, and something after it. -/
def isLaterVersion : Text → Bool
  | 'v' :: rest =>
    match cutAt '.' rest with
    | (version, some body) => !version.isEmpty && version.all isHexDigit && !body.isEmpty
    | (_, none) => false
  | _ => false

/-- A host that may stand in brackets. -/
def checkNumeric (host : Text) : Except Failure Unit :=
  if host.head? = some 'v' then
    if isLaterVersion host then .ok () else .error .badLaterVersion
  else if isQuad host then .error .needlessBrackets
  else if isZonedGroups host then .ok ()
  else .error (.notNumeric host)

/-! ## Brackets -/

/-- What follows the last occurrence of a character, or all of a text without it. -/
def afterLast (mark : Char) (t : Text) : Text :=
  (t.reverse.takeWhile fun c => c ≠ mark).reverse

/-- The host in a text that has both brackets, without user and service. Nothing may stand
before the opening bracket, and only a colon right after the closing one. -/
def bracketed (t : Text) : Except Failure Text :=
  match cutAt '[' (afterLast '@' t) with
  | (before, some rest) =>
    let (host, after) := cutAt ']' rest
    let service := after.getD []
    if !before.isEmpty || (!service.isEmpty && service.head? != some ':') then
      .error .brokenHost
    else .ok host
  | (all, none) => .ok (cutAt ':' all).1

/-- The brackets of a host: none, or both around a numeric host. -/
def checkBrackets (t : Text) : Except Failure Unit :=
  match t.contains '[', t.contains ']' with
  | false, false => .ok ()
  | true, true => bracketed t >>= checkNumeric
  | _, _ => .error .brokenHost

/-! ## Characters -/

/-- Characters beyond ASCII that become, or contain, a delimiter of addresses when they are
normalised. -/
def delimiterLookalikes : List Nat :=
  [0x2047, 0x2048, 0x2049, 0x2100, 0x2101, 0x2105, 0x2106, 0x2A74, 0xFE13, 0xFE16, 0xFE55,
   0xFE56, 0xFE5F, 0xFE6B, 0xFF03, 0xFF0F, 0xFF1A, 0xFF1F, 0xFF20]

/-- The characters of a host: none that turns into a delimiter. -/
def checkCharacters (t : Text) : Except Failure Unit :=
  if t.any fun c => delimiterLookalikes.contains c.toNat then .error (.ambiguousHost t)
  else .ok ()

def check (t : Text) : Except Failure Unit := do
  checkBrackets t
  checkCharacters t

end Listing.Host
