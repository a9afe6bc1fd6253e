import Listing.Address.Host

/-!
# Addresses

An address has a scheme, a host, a path, a query and a fragment, each possibly empty. Reading
drops control characters and spaces at the start and tabs and line ends anywhere, and refuses
a host that may not stand in an address. Writing leaves out empty parts, except the host of a
scheme that always has one.
-/

namespace Listing

structure Address where
  scheme : Text := []
  host : Text := []
  path : Text := []
  query : Text := []
  fragment : Text := []
deriving DecidableEq, Repr

namespace Address

/-- The schemes whose addresses have a host, even an empty one. -/
def schemesWithHost : List Text :=
  ["ftp", "http", "gopher", "nntp", "telnet", "imap", "wais", "file", "mms", "https", "shttp",
   "snews", "prospero", "rtsp", "rtspu", "rsync", "svn", "svn+ssh", "sftp", "nfs", "git",
   "git+ssh", "ws", "wss"]

/-- The text without the controls and spaces it starts with, and without tabs and line
ends. -/
def clean (t : Text) : Text :=
  (t.dropWhile fun c => c.toNat ≤ 0x20).filter fun c => c ≠ '\t' ∧ c ≠ '\r' ∧ c ≠ '\n'

def isSchemeChar (c : Char) : Bool :=
  c.isAlphanum || c = '+' || c = '-' || c = '.'

/-- Whether a text is a scheme: it starts with a letter. -/
def isScheme : Text → Bool
  | [] => false
  | c :: rest => c.isAlpha && rest.all isSchemeChar

/-- The scheme before the first colon, in lower case, and what follows it. -/
def cutScheme (t : Text) : Text × Text :=
  match cutAt ':' t with
  | (scheme, some rest) => if isScheme scheme then (scheme.map Char.toLower, rest) else ([], t)
  | (_, none) => ([], t)

def endsHost (c : Char) : Bool :=
  c = '/' || c = '?' || c = '#'

/-- The host after two slashes, and what follows it. -/
def cutHost : Text → Text × Text
  | '/' :: '/' :: rest =>
    (rest.takeWhile fun c => !endsHost c, rest.dropWhile fun c => !endsHost c)
  | t => ([], t)

/-- The parts of an address in its text. -/
def read (t : Text) : Except Failure Address := do
  let (scheme, afterScheme) := cutScheme (clean t)
  let (host, afterHost) := cutHost afterScheme
  Host.check host
  let (beforeFragment, fragment) := cutAt '#' afterHost
  let (path, query) := cutAt '?' beforeFragment
  return { scheme, host, path, query := query.getD [], fragment := fragment.getD [] }

/-- A part after its mark, or nothing if it is empty. -/
def marked (mark : Char) (part : Text) : Text :=
  if part.isEmpty then [] else mark :: part

/-- Whether the host is written: it is not empty, or the scheme always has one and the path
does not start with two slashes. -/
def showsHost (a : Address) : Bool :=
  !a.host.isEmpty || (schemesWithHost.contains a.scheme && !"//".toList.isPrefixOf a.path)

def location (a : Address) : Text :=
  if a.showsHost then
    let slash := if a.path.isEmpty || a.path.head? = some '/' then [] else ['/']
    ['/', '/'] ++ a.host ++ slash ++ a.path
  else a.path

def text (a : Address) : Text :=
  (if a.scheme.isEmpty then [] else a.scheme ++ [':']) ++ a.location
    ++ marked '?' a.query ++ marked '#' a.fragment

end Address

end Listing
