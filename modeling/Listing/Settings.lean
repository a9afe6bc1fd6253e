import Listing.Failure
import Listing.Value.Basic

/-!
# Settings

Project-wide preferences: page sizes for endpoints that set none, and how answers and dropped
clauses are shown. Settings are read lazily: the first read takes a snapshot of the table in
force, and every later read is answered from that snapshot until the settings are reloaded.
-/

namespace Listing

/-- The preferences of a project. A page size is what the table says, number or not. -/
structure Preferences where
  defaultPageSize : Value := .int 20
  maxPageSize : Value := .int 100
  /-- Every answer is sent as a success, with its real status in the body. -/
  alwaysOk : Bool := false
  /-- Dropped clauses are logged as information. -/
  logWarnings : Bool := false

namespace Preferences

/-- The names of the settings with their standard values. -/
def standard : Members :=
  [("DEFAULT_PAGE_SIZE", .int 20), ("MAX_PAGE_SIZE", .int 100),
   ("ALWAYS_HTTP_200", .flag false), ("LOG_WARNINGS", .flag false)]

/-- A page size in a table. -/
def sizeIn (table : Members) (key : Text) (standard : Int) : Value :=
  (table.get? key).getD (.int standard)

/-- A switch in a table. -/
def switchIn (table : Members) (key : Text) : Bool :=
  ((table.get? key).map Value.truthy).getD false

/-- The preferences that a table sets. -/
def ofTable (table : Members) : Preferences where
  defaultPageSize := sizeIn table "DEFAULT_PAGE_SIZE" 20
  maxPageSize := sizeIn table "MAX_PAGE_SIZE" 100
  alwaysOk := switchIn table "ALWAYS_HTTP_200"
  logWarnings := switchIn table "LOG_WARNINGS"

end Preferences

/-- A settings object: its defaults, the table in force outside, the snapshot taken at the
first read, and the values read since. -/
structure Settings where
  defaults : Members := Preferences.standard
  inForce : Option Members := none
  snapshot : Option Members := none
  read : Members := []
  /-- The names read since the last reload, which the next reload clears. A name stays noted
  when its value is forgotten. -/
  noted : List Text := []

namespace Settings

/-- A fresh settings object. Defaults without entries are the standard ones. -/
def fresh (defaults : Members) : Settings :=
  { defaults := if defaults.isEmpty then Preferences.standard else defaults }

/-- The table that a read sees: the snapshot, or else what is in force now. -/
def table (s : Settings) : Members :=
  s.snapshot.getD (s.inForce.getD [])

/-- A part of the settings object itself, under its own name: the defaults, and the table that
reads see, which asking for takes the snapshot. Its methods and its notes are no values and are
left out. -/
def ownPart? (s : Settings) (name : Text) : Option (Value × Settings) :=
  if name = "defaults".toList then some (.dict s.defaults, s)
  else if name = "user_settings".toList then
    some (.dict s.table, { s with snapshot := some s.table })
  else if name = "_user_settings".toList then s.snapshot.map fun table => (.dict table, s)
  else none

/-- Read a setting. -/
def readName (s : Settings) (name : Text) : Except Failure (Value × Settings) :=
  match s.read.get? name with
  | some value => .ok (value, s)
  | none =>
    match s.defaults.get? name with
    | none => .error (.unknownSetting name)
    | some default =>
      let value := (s.table.get? name).getD default
      .ok (value, { s with
        snapshot := some s.table
        read := s.read.put name value
        noted := s.noted.insert name })

/-- Read a setting, or a part of the settings object itself. -/
def get (s : Settings) (name : Text) : Except Failure (Value × Settings) :=
  match s.ownPart? name with
  | some found => .ok found
  | none => s.readName name

def set (s : Settings) (table : Members) : Settings :=
  { s with inForce := some table }

def unset (s : Settings) : Settings :=
  { s with inForce := none }

/-- Forget the snapshot and the values of the names noted. -/
def reload (s : Settings) : Settings :=
  { s with snapshot := none, read := s.read.filter fun m => !s.noted.contains m.1, noted := [] }

/-- Forget one value read before; the snapshot stays, unless it is named itself. -/
def forget (s : Settings) (name : Text) : Except Failure Settings :=
  if name = "_user_settings".toList && s.snapshot.isSome then .ok { s with snapshot := none }
  else
    match s.read.get? name with
    | some _ => .ok { s with read := s.read.filter fun m => m.1 ≠ name }
    | none => .error (.notRead name)

/-- The preferences that reads answer, without reading. -/
def preferences (s : Settings) : Preferences :=
  .ofTable s.table

/-- The settings after some read. -/
def afterRead (s : Settings) : Settings :=
  { s with snapshot := some s.table }

inductive Step where
  | set (table : Members)
  | unset
  | get (name : Text)
  | reload
  | forget (name : Text)

/-- One step: its answer and the settings after it. A failing step changes nothing. -/
def step (s : Settings) : Step → Except Failure Value × Settings
  | .set table => (.ok .null, s.set table)
  | .unset => (.ok .null, s.unset)
  | .get name =>
    match s.get name with
    | .ok (value, s') => (.ok value, s')
    | .error f => (.error f, s)
  | .reload => (.ok .null, s.reload)
  | .forget name =>
    match s.forget name with
    | .ok s' => (.ok .null, s')
    | .error f => (.error f, s)

/-- The answers to a run of steps, in order. -/
def run (s : Settings) : List Step → List (Except Failure Value)
  | [] => []
  | step :: rest => (s.step step).1 :: run (s.step step).2 rest

end Settings

end Listing
