import Palimpsest.Declaration.Registry
import Palimpsest.Event
import Palimpsest.Expansion.Entry
import Palimpsest.Provider.Resolver

/-!
# The store of expansions

A `Store` keeps the entry of each file beside the declaration units that go with the entries.
Publishing an entry brings the unit of its file in line with it, and removing an entry removes the
unit, so that no unit outlives the declarations it was made of. `running` are the files that the
expander is at work on, the last one begun in front.

Correspondence (utsushi ↔ here):
* `ExpansionCache` with its registry, its set of files in progress and its log ↔ `Store`
* `current`, `set_options`, `invocation_count` ↔ `current?`, `setOptions`, `invocations`
-/

namespace Palimpsest.Expansion

/-- The expansions of a set of files. -/
structure Store where
  providers : Provider.Resolver
  options : Expander.Options
  entries : Table Url Entry
  units : Declaration.Registry
  running : List Url
  /-- How often the expander was called, counted in 64 bits. -/
  invocations : UInt64
  /-- What happened, the latest first. -/
  journal : List Event

namespace Store

def create (providers : Provider.Resolver) (options : Expander.Options) : Store :=
  ⟨providers, options, .empty, .empty, [], 0, []⟩

def note (s : Store) (e : Event) : Store := { s with journal := e :: s.journal }

def noteAny (s : Store) : Option Event → Store
  | some e => s.note e
  | none => s

def register (s : Store) (owner : Url) (content : String) (version : Version) : Store :=
  let name := Declaration.unitName owner
  let next := { s with units := s.units.register owner content version }
  if s.units.contains name then next else next.note (.unitRegistered name owner)

def unregister (s : Store) (owner : Url) : Store :=
  let name := Declaration.unitName owner
  let next := { s with units := s.units.unregister owner }
  if s.units.contains name then next.note (.unitUnregistered name owner) else next

/-- Stores an entry and brings the unit of the file in line with it. -/
def publish (s : Store) (file : Url) (entry : Entry) : Store :=
  let s :=
    match entry.declarations with
    | some text => s.register file text entry.version
    | none => s.unregister file
  { s with entries := s.entries.insert file entry }

/-- The entry of a file, whatever its version. -/
def peek (s : Store) (file : Url) : Option Entry := s.entries.find? file

/-- The entry of a version of a file. -/
def current? (s : Store) (file : Url) (version : Version) : Option Entry :=
  (s.peek file).filter fun entry => entry.version == version

def isRunning (s : Store) (file : Url) : Bool := s.running.contains file

def state (s : Store) (file : Url) : State :=
  if s.isRunning file then .expanding
  else
    match s.peek file with
    | some entry => entry.state
    | none => .unmapped

def remove (s : Store) (file : Url) : Store :=
  let s := s.unregister file
  { s with entries := s.entries.erase file }

def clear (s : Store) : Store := s.entries.keys.foldl remove s

/-- The store with new switches for the expander. All entries were made with the old ones, so they
are dropped unless the new ones are the same. -/
def setOptions (s : Store) (options : Expander.Options) : Store :=
  if s.options.same options then s
  else { s with options := options }.clear.note (.optionsChanged s.entries.size)

/-- Looks a directive up, and notes where its provider cannot be reached. -/
def resolve (s : Store) (directive : String) : Option (Provider.Manifest × Provider.Binding) × Store :=
  (s.providers.resolve? directive, s.noteAny (s.providers.noteOn directive))

end Store

end Palimpsest.Expansion
