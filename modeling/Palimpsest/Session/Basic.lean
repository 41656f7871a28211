import Palimpsest.Expansion.Fetch
import Palimpsest.Settings.Load

/-!
# Sessions

A `Session` joins settings, the source files and the store of expansions. The settings say which
files are expanded: a file is left alone if it is a declaration unit, is named like the output of
an expansion, lies in an excluded directory, or has no directive in it.

New settings are taken over as a whole or not at all, and drop every expansion.

Correspondence (utsushi ↔ here):
* `ExpansionSession` ↔ `Session`; `from_settings` ↔ `create`
* `classify_by_name` ↔ `classOfName?`
* `settings_generation` ↔ `generation`
* `reload_settings` ↔ `reload`, which compiles the pattern and leaves the rest to `adopt`
-/

namespace Palimpsest

open Expansion (Store)

/-- A source file. It may be listed and yet not be readable, and its version may not be known. -/
structure Source where
  content : Option String
  version : Option Version
deriving DecidableEq

abbrev Sources := Table Url Source

namespace Sources

def content? (s : Sources) (file : Url) : Option String := (s.find? file).bind Source.content

def version? (s : Sources) (file : Url) : Option Version := (s.find? file).bind Source.version

def names (s : Sources) : List Url :=
  s.keys.mergeSort fun a b => decide (a.render ≤ b.render)

end Sources

/-- How a file is treated. -/
inductive FileClass where
  | declarationUnit
  | expanderOutput
  | excluded
  | noDirectives
  | expandable
deriving DecidableEq

def FileClass.isBypassed (c : FileClass) : Bool := c != .expandable

/-- Everything that belongs to one project. -/
structure Session where
  /-- What compiles the patterns of settings; it stays the same. -/
  compile : Pattern.Compiler
  settings : Settings
  /-- The compiled pattern of the settings. -/
  matcher : Pattern.Matcher
  store : Store
  sources : Sources
  /-- How often settings were taken over, counted in 64 bits. -/
  generation : UInt64

namespace Session

def note (s : Session) (e : Event) : Session := { s with store := s.store.note e }

/-- What there is to note about providers when a session begins. -/
def providerNotes (manifests : List Provider.Manifest) (resolver : Provider.Resolver) :
    List Event :=
  (resolver.unbound.map fun m => .providerUnbound m.name m.entryPoint) ++
    (Provider.Ownership.ofManifests manifests).clashes

def create (compile : Pattern.Compiler) (settings : Settings)
    (bindings : List (String × Provider.Binding)) (sources : Sources) :
    Except Settings.LoadError Session :=
  let resolver := (Provider.Resolver.ofManifests settings.providers).bindAll bindings
  let store := Store.create resolver settings.expand
  (settings.matcher compile).map fun matcher =>
    { compile
      settings
      matcher
      store := { store with journal := providerNotes settings.providers resolver }
      sources
      generation := 0 }

/-- Whether a file lies in an excluded directory, or has the name of one. -/
def isExcluded (s : Session) (file : Url) : Bool :=
  file.segments.any fun segment => !segment.isEmpty && s.settings.excludedDirs.contains segment

/-- The class of a file that is left alone because of its name. -/
def classOfName? (s : Session) (file : Url) : Option FileClass :=
  if s.store.units.contains file then some .declarationUnit
  else if Declaration.isOutput file then some .expanderOutput
  else if s.isExcluded file then some .excluded
  else none

def classify (s : Session) (file : Url) (content : String) : FileClass :=
  match s.classOfName? file with
  | some c => c
  | none => if s.matcher content then .expandable else .noDirectives

def isBypassed (s : Session) (file : Url) : Bool :=
  match s.classOfName? file with
  | some _ => true
  | none =>
    match s.sources.content? file with
    | some content => (s.classify file content).isBypassed
    | none => true

/-- The version under which an expanded text is known. It changes with the settings, since the
text may. -/
def expandedVersion (s : Session) (version : Version) : Version :=
  version.withGeneration s.generation.toNat

def mappingState (s : Session) (file : Url) : Expansion.State := s.store.state file

def close (s : Session) (file : Url) : Session := { s with store := s.store.remove file }

def setFile (s : Session) (file : Url) (source : Source) : Session :=
  { s with sources := s.sources.insert file source }

def removeFile (s : Session) (file : Url) : Session :=
  { s with sources := s.sources.erase file }

/-- The session with new settings whose pattern is compiled already. -/
def adopt (s : Session) (settings : Settings) (matcher : Pattern.Matcher) : Session :=
  let noted := if settings.providers = s.settings.providers then s else s.note .providersChanged
  let store := noted.store.setOptions settings.expand
  { s with
    settings
    matcher
    store := store.clear.note (.settingsReloaded store.entries.size)
    generation := s.generation + 1 }

/-- Takes new settings over, unless their pattern is not well formed. Providers stay as they were
bound. -/
def reload (s : Session) (settings : Settings) : Except Settings.LoadError Unit × Session :=
  match settings.matcher s.compile with
  | .error error => (.error error, s)
  | .ok matcher => (.ok (), s.adopt settings matcher)

end Session

end Palimpsest
