import Palimpsest.Expander.Output
import Palimpsest.Provider.Manifest

/-!
# Settings

A `Settings.Layer` is what one settings file says; everything in it may be left out. Layers are
laid over each other (`Settings.Layer.merge`), and what is then still left out has a default
(`Settings.ofLayer`).

Correspondence (utsushi ↔ here):
* `SettingsFile`, `ExpandSection` ↔ `Layer`, `ExpandLayer`
* `merge_settings` ↔ `merge`
-/

namespace Palimpsest

namespace Settings

structure ExpandLayer where
  keepAnnotations : Option Bool
  extra : Dictionary

/-- What one settings file says. -/
structure Layer where
  directivePattern : Option String
  excludedDirs : Option (List String)
  diagnosticSource : Option String
  expand : Option ExpandLayer
  providers : List Provider.Manifest

def Layer.empty : Layer := ⟨none, none, none, none, []⟩

end Settings

/-- What a session works by. -/
structure Settings where
  /-- The pattern that marks a file as one to expand. -/
  directivePattern : String
  /-- Directories whose files are never expanded. -/
  excludedDirs : List String
  /-- The name under which an expander's remarks are shown. -/
  diagnosticSource : String
  expand : Expander.Options
  providers : List Provider.Manifest

namespace Settings

def default : Settings :=
  { directivePattern := "@derive\\s*\\("
    excludedDirs := ["node_modules", ".git"]
    diagnosticSource := "utsushi"
    expand := .empty
    providers := [] }

def ExpandLayer.toOptions (e : ExpandLayer) : Expander.Options :=
  ⟨e.keepAnnotations.getD false, e.extra⟩

/-- The settings of a layer, with the default for all that it leaves out. -/
def ofLayer (l : Layer) : Settings :=
  { directivePattern := l.directivePattern.getD default.directivePattern
    excludedDirs := l.excludedDirs.getD default.excludedDirs
    diagnosticSource := l.diagnosticSource.getD default.diagnosticSource
    expand := match l.expand with | some e => e.toOptions | none => default.expand
    providers := l.providers }

/-- One expander part laid over another: each switch comes from the upper one where it is there. -/
def ExpandLayer.merge (fallback primary : ExpandLayer) : ExpandLayer :=
  ⟨primary.keepAnnotations.or fallback.keepAnnotations, fallback.extra.merge primary.extra⟩

def mergeExpand : Option ExpandLayer → Option ExpandLayer → Option ExpandLayer
  | some fallback, some primary => some (fallback.merge primary)
  | fallback, primary => primary.or fallback

/-- The upper manifests, and behind them the lower ones whose name none of the upper ones has. -/
def mergeProviders (fallback primary : List Provider.Manifest) : List Provider.Manifest :=
  primary ++ fallback.filter fun f => !primary.any fun p => p.name == f.name

def Layer.merge (fallback primary : Layer) : Layer :=
  { directivePattern := primary.directivePattern.or fallback.directivePattern
    excludedDirs := primary.excludedDirs.or fallback.excludedDirs
    diagnosticSource := primary.diagnosticSource.or fallback.diagnosticSource
    expand := mergeExpand fallback.expand primary.expand
    providers := mergeProviders fallback.providers primary.providers }

/-- One layer, if there is one, laid over another. -/
def merge : Option Layer → Option Layer → Option Layer
  | some fallback, some primary => some (fallback.merge primary)
  | fallback, primary => primary.or fallback

end Settings

end Palimpsest
