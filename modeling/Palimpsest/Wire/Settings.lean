import Palimpsest.Settings.Basic
import Palimpsest.Wire.Expander

/-!
# Settings on the wire
-/

namespace Palimpsest.Wire

instance : Codec Settings.ExpandLayer where
  encode e :=
    .object (present "keep_annotations" e.keepAnnotations ++ writeFields e.extra.fields)
  decode value := do
    let (keep, extra) ← splitKnown? "keep_annotations" value
    match keep with
    | some keep => return ⟨← decode keep, extra⟩
    | none => return ⟨none, extra⟩

def settingsFields : List String :=
  ["directive_pattern", "excluded_dirs", "diagnostic_source", "expand", "providers"]

instance : Codec Settings.Layer where
  encode l :=
    .object
      [("directive_pattern", encode l.directivePattern), ("excluded_dirs", encode l.excludedDirs),
       ("diagnostic_source", encode l.diagnosticSource), ("expand", encode l.expand),
       ("providers", encode l.providers)]
  decode value := do
    match ← slots? settingsFields value with
    | [a, b, c, d, e] =>
      return ⟨← a.optional, ← b.optional, ← c.optional, ← d.optional, ← e.withDefault []⟩
    | _ => none

instance : Codec Settings where
  encode s :=
    .object
      [("directive_pattern", encode s.directivePattern), ("excluded_dirs", encode s.excludedDirs),
       ("diagnostic_source", encode s.diagnosticSource), ("expand", encode s.expand),
       ("providers", encode s.providers)]
  decode value := do
    match ← slots? settingsFields value with
    | [a, b, c, d, e] =>
      return ⟨← a.required, ← b.required, ← c.required, ← d.required, ← e.required⟩
    | _ => none

end Palimpsest.Wire
