import Palimpsest.Expander.Output
import Palimpsest.Provider.Manifest
import Palimpsest.Wire.Datum
import Palimpsest.Wire.Mapping

/-!
# Expanders on the wire

The forms of an expander's switches, remarks and output, and of manifests of providers.
-/

namespace Palimpsest.Wire

instance expanderOptions : Codec Expander.Options where
  encode o :=
    .object (("keep_annotations", encode o.keepAnnotations) :: writeFields o.extra.fields)
  decode value := do
    let (keep, extra) ← splitKnown? "keep_annotations" value
    match keep with
    | some keep => return ⟨← decode keep, extra⟩
    | none => return ⟨false, extra⟩

instance expanderSeverity : Codec Expander.Severity where
  encode
    | .error => .string "error"
    | .warning => .string "warning"
    | .info => .string "info"
    | .other => .string "other"
  decode value :=
    (choice? value).map fun
      | "error" => .error
      | "warning" => .warning
      | "info" => .info
      | _ => .other

instance expanderDiagnostic : Codec Expander.Diagnostic where
  encode d :=
    .object
      ([("severity", encode d.severity), ("message", encode d.message)] ++
        present "start" d.start ++ present "end" d.stop)
  decode value := do
    match ← slots? ["severity", "message", "start", "end"] value with
    | [a, b, c, d] => return ⟨← a.required, ← b.required, ← c.lenient, ← d.lenient⟩
    | _ => none

instance expanderOutput : Codec Expander.Output where
  encode o :=
    .object
      ([("code", encode o.code)] ++ present "declarations" o.declarations ++
        [("diagnostics", encode o.diagnostics)] ++ present "segmentMapping" o.layout)
  decode value := do
    match ← slots? ["code", "declarations", "diagnostics", "segmentMapping"] value with
    | [a, b, c, d] => return ⟨← a.required, ← b.lenient, ← c.withDefault [], ← d.lenient⟩
    | _ => none

instance providerManifest : Codec Provider.Manifest where
  encode m :=
    .object
      [("name", encode m.name), ("entry_point", encode m.entryPoint),
       ("directives", encode m.directives)]
  decode value := do
    match ← slots? ["name", "entry_point", "directives"] value with
    | [a, b, c] => return ⟨← a.required, ← b.required, ← c.withDefault []⟩
    | _ => none

end Palimpsest.Wire
