/-!
# Manifests of providers

A provider implements directives on behalf of an expander. Its manifest says which, and by what
entry point it is reached.
-/

namespace Palimpsest.Provider

/-- What a provider offers. -/
structure Manifest where
  name : String
  entryPoint : String
  directives : List String
deriving DecidableEq

end Palimpsest.Provider
