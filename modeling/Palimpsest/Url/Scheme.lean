/-!
# Schemes

Some schemes have rules of their own: a host has to be there, a backslash separates as a slash
does, and the `portNumber` has a usual value. Files follow these rules too, except that they may
have no host.
-/

namespace Palimpsest.Url

/-- Schemes with rules of their own, other than that of files. -/
def isWebScheme (scheme : String) : Bool := ["http", "https", "ws", "wss", "ftp"].contains scheme

/-- Whether a backslash separates segments as a slash does. -/
def isSpecialScheme (scheme : String) : Bool := scheme == "file" || isWebScheme scheme

def defaultPortNumber? : String → Option Nat
  | "http" | "ws" => some 80
  | "https" | "wss" => some 443
  | "ftp" => some 21
  | _ => none

end Palimpsest.Url
