import Palimpsest.Url.Percent
import Palimpsest.Url.Scheme

/-!
# URLs

A `Url` is kept as its parts; `Url.render` writes it. A path is a list of segments, or a plain text
in a URL that has no place for segments (`untitled:a.ts`); only the former can be changed segment
by segment.
-/

namespace Palimpsest

namespace Url

/-- Who serves a URL: a name and a password, a host and a `portNumber`. The host is in the form in
which it is written. -/
structure Authority where
  username : String
  password : Option String
  host : String
  portNumber : Option Nat
deriving DecidableEq

/-- Where a URL leads. -/
inductive Path where
  /-- Segments, each written behind a slash. -/
  | rooted (segments : List String)
  | plain (text : String)
deriving DecidableEq

end Url

/-- A URL by its parts, each in the form in which it is written. -/
structure Url where
  scheme : String
  authority : Option Url.Authority
  /-- Whether the path is written behind `/.`, so that its first slashes are not taken for the
  beginning of an authority. -/
  guarded : Bool
  path : Url.Path
  query : Option String
  fragment : Option String
deriving DecidableEq

namespace Url

def Authority.render (a : Authority) : String :=
  let password := match a.password with | some p => ":" ++ p | none => ""
  let credentials := if a.username.isEmpty && a.password.isNone then "" else
    a.username ++ password ++ "@"
  credentials ++ a.host ++ match a.portNumber with | some n => ":" ++ n.repr | none => ""

def Path.render : Path → String
  | rooted segments => String.join (segments.map ("/" ++ ·))
  | plain text => text

def render (u : Url) : String :=
  u.scheme ++ ":" ++
    (match u.authority with | some a => "//" ++ a.render | none => "") ++
    (if u.guarded then "/." else "") ++
    u.path.render ++
    (match u.query with | some q => "?" ++ q | none => "") ++
    (match u.fragment with | some f => "#" ++ f | none => "")

/-- The segments of the path; none where it has no place for them. -/
def segments (u : Url) : List String :=
  match u.path with
  | .rooted segments => segments
  | .plain _ => []

def lastSegment? (u : Url) : Option String := u.segments.getLast?

/-- The segments without the last. A path never loses its first slash. -/
def dropSegment : List String → List String
  | [] => []
  | [_] => [""]
  | segments => segments.dropLast

/-- The segments with one more. An empty path that is only a slash is filled. -/
def addSegment (segment : String) : List String → List String
  | [] => [segment]
  | [""] => [segment]
  | segments => segments ++ [segment]

def segmentOfText (scheme text : String) : String :=
  String.ofList (percentEncode
    (if isSpecialScheme scheme then .specialPathSegment else .pathSegment) text.toList)

/-- The URL of a file, for the names on the way to it. -/
def ofFile (names : List String) : Url :=
  { scheme := "file"
    authority := some ⟨"", none, "", none⟩
    guarded := false
    path := .rooted (if names.isEmpty then [""] else names.map (segmentOfText "file"))
    query := none
    fragment := none }

end Url

end Palimpsest
