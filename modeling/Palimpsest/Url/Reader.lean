import Palimpsest.Url.Basic
import Palimpsest.Url.Path

/-!
# Reading URLs

`Url.readWith` turns a text into a `Url` or says why it is none, and `Url.read` does so with the
`DomainToAscii` of this library. Blanks and control characters around
the text, and tabs and line breaks in it, are passed over. There is no base that a relative text
could be read against.
-/

namespace Palimpsest.Url

/-- A text without what may stand around and inside a URL without being a part of it. -/
def cleaned (text : String) : List Char :=
  let isOuter (c : Char) : Bool := decide (c.toNat ≤ 0x20)
  let trimmed := ((text.toList.dropWhile isOuter).reverse.dropWhile isOuter).reverse
  trimmed.filter fun c => c != '\t' && c != '\n' && c != '\r'

/-- The scheme in lower case, and the text behind its colon. -/
def scheme? (text : List Char) : Option (String × List Char) :=
  let isSchemeChar (c : Char) : Bool := c.isAlphanum || c == '+' || c == '-' || c == '.'
  let name := text.takeWhile isSchemeChar
  match name, text.drop name.length with
  | c :: _, ':' :: rest =>
    if c.isAlpha then some (String.ofList (name.map Char.toLower), rest) else none
  | _, _ => none

def readEnd (scheme : String) (text : List Char) : Option String × Option String :=
  let fragment (text : List Char) : Option String :=
    some (String.ofList (percentEncode .fragment text))
  match text with
  | '?' :: rest =>
    let query := rest.takeWhile (· != '#')
    let set : EncodeSet := if isSpecialScheme scheme then .specialQuery else .query
    (some (String.ofList (percentEncode set query)),
      match rest.drop query.length with
      | '#' :: rest => fragment rest
      | _ => none)
  | '#' :: rest => (none, fragment rest)
  | _ => (none, none)

def splitEnd (text : List Char) : List Char × List Char :=
  let front := text.takeWhile fun c => c != '?' && c != '#'
  (front, text.drop front.length)

/-- The URL of its parts; the path is given as its text. -/
def assemble (scheme : String) (authority : Option Authority) (path rest : List Char) : Url :=
  let (query, fragment) := readEnd scheme rest
  { scheme, authority, query, fragment
    guarded := authority.isNone && ['/', '/'].isPrefixOf path
    path := .rooted (segmentsOfPath path) }

/-! ## Files -/

/-- The URL of a file without a host; the path is given as far as it has been written. -/
def readLocalFile (path text : List Char) : Url :=
  let (front, rest) := splitEnd text
  assemble "file" (some ⟨"", none, "", none⟩) (readPath "file" path front) rest

/-- The URL of a file behind two slashes. A host that is a drive belongs to the path, and a drive
at the front of the path takes away the host. -/
def readFileHost (toAscii : DomainToAscii) (text : List Char) : Except ReadError Url := do
  let host := text.takeWhile fun c => !"/\\?#".toList.contains c
  let behind := text.drop host.length
  if isDrive host then return readLocalFile ['/'] text
  if host.isEmpty then return readLocalFile [] behind
  let name ← readSpecialHost toAscii host
  if name == "localhost" then return readLocalFile [] behind
  let (front, rest) := splitEnd behind
  let front := front.drop 1
  let hasDrive := meetsDrive ['/'] (splitWhere (fun c => c == '/' || c == '\\') front)
  return assemble "file" (some ⟨"", none, if hasDrive then "" else name, none⟩)
    (readPath "file" ['/'] front) rest

/-- The URL of a file; the text begins behind the colon. -/
def readFile (toAscii : DomainToAscii) (text : List Char) : Except ReadError Url :=
  let isMark (c : Char) : Bool := c == '/' || c == '\\'
  match text with
  | a :: b :: rest =>
    if isMark a && isMark b then readFileHost toAscii rest
    else if isMark a then .ok (readLocalFile [] text)
    else .ok (readLocalFile ['/'] text)
  | [a] => .ok (readLocalFile (if isMark a then [] else ['/']) text)
  | [] => .ok (readLocalFile ['/'] text)

/-! ## Authorities -/

def splitLastAt (text : List Char) : Option (List Char × List Char) :=
  if text.contains '@' then
    let behind := (text.reverse.takeWhile (· != '@')).reverse
    some (text.take (text.length - behind.length - 1), behind)
  else none

/-- The name and the password before a host. An empty password is none. -/
def readUserinfo (text : List Char) : String × Option String :=
  let encode (part : List Char) : String := String.ofList (percentEncode .userinfo part)
  let name := text.takeWhile (· != ':')
  match text.drop name.length with
  | ':' :: c :: rest => (encode name, some (encode (c :: rest)))
  | _ => (encode name, none)

/-- The host at the front of a text, up to a colon that is not between brackets. -/
def splitHost (bracketed : Bool) : List Char → List Char × List Char
  | [] => ([], [])
  | c :: rest =>
    if c == ':' && !bracketed then ([], c :: rest)
    else
      let (host, behind) :=
        splitHost (if c == '[' then true else if c == ']' then false else bracketed) rest
      (c :: host, behind)

/-- The `portNumber` behind a host, none where it is empty or the usual one. Only a backslash may
follow it, which then begins the path. -/
def readPortNumber (scheme : String) (text : List Char) : Except ReadError (Option Nat × List Char) :=
  let digits := text.takeWhile Char.isDigit
  let behind := text.drop digits.length
  let n := digits.foldl (fun n c => n * 10 + (c.toNat - 0x30)) 0
  if 65535 < n || !(behind.isEmpty || behind.head? == some '\\') then .error .badPortNumber
  else if digits.isEmpty || defaultPortNumber? scheme == some n then .ok (none, behind)
  else .ok (some n, behind)

/-- The authority of a URL, and what is left of its text for the path; `atEnd` tells that nothing
follows the text. -/
def readAuthority (toAscii : DomainToAscii) (scheme : String) (text : List Char) (atEnd : Bool) :
    Except ReadError (Authority × List Char) := do
  let special := isSpecialScheme scheme
  let (username, password, hostText) ←
    match splitLastAt text with
    | none => pure ("", none, text)
    | some ([], behind) =>
      if behind.isEmpty && !atEnd then throw .emptyHost
      pure ("", none, behind)
    | some (userinfo, behind) =>
      let (username, password) := readUserinfo userinfo
      pure (username, password, behind)
  let (host, behind) := splitHost false hostText
  if special && host.isEmpty then throw .emptyHost
  let host ← if special then readSpecialHost toAscii host else readPlainHost host
  let hasCredentials := !username.isEmpty || password.isSome
  if host.isEmpty && (hasCredentials || !behind.isEmpty) then throw .emptyHost
  let (portNumber, left) ← readPortNumber scheme (behind.drop 1)
  return (⟨username, password, host, portNumber⟩, left)

/-- The URL behind the slashes of its authority. -/
def readHierarchy (toAscii : DomainToAscii) (scheme : String) (text : List Char) :
    Except ReadError Url := do
  let special := isSpecialScheme scheme
  let isStop (c : Char) : Bool := c == '/' || c == '?' || c == '#' || (special && c == '\\')
  let front := text.takeWhile fun c => !isStop c
  let behind := text.drop front.length
  let (authority, left) ← readAuthority toAscii scheme front behind.isEmpty
  let (pathText, rest) := splitEnd behind
  let path :=
    if special then readPath scheme ['/'] (pathText.drop 1)
    else if left.isEmpty then readPath scheme [] pathText
    else readPath scheme ['/'] (left ++ pathText)
  return assemble scheme (some authority) path rest

/-- The URL of a scheme without rules of its own. -/
def readPlain (toAscii : DomainToAscii) (scheme : String) (text : List Char) :
    Except ReadError Url :=
  match text with
  | '/' :: '/' :: rest => readHierarchy toAscii scheme rest
  | '/' :: rest =>
    let (front, rest) := splitEnd rest
    .ok (assemble scheme none (readPath scheme ['/'] front) rest)
  | _ =>
    let (front, rest) := splitEnd text
    let (query, fragment) := readEnd scheme rest
    .ok
      { scheme, query, fragment
        authority := none
        guarded := false
        path := .plain (String.ofList (percentEncode .controls front)) }

def readWith (toAscii : DomainToAscii) (text : String) : Except ReadError Url :=
  match scheme? (cleaned text) with
  | none => .error .relative
  | some (scheme, rest) =>
    if scheme == "file" then readFile toAscii rest
    else if isWebScheme scheme then
      readHierarchy toAscii scheme (rest.dropWhile fun c => c == '/' || c == '\\')
    else readPlain toAscii scheme rest

def read (text : String) : Except ReadError Url := readWith foldedToAscii text

end Palimpsest.Url
