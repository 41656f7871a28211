import Palimpsest.Url.Host
import Palimpsest.Url.Scheme

/-!
# Paths of URLs

How the path of a URL is read: segment by segment, onto the text of the path so far. A segment of
one point is dropped and one of two points takes back the segment before it, also where the points
are percent-encoded. A drive letter at the front of a file's path keeps its place: no two points
take it back.
-/

namespace Palimpsest.Url

/-- Whether a text begins with the segment of a drive: a letter and a colon or a bar. -/
def startsWithDrive : List Char → Bool
  | [letter, mark] => letter.isAlpha && (mark == ':' || mark == '|')
  | letter :: mark :: next :: _ =>
    letter.isAlpha && (mark == ':' || mark == '|') && "/\\?#".toList.contains next
  | _ => false

def isDrive (segment : List Char) : Bool := segment.length == 2 && startsWithDrive segment

def isWrittenDrive (segment : List Char) : Bool := isDrive segment && segment.getLast? == some ':'

/-- A segment with its encoded points taken for points. -/
def plainPoints : List Char → List Char
  | '%' :: '2' :: 'e' :: rest | '%' :: '2' :: 'E' :: rest => '.' :: plainPoints rest
  | c :: rest => c :: plainPoints rest
  | [] => []

/-- Whether the segment means where it stands. -/
def isOnePoint (segment : List Char) : Bool := plainPoints segment == ['.']

/-- Whether the segment means the segment before it. -/
def isTwoPoints (segment : List Char) : Bool := plainPoints segment == ['.', '.']

def splitLastSlash (path : List Char) : List Char × List Char :=
  let tail := (path.reverse.takeWhile (· != '/')).reverse
  (path.take (path.length - tail.length), tail)

def endsWithSlash (path : List Char) : Bool := path.getLast? == some '/'

/-- Whether the slash at the end can go: it is not the first one, nor the one behind a drive. -/
def canDropSlash (path : List Char) : Bool :=
  let (upTo, tail) := splitLastSlash path.dropLast
  !upTo.isEmpty && !startsWithDrive (tail ++ ['/'])

/-- The path without its last segment, except for the drive of a file. -/
def shorten (isFile : Bool) (path : List Char) : List Char :=
  let (upTo, tail) := splitLastSlash path
  if isFile && isWrittenDrive tail then path else upTo

def withSlash (path : List Char) : List Char := if endsWithSlash path then path else path ++ ['/']

/-- Whether the segment is the drive of a file, at the front of its path. -/
def isFrontDrive (path segment : List Char) : Bool := path.length == 1 && isDrive segment

/-- The path with one more segment, which a slash follows or not. -/
def addRead (isFile : Bool) (path segment : List Char) (slash : Bool) : List Char :=
  if isTwoPoints segment then
    let path := if endsWithSlash path && canDropSlash path then path.dropLast else path
    let path := shorten isFile path
    if slash then withSlash path else path
  else if isOnePoint segment then withSlash path
  else
    let segment := if isFile && isFrontDrive path segment then segment.take 1 ++ [':'] else segment
    path ++ segment ++ (if slash then ['/'] else [])

def addAllRead (isFile : Bool) (path : List Char) : List (List Char) → List Char
  | [] => path
  | [last] => addRead isFile path last false
  | segment :: rest => addAllRead isFile (addRead isFile path segment true) rest

/-- Whether a file's path comes to have a drive at its front, which leaves no place for a host. -/
def meetsDrive (path : List Char) : List (List Char) → Bool
  | [] => false
  | segment :: rest =>
    isFrontDrive path segment || meetsDrive (addRead true path segment (!rest.isEmpty)) rest

/-- The text of a path behind what has been written of it. The path of a file begins with exactly
one slash. -/
def readPath (scheme : String) (path text : List Char) : List Char :=
  let isMark (c : Char) : Bool := c == '/' || (isSpecialScheme scheme && c == '\\')
  let segments := (splitWhere isMark text).map (percentEncode .path)
  let path := addAllRead (scheme == "file") path segments
  if scheme == "file" then '/' :: path.dropWhile (· == '/') else path

def segmentsOfPath : List Char → List String
  | '/' :: rest => (splitWhere (· == '/') rest).map String.ofList
  | _ => []

end Palimpsest.Url
