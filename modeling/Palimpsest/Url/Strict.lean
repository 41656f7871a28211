import Palimpsest.Url.Basic

/-!
# The strict form

A URL may hold characters that the general grammar of identifiers does not allow, such as a bar in
a path. `Url.isStrict` tells whether its written form obeys that grammar.
-/

namespace Palimpsest.Url

/-- Letters, digits and the marks that stand for nothing but themselves. -/
def isPlainMark (c : Char) : Bool :=
  c.isAlphanum || "-._~!$&'()*+,;=".toList.contains c

/-- Whether a text holds allowed characters and whole percent codes only. -/
def isStrictText (allowed : Char → Bool) : List Char → Bool
  | [] => true
  | '%' :: a :: b :: rest =>
    (Text.hexValue? a).isSome && (Text.hexValue? b).isSome && isStrictText allowed rest
  | c :: rest => c != '%' && allowed c && isStrictText allowed rest

def isPathMark (c : Char) : Bool := isPlainMark c || c == ':' || c == '@' || c == '/'

def isEndMark (c : Char) : Bool := isPathMark c || c == '?'

def Authority.isStrict (a : Authority) : Bool :=
  let isUserMark (c : Char) : Bool := isPlainMark c || c == ':'
  isStrictText isUserMark a.username.toList &&
    isStrictText isUserMark (a.password.getD "").toList &&
    (['['].isPrefixOf a.host.toList || isStrictText isPlainMark a.host.toList)

/-- Whether the URL's written form obeys the general grammar. -/
def isStrict (u : Url) : Bool :=
  (match u.authority with | some a => a.isStrict | none => true) &&
    isStrictText isPathMark u.path.render.toList &&
    isStrictText isEndMark (u.query.getD "").toList &&
    isStrictText isEndMark (u.fragment.getD "").toList

end Palimpsest.Url
