import HomePanel.Url.Host
import HomePanel.Text.Blank

/-!
# HTTP URLs

Reading an absolute `http` or `https` URL into its parts and writing it back in normal
form, as a request is addressed.

Blanks and control characters around the text are dropped, and tabs and line breaks
anywhere in it. After `scheme:` every `/` and `\` is skipped; the authority runs to the
next `/`, `\`, `?` or `#`. Within it, text before the last `@` is the user information
(user, then password after the first `:`), and a `:` outside brackets starts the
`portNumber`: decimal digits below 65536, dropped when empty or the scheme's default (80
for `http`, 443 for `https`). The path is split at `/` and `\`: a `.` segment is dropped, a `..`
segment drops the one before it (also when written `%2e`), and a path ending in either
ends with `/`; an empty path is `/`. The query runs from `?` to `#`, the fragment after
`#`. Each part escapes its own set of characters as `%XX` over UTF-8 bytes: control
characters, DEL and every non-ASCII character always, and besides those

* in the path, space, the grave accent and `" # < > ? { }`;
* in the query, space and `" # < > '`;
* in the fragment, space, the grave accent and `" < >`;
* in the user information, the path's set and `/ : ; = @ [ \ ] ^ |`.
-/

namespace HomePanel

namespace Url

/-- An absolute `http` or `https` URL, each part already escaped. -/
structure HttpUrl where
  scheme : String
  username : String
  password : Option String
  host : Host
  portNumber : Option Nat
  path : List String
  query : Option String
  fragment : Option String
  deriving DecidableEq, Repr

/-- Whether a character is escaped in a part with the given extra ASCII characters. -/
def escapes (extra : List Char) (c : Char) : Bool :=
  c.toNat < 0x20 || 0x7F ≤ c.toNat || extra.contains c

def pathExtra : List Char := [' ', '"', '#', '<', '>', '?', '\x60', '\x7b', '\x7d']

def queryExtra : List Char := [' ', '"', '#', '<', '>', '\'']

def fragmentExtra : List Char := [' ', '"', '<', '>', '\x60']

def userinfoExtra : List Char := pathExtra ++ ['/', ':', ';', '=', '@', '[', '\\', ']', '^', '|']

/-- A text with the characters of a part escaped. -/
def escapeWith (extra : List Char) (cs : List Char) : String :=
  String.ofList (cs.flatMap fun c => if escapes extra c then percentChar c else [c])

/-- Whether a path segment means "this directory". -/
def isSingleDot (segment : String) : Bool :=
  segment == "." || (Text.asciiLower segment) == "%2e"

/-- Whether a path segment means "the parent directory". -/
def isDoubleDot (segment : String) : Bool :=
  let s := Text.asciiLower segment
  s == ".." || s == ".%2e" || s == "%2e." || s == "%2e%2e"

/-- Adds one segment to a path. `closed` tells whether a separator follows it. -/
def pushSegment (path : List String) (segment : String) (closed : Bool) : List String :=
  if isDoubleDot segment then path.dropLast ++ (if closed then [] else [""])
  else if isSingleDot segment then path ++ (if closed then [] else [""])
  else path ++ [segment]

/-- The segments of a path text (after its leading separator). -/
def pathSegments (cs : List Char) : List String :=
  let raw := cs.splitOn '/' |>.flatMap (·.splitOn '\\')
  let n := raw.length
  raw.zipIdx.foldl (fun path p => pushSegment path (escapeWith pathExtra p.1) (p.2 + 1 < n)) []

/-- The characters with the blanks at both ends and every tab and line break dropped. -/
def clean (s : String) : List Char :=
  let isEdge (c : Char) := c.toNat ≤ 0x20
  let cs := (s.toList.dropWhile isEdge).reverse.dropWhile isEdge |>.reverse
  cs.filter fun c => c != '\t' && c != '\n' && c != '\r'

def defaultPortNumber (scheme : String) : Option Nat :=
  if scheme = "http" then some 80 else if scheme = "https" then some 443 else none

/-- The number after `:`; `none` when the text is not a number below 65536. -/
def portNumber? (scheme : String) (cs : List Char) : Option (Option Nat) :=
  if cs.isEmpty then some none
  else if cs.all Char.isDigit then
    let n := cs.foldl (fun acc c => acc * 10 + (c.toNat - '0'.toNat)) 0
    if n < 65536 then some (if defaultPortNumber scheme = some n then none else some n) else none
  else none

/-- Splits the host from the number after the first `:` outside brackets. -/
def splitHostPort : List Char → Bool → List Char × Option (List Char)
  | [], _ => ([], none)
  | ':' :: rest, false => ([], some rest)
  | c :: rest, inside =>
    let inside := if c = '[' then true else if c = ']' then false else inside
    let (host, after) := splitHostPort rest inside
    (c :: host, after)

/-- User and password of the user information, escaped; no password after a bare `:`. -/
def userinfo (cs : List Char) : String × Option String :=
  match cs.splitOn ':' with
  | [] => ("", none)
  | [user] => (escapeWith userinfoExtra user, none)
  | user :: rest =>
    let password := ":".toList.intercalate rest
    (escapeWith userinfoExtra user,
      if password.isEmpty then none else some (escapeWith userinfoExtra password))

def isAuthorityEnd (c : Char) : Bool := c == '/' || c == '\\' || c == '?' || c == '#'

namespace HttpUrl

/-- Reads an absolute `http` or `https` URL. -/
def parse? (text : String) : Option HttpUrl := do
  let cs := clean text
  let schemeChars := cs.takeWhile (· != ':')
  let scheme := Text.asciiLower (String.ofList schemeChars)
  if !(scheme = "http" ∨ scheme = "https") then none
  let rest := (cs.drop (schemeChars.length + 1)).dropWhile fun c => c == '/' || c == '\\'
  let authority := rest.takeWhile (!isAuthorityEnd ·)
  let afterAuthority := rest.drop authority.length
  let (info, hostPort) := match authority.reverse.span (· != '@') with
    | (revHostPort, []) => (none, revHostPort.reverse)
    | (revHostPort, _ :: revInfo) => (some revInfo.reverse, revHostPort.reverse)
  let (hostChars, numberChars) := splitHostPort hostPort false
  if hostChars.isEmpty then none
  let host ← Host.parse? (String.ofList hostChars)
  let number ← portNumber? scheme (numberChars.getD [])
  let (username, password) := match info with
    | some i => userinfo i
    | none => ("", none)
  let pathChars := afterAuthority.takeWhile fun c => c != '?' && c != '#'
  let afterPath := afterAuthority.drop pathChars.length
  let path := match pathChars with
    | [] => [""]
    | _ :: more => pathSegments more
  let queryChars := match afterPath with
    | '?' :: more => some (more.takeWhile (· != '#'))
    | _ => none
  let fragmentChars := match (afterPath.dropWhile (· != '#')) with
    | '#' :: more => some more
    | _ => none
  return ⟨scheme, username, password, host, number, path, queryChars.map (escapeWith queryExtra),
    fragmentChars.map (escapeWith fragmentExtra)⟩

/-- The URL in normal form. -/
def serialize (u : HttpUrl) : String :=
  let credentials :=
    if u.username.isEmpty ∧ u.password.isNone then ""
    else u.username ++ (match u.password with
      | some p => ":" ++ p
      | none => "") ++ "@"
  u.scheme ++ "://" ++ credentials ++ u.host.serialize ++
    (match u.portNumber with
      | some p => ":" ++ toString p
      | none => "") ++
    "/" ++ "/".intercalate u.path ++
    (match u.query with
      | some q => "?" ++ q
      | none => "") ++
    (match u.fragment with
      | some f => "#" ++ f
      | none => "")

/-- Whether an escaped text decodes to valid UTF-8. -/
def decodesAsText (s : String) : Bool :=
  (String.fromUTF8? (ByteArray.mk (percentDecode s.toUTF8.toList).toArray)).isSome

/-- The URL without its user information, as it is sent once the credentials have moved
to a header. A user name that does not decode to text keeps them all; a password that does
not is dropped from the header, and keeps them when there is no user name. -/
def withoutCredentials (u : HttpUrl) : HttpUrl :=
  if !decodesAsText u.username then u
  else if !u.username.isEmpty || (u.password.filter decodesAsText).isSome then
    { u with username := "", password := none }
  else u

end HttpUrl

end Url

end HomePanel
