import PromptLibrary.Domain.Name
import PromptLibrary.Text.Lower
import PromptLibrary.Text.Quoted
import PromptLibrary.Url.Address
import PromptLibrary.Url.Percent
/-!
# Addresses on the net

An address is cut into its parts, each part is brought into its usual form, and the whole is
written anew: in ASCII, without dots in the path and without a port that goes without saying.
-/

namespace PromptLibrary

/-- An address in its usual form. -/
structure Url where
  scheme : List Char := []
  userinfo : List Char := []
  host : List Char := []
  port : Option Int := none
  path : List Char := []
  query : Option (List Char) := none
  fragment : Option (List Char) := none
  deriving DecidableEq, Repr

/-- Why a text is no address. -/
inductive UrlError where
  | tooLong
  | partTooLong (name : String)
  /-- A control character. -/
  | unprintable (c : Char) (position : Nat)
  | port (text : List Char)
  | ipv4 (host : List Char)
  | ipv6 (host : List Char)
  | domain (host : List Char)
  /-- The path behind a host does not begin with a slash. -/
  | pathWithoutSlash
  /-- A path alone begins with two slashes. -/
  | pathLikeHost
  /-- A path alone begins with a colon. -/
  | pathLikeScheme
  deriving DecidableEq, Repr

def UrlError.message : UrlError → String
  | tooLong => "URL too long"
  | partTooLong name => s!"URL component '{name}' too long"
  | unprintable c position =>
    let shown := Text.quotedString [c]
    s!"Invalid non-printable ASCII character in URL, {shown} at position {position}."
  | port text => s!"Invalid port: {Text.quotedString text}"
  | ipv4 host => s!"Invalid IPv4 address: {Text.quotedString host}"
  | ipv6 host => s!"Invalid IPv6 address: {Text.quotedString host}"
  | domain host => s!"Invalid IDNA hostname: {Text.quotedString host}"
  | pathWithoutSlash => "For absolute URLs, path must be empty or begin with '/'"
  | pathLikeHost => "Relative URLs cannot have a path starting with '//'"
  | pathLikeScheme => "Relative URLs cannot have a path starting with ':'"

namespace Url

/-! ## Cutting -/

/-- An address cut at its marks, its parts as they are given. -/
structure Parts where
  scheme : List Char
  authority : List Char
  path : List Char
  query : Option (List Char)
  fragment : Option (List Char)
  deriving DecidableEq, Repr

def isSchemeChar (c : Char) : Bool :=
  c.isAlphanum || c = '+' || c = '.' || c = '-'

/-- The scheme in front of a colon, and what stands behind it. -/
def takeScheme (s : List Char) : List Char × List Char :=
  let name := if s.head?.any Char.isAlpha then s.takeWhile isSchemeChar else []
  match s.drop name.length with
  | ':' :: rest => (name, rest)
  | _ => ([], s)

/-- What stands behind two slashes, up to the path, and the rest. -/
def takeAuthority : List Char → List Char × List Char
  | '/' :: '/' :: rest =>
    let isPart (c : Char) : Bool := c ≠ '/' && c ≠ '?' && c ≠ '#'
    (rest.takeWhile isPart, rest.dropWhile isPart)
  | s => ([], s)

/-- A text up to a mark, and what stands behind the mark. -/
def cutAt (mark : Char) (s : List Char) : List Char × Option (List Char) :=
  match s.dropWhile (· ≠ mark) with
  | [] => (s, none)
  | _ :: rest => (s.takeWhile (· ≠ mark), some rest)

/-- The parts of an address. -/
def Parts.ofChars (s : List Char) : Parts :=
  let (scheme, rest) := takeScheme s
  let (authority, rest) := takeAuthority rest
  let (rest, fragment) := cutAt '#' rest
  let (path, query) := cutAt '?' rest
  { scheme, authority, path, query, fragment }

/-- The host and the port that an authority names; a host in brackets may hold colons. -/
def hostAndPort (s : List Char) : List Char × List Char :=
  let isPlain (c : Char) : Bool := c ≠ ':' && c ≠ '@'
  let host := match s with
    | '[' :: _ =>
      match Search.cutLast? ']' s with
      | some (before, _) => before ++ [']']
      | none => s.takeWhile isPlain
    | _ => s.takeWhile isPlain
  match s.drop host.length with
  | ':' :: port => (host, port)
  | port => (host, port)

/-! ## Usual forms -/

/-- Whether a character needs no escape in a query. -/
def isQuerySafe (c : Char) : Bool :=
  decide (0x20 < c.toNat) && decide (c.toNat < 0x7F) && c ∉ ['"', '#', '<', '>']

/-- Whether a character needs no escape in a path. -/
def isPathSafe (c : Char) : Bool :=
  isQuerySafe c && c ∉ ['?', '\x60', '\x7b', '\x7d']

/-- Whether a character needs no escape behind the mark of a fragment. -/
def isFragmentSafe (c : Char) : Bool :=
  decide (0x20 < c.toNat) && decide (c.toNat < 0x7F) && c ∉ ['"', '<', '>', '\x60']

/-- Whether a character needs no escape in the name and the password of a user. -/
def isUserSafe (c : Char) : Bool :=
  isPathSafe c && c ∉ ['/', ';', '=', '@', '[', '\\', ']', '^', '|']

/-- Whether a character needs no escape in the name of a host. -/
def isHostSafe (c : Char) : Bool :=
  "!$&'()*+,;=\"\x60\x7b\x7d%|\\".toList.contains c

/-- The usual form of a host. -/
def hostOf (host : List Char) : Except UrlError (List Char) :=
  let inner := (host.drop 1).dropLast
  if host = [] then .ok []
  else if looksIpv4 host then if isIpv4 host then .ok host else .error (.ipv4 host)
  else if 2 ≤ host.length ∧ host.head? = some '[' ∧ host.getLast? = some ']' then
    if isIpv6 inner then .ok inner else .error (.ipv6 host)
  else if host.all fun c => c.toNat < 0x80 then
    .ok (escape isHostSafe (host.map Char.toLower))
  else match Domain.asciiName? (Text.lower host) with
    | some name => .ok name
    | none => .error (.domain host)

/-- The port that goes without saying. -/
def usualPort? (scheme : List Char) : Option Int :=
  [("ftp", 21), ("http", 80), ("https", 443), ("ws", 80), ("wss", 443)].lookup
    (String.ofList scheme)

/-- The port that a text names, unless the scheme has it as its usual one. -/
def portOf (scheme text : List Char) : Except UrlError (Option Int) :=
  if text = [] then .ok none
  else match Integer.read 10 text with
    | .error _ => .error (.port text)
    | .ok n => .ok (if usualPort? scheme = some n then none else some n)

/-- Works out the dots among the components of a path. -/
def withoutDots (before : List (List Char)) : List (List Char) → List (List Char)
  | [] => before
  | ['.'] :: rest => withoutDots before rest
  | ['.', '.'] :: rest =>
    withoutDots (if before = [[]] then before else before.dropLast) rest
  | component :: rest => withoutDots (before ++ [component]) rest

/-- A path without dots that lead nowhere or back. -/
def plainPath (path : List Char) : List Char :=
  let components := Search.splitOn '/' path
  if components.contains ['.'] || components.contains ['.', '.'] then
    Search.joinWith ['/'] (withoutDots [] components)
  else path

/-- The most characters of an address and of each of its parts. -/
def lengthLimit : Nat := 65536

/-- Whether a character is a control character of ASCII. -/
def isControl (c : Char) : Bool :=
  c.toNat < 0x20 || c.toNat = 0x7F

/-- What is wrong with a path, by what stands before it. -/
def pathError? (hasScheme hasAuthority : Bool) (path : List Char) : Option UrlError :=
  if hasAuthority then
    if path ≠ [] ∧ path.head? ≠ some '/' then some .pathWithoutSlash else none
  else if hasScheme then none
  else match path with
    | '/' :: '/' :: _ => some .pathLikeHost
    | ':' :: _ => some .pathLikeScheme
    | _ => none

/-- The usual form of an address that is cut into its parts. -/
def ofParts (p : Parts) : Except UrlError Url := do
  let (user, place) := (Search.cutLast? '@' p.authority).getD ([], p.authority)
  let (hostText, portText) := hostAndPort place
  let userinfo := escape isUserSafe user
  let host ← hostOf hostText
  let port ← portOf p.scheme portText
  let hasScheme := decide (p.scheme ≠ [])
  let hasAuthority := decide (userinfo ≠ [] ∨ host ≠ [] ∨ port ≠ none)
  if let some e := pathError? hasScheme hasAuthority p.path then throw e
  let path := if hasScheme || hasAuthority then plainPath p.path else p.path
  return {
    scheme := p.scheme.map Char.toLower
    userinfo, host, port
    path := escape isPathSafe path
    query := p.query.map (escape isQuerySafe)
    fragment := p.fragment.map (escape isFragmentSafe) }

/-- Reads an address. -/
def ofChars (s : List Char) : Except UrlError Url :=
  if lengthLimit < s.length then .error .tooLong
  else match s.dropWhile (!isControl ·) with
    | c :: _ => .error (.unprintable c (s.takeWhile (!isControl ·)).length)
    | [] => ofParts (.ofChars s)

/-! ## Writing -/

/-- The part of an address that names a host, without the user. -/
def place (u : Url) : List Char :=
  (if ':' ∈ u.host then '[' :: u.host ++ [']'] else u.host) ++
    match u.port with
    | none => []
    | some n => ':' :: (toString n).toList

/-- The path and the query, as they are asked of a host. -/
def target (u : Url) : List Char :=
  (if u.path = [] then ['/'] else u.path) ++
    match u.query with
    | none => []
    | some q => '?' :: q

/-- The text of an address. -/
def chars (u : Url) : List Char :=
  let authority := (if u.userinfo = [] then [] else u.userinfo ++ ['@']) ++ u.place
  let marked (mark : Char) (part : Option (List Char)) : List Char :=
    match part with
    | none => []
    | some cs => mark :: cs
  (if u.scheme = [] then [] else u.scheme ++ [':']) ++
    (if authority = [] then [] else '/' :: '/' :: authority) ++
    u.path ++ marked '?' u.query ++ marked '#' u.fragment

def text (u : Url) : String :=
  String.ofList u.chars

/-- Whether an address says by itself where it leads. -/
def isAbsolute (u : Url) : Bool :=
  u.scheme ≠ [] && u.host ≠ []

/-! ## Use -/

/--
The address that is asked for. One that does not say where it leads is taken as a path from the
root of an unnamed host.
-/
def resolve (s : List Char) : Except UrlError Url := do
  let u ← ofChars s
  if u.isAbsolute then return u
  let (path, query) := cutAt '?' (u.target.dropWhile (· = '/'))
  if lengthLimit < path.length + 1 then throw (.partTooLong "path")
  if lengthLimit < (query.getD []).length then throw (.partTooLong "query")
  return { path := escape isPathSafe ('/' :: path), query := query.map (escape isQuerySafe) }

/-- The name and the password of the user, unless both are empty. -/
def credentials? (u : Url) : Option (List Char × List Char) :=
  let (name, password) := cutAt ':' u.userinfo
  let found := (unescape name, unescape (password.getD []))
  if found = ([], []) then none else some found

end Url

end PromptLibrary
