import ClusterAccess.Text.Bytes
import ClusterAccess.Text.Pieces

namespace ClusterAccess.Http

structure Uri where
  scheme : Option String := none
  authority : Option String := none
  path : String
  query : Option String := none
deriving DecidableEq, Repr

namespace Uri

def isAlphanumeric (c : Char) : Bool :=
  c.isDigit || c.isAlpha

/-- The characters of an authority, its delimiters included. -/
def isAuthorityChar (c : Char) : Bool :=
  isAlphanumeric c || "!#$&'()*+,-./:;=?@[]_~".toList.contains c

def isSchemeChar (c : Char) : Bool :=
  isAlphanumeric c || "+-.~".toList.contains c

/-- Beside the characters of the standard a path may hold quotes, braces and non-ASCII. -/
def isPathChar (c : Char) : Bool :=
  let n := c.toNat
  n = 0x21 || (0x24 ≤ n && n ≤ 0x3b) || n = 0x3d || (0x40 ≤ n && n ≤ 0x5f) ||
    (0x61 ≤ n && n ≤ 0x7a) || n = 0x7c || n = 0x7e || 0x80 ≤ n ||
    c = '"' || c = '\x7b' || c = '\x7d'

def isQueryChar (c : Char) : Bool :=
  let n := c.toNat
  n = 0x21 || (0x24 ≤ n && n ≤ 0x3b) || n = 0x3d || (0x3f ≤ n && n ≠ 0x7f)

/-- What has been seen of an authority so far. -/
structure AuthorityScan where
  colons : Nat := 0
  opened : Bool := false
  closed : Bool := false
  percent : Bool := false
  /-- The last character was an at sign. -/
  atSign : Bool := false

def AuthorityScan.step (scan : AuthorityScan) (c : Char) : Option AuthorityScan :=
  let scan := { scan with atSign := c = '@' }
  if c = ':' then if 8 ≤ scan.colons then none else some { scan with colons := scan.colons + 1 }
  else if c = '[' then
    if scan.percent || scan.opened then none else some { scan with opened := true }
  else if c = ']' then
    if !scan.opened || scan.closed then none
    else some { scan with closed := true, colons := 0, percent := false }
  else if c = '@' then some { scan with colons := 0, percent := false }
  else if c = '%' then some { scan with percent := true }
  else if isAuthorityChar c then some scan
  else none

/-- At most one colon after the user part, brackets in pairs, and no percent sign in a host. -/
def isAuthority (cs : List Char) : Bool :=
  match cs.foldlM AuthorityScan.step {} with
  | none => false
  | some scan =>
    scan.opened = scan.closed && scan.colons ≤ 1 && !scan.percent && !scan.atSign

def endsAuthority (c : Char) : Bool :=
  c = '/' || c = '?' || c = '#'

/-- A path and a query, given what follows the authority; an absent path reads as a slash. -/
def target? (cs : List Char) : Option (String × Option String) :=
  let cs := cs.takeWhile (· ≠ '#')
  let (path, rest) := cs.span (· ≠ '?')
  let query := rest.drop 1
  if path.all isPathChar && query.all isQueryChar then
    some (if path = [] then "/" else String.ofList path,
      if rest = [] then none else some (String.ofList query))
  else none

/-- The scheme in front of a double slash, and what follows it. -/
def splitScheme (cs : List Char) : Option (List Char × List Char) :=
  match cs.span isSchemeChar with
  | (scheme, ':' :: '/' :: '/' :: rest) => some (scheme, rest)
  | _ => none

def absolute? (scheme rest : List Char) : Option Uri := do
  let (authority, rest) := rest.span (!endsAuthority ·)
  if 64 < scheme.length || authority = [] || !isAuthority authority then none
  else
    let name := String.ofList scheme
    let lowered := Text.lower name
    let (path, query) ← target? rest
    some {
      scheme := some (if lowered = "http" || lowered = "https" then lowered else name)
      authority := some (String.ofList authority)
      path, query }

/-- A path with an optional query, an absolute address, a bare authority, or a star. A fragment is
dropped. -/
def parse? (s : String) : Option Uri :=
  let cs := s.toList
  if cs = [] || 65534 < s.utf8ByteSize then none
  else if cs = ['*'] then some { path := "*" }
  else if cs.head? = some '/' then do
    let (path, query) ← target? cs
    some { path, query }
  else match splitScheme cs with
    | some (scheme, rest) => absolute? scheme rest
    | none =>
      if cs.any endsAuthority || !isAuthority cs then none
      else some { authority := some s, path := "" }

/-- The path with its query. -/
def target (uri : Uri) : String :=
  match uri.query with
  | none => uri.path
  | some query => s!"{uri.path}?{query}"

def print (uri : Uri) : String :=
  let scheme := match uri.scheme with
    | none => ""
    | some scheme => s!"{scheme}://"
  scheme ++ uri.authority.getD "" ++ uri.target

end Uri

end ClusterAccess.Http

namespace ClusterAccess.Http.Form

def upperHex (n : Nat) : Char :=
  if n < 10 then Char.ofNat (48 + n) else Char.ofNat (55 + n)

def isPlain (n : Nat) : Bool :=
  (48 ≤ n && n ≤ 57) || (65 ≤ n && n ≤ 90) || (97 ≤ n && n ≤ 122) ||
    n = 0x2a || n = 0x2d || n = 0x2e || n = 0x5f

def encodeByte (b : UInt8) : List Char :=
  let n := b.toNat
  if isPlain n then [Char.ofNat n]
  else if n = 0x20 then ['+']
  else ['%', upperHex (n / 16), upperHex (n % 16)]

/-- Letters, digits and a few signs stand for themselves, a space is a plus, every other byte is
written in hexadecimal. -/
def encode (s : String) : String :=
  String.ofList ((Bytes.ofText s).flatMap encodeByte)

/-- Each parameter with an ampersand in front. -/
def query (parameters : List (String × String)) : String :=
  "".intercalate (parameters.map fun p => "&" ++ encode p.1 ++ "=" ++ encode p.2)

end ClusterAccess.Http.Form
