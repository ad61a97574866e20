import ClusterAccess.Json.Basic

namespace ClusterAccess.Json

namespace Printer

def hexDigit (n : Nat) : Char :=
  if n < 10 then Char.ofNat (48 + n) else Char.ofNat (87 + n)

/-- Quotes, backslashes and control characters are escaped; all else stands for itself. -/
def escape (c : Char) : List Char :=
  if c = '"' then ['\\', '"']
  else if c = '\\' then ['\\', '\\']
  else if c = '\x08' then ['\\', 'b']
  else if c = '\x0c' then ['\\', 'f']
  else if c = '\n' then ['\\', 'n']
  else if c = '\r' then ['\\', 'r']
  else if c = '\t' then ['\\', 't']
  else if c.toNat < 32 then
    ['\\', 'u', '0', '0', hexDigit (c.toNat / 16), hexDigit (c.toNat % 16)]
  else [c]

def quoted (s : List Char) : List Char :=
  '"' :: (s.flatMap escape ++ ['"'])

def natural (n : Nat) : List Char :=
  Nat.toDigits 10 n

def integer (n : Int) : List Char :=
  if n < 0 then '-' :: natural n.natAbs else natural n.natAbs

/-- Positional from 1e-5 up to 1e16, with a point always; outside of it one digit, the others
behind a point, and the power of ten. -/
def double (digits : Nat) (exponent : Int) : List Char :=
  if digits = 0 then ['0', '.', '0']
  else
    let ds := natural digits
    let point : Int := ds.length + exponent
    if 0 ≤ exponent ∧ point ≤ 16 then
      ds ++ List.replicate exponent.toNat '0' ++ ['.', '0']
    else if 0 < point ∧ point ≤ 16 then
      ds.take point.toNat ++ ['.'] ++ ds.drop point.toNat
    else if -5 < point ∧ point ≤ 0 then
      ['0', '.'] ++ List.replicate (-point).toNat '0' ++ ds
    else
      match ds with
      | [d] => d :: 'e' :: integer (point - 1)
      | d :: more => d :: '.' :: (more ++ 'e' :: integer (point - 1))
      | [] => []

def number : Number → List Char
  | .whole n => integer n
  | .double negative digits exponent =>
    (if negative then ['-'] else []) ++ double digits exponent

mutual

def value : Json → List Char
  | .null => ['n', 'u', 'l', 'l']
  | .bool true => ['t', 'r', 'u', 'e']
  | .bool false => ['f', 'a', 'l', 's', 'e']
  | .num n => number n
  | .str s => quoted s.toList
  | .arr items => '[' :: (elements items ++ [']'])
  | .obj ms => '\x7b' :: (members ms ++ ['\x7d'])

def elements : List Json → List Char
  | [] => []
  | [x] => value x
  | x :: y :: rest => value x ++ ',' :: elements (y :: rest)

def members : List (String × Json) → List Char
  | [] => []
  | [(k, v)] => quoted k.toList ++ ':' :: value v
  | (k, v) :: m :: rest => quoted k.toList ++ ':' :: (value v ++ ',' :: members (m :: rest))

end

end Printer

/-- No white space, and members in the order in which the value holds them. -/
def print (v : Json) : String :=
  String.ofList (Printer.value v)

end ClusterAccess.Json
