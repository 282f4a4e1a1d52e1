import FleetAgent.Url.Domain
import FleetAgent.Url.Ipv4
import FleetAgent.Url.Ipv6

/-!
# Addresses

An address is read by the rules for absolute addresses on the web and written in its normal form.
Addresses with one of the well-known schemes have a host and a path that starts with a slash;
backslashes count as slashes in them. Of an address with another scheme only its parts up to the
host are checked.

## Main definitions

* `UrlError`: why a text is no address.
* `Url`: the parts of an address with a well-known scheme.
* `Url.parse` and `Url.render`: reading and writing.
-/

namespace FleetAgent

/-- Why a text is no address. -/
inductive UrlError where
  /-- The text has no scheme. -/
  | relativeWithoutBase
  /-- The address has no host. -/
  | emptyHost
  /-- The host is no domain name. -/
  | invalidDomain
  /-- The host holds a character that may not occur. -/
  | invalidHostCharacter
  /-- The host is no numeric address of four bytes. -/
  | invalidIpv4
  /-- The host is no numeric address of sixteen bytes. -/
  | invalidIpv6
  /-- The port is no number of 16 bits. -/
  | invalidPort
deriving DecidableEq, Repr

/-- The text of the error. -/
def UrlError.message : UrlError → String
  | relativeWithoutBase => "relative URL without a base"
  | emptyHost => "empty host"
  | invalidDomain => "invalid international domain name"
  | invalidHostCharacter => "invalid domain character"
  | invalidIpv4 => "invalid IPv4 address"
  | invalidIpv6 => "invalid IPv6 address"
  | invalidPort => "invalid port number"

/-- An address. -/
structure Url where
  /-- The scheme, in small letters. -/
  scheme : String
  /-- The user name and the password, encoded, with the colon between them if there is a
  password. -/
  userinfo : List Char := []
  /-- The host in its normal form. -/
  host : String := ""
  /-- The port, unless it is the usual one of the scheme. -/
  port : Option Nat := none
  /-- The segments of the path, encoded. -/
  path : List (List Char) := []
  /-- The query, encoded. -/
  query : Option (List Char) := none
  /-- The fragment, encoded. -/
  fragment : Option (List Char) := none
deriving DecidableEq, Repr

namespace Url

/-- The schemes with a host and a path of segments, each with its usual port. -/
def wellKnown : List (String × Nat) :=
  [("http", 80), ("https", 443), ("ws", 80), ("wss", 443), ("ftp", 21)]

/-- The usual port of a scheme. -/
def usualPort? (scheme : String) : Option Nat := wellKnown.lookup scheme

/-- Whether the scheme is one of the well-known ones. -/
def isWellKnown (scheme : String) : Bool := (usualPort? scheme).isSome

/-- The characters without controls and spaces at both ends, and without tabs and line breaks
anywhere. -/
def clean (cs : List Char) : List Char :=
  let blank (c : Char) : Bool := c.toNat ≤ 0x20
  (((cs.dropWhile blank).reverse.dropWhile blank).reverse).filter fun c =>
    !(c = '\t' || c = '\n' || c = '\r')

/-- The scheme in small letters, and the characters after its colon. -/
def splitScheme? (cs : List Char) : Option (String × List Char) :=
  let part (c : Char) : Bool := c.isAlphanum || c = '+' || c = '-' || c = '.'
  match cs with
  | [] => none
  | c :: _ =>
    if !c.isAlpha then none
    else match cs.dropWhile part with
      | ':' :: rest => some (String.ofList ((cs.takeWhile part).map Char.toLower), rest)
      | _ => none

/-- Whether the character ends the part of the address that names the host. -/
def endsAuthority (backslash : Bool) (c : Char) : Bool :=
  c = '/' || c = '?' || c = '#' || (backslash && c = '\\')

/-- The user name and the password at the front of an authority, and what follows the last sign
`@` in it. -/
def splitUserinfo (backslash : Bool) (cs : List Char) :
    Except UrlError (Option (List Char) × List Char) :=
  let authority := cs.takeWhile (!endsAuthority backslash ·)
  if authority.contains '@' then
    let user := (authority.reverse.dropWhile (· != '@')).drop 1 |>.reverse
    let rest := cs.drop (user.length + 1)
    if user.isEmpty && (match rest with | c :: _ => endsAuthority backslash c | [] => false) then
      .error .emptyHost
    else .ok (some user, rest)
  else .ok (none, cs)

/-- The user name and the password in encoded form, with the colon between them if there is a
password. -/
def encodeUserinfo (user : List Char) : List Char :=
  let name := user.takeWhile (· != ':')
  let encode := Url.percentEncode Url.EncodeSet.userinfo
  match user.dropWhile (· != ':') with
  | ':' :: password =>
    if password.isEmpty then encode name else encode name ++ ':' :: encode password
  | _ => encode name

/-- The characters of the host, which a colon ends unless it stands in brackets, and what
follows them. -/
def splitHost (backslash : Bool) : (inside : Bool) → List Char → List Char × List Char
  | _, [] => ([], [])
  | inside, c :: cs =>
    if endsAuthority backslash c || (c = ':' && !inside) then ([], c :: cs)
    else
      let inside := if c = '[' then true else if c = ']' then false else inside
      let (host, rest) := splitHost backslash inside cs
      (c :: host, rest)

/-- The numeric address of sixteen bytes between brackets. -/
def bracketedHost (cs : List Char) : Except UrlError String :=
  if cs.getLast? = some ']' ∧ 2 ≤ cs.length then
    match Ipv6.parse? (cs.drop 1).dropLast with
    | some pieces => .ok ("[" ++ Ipv6.render pieces ++ "]")
    | none => .error .invalidIpv6
  else .error .invalidIpv6

/-- The normal form of the host of an address with a well-known scheme. -/
def parseHost (cs : List Char) : Except UrlError String :=
  if cs.head? = some '[' then bracketedHost cs
  else match Domain.toAscii? (percentDecode cs) with
    | none => .error .invalidDomain
    | some [] => .error .emptyHost
    | some domain =>
      if Ipv4.isNumeric domain then
        match Ipv4.parse? domain with
        | some address => .ok (Ipv4.render address)
        | none => .error .invalidIpv4
      else .ok (String.ofList domain)

/-- The characters that may not occur in the host of an address with another scheme. -/
def refusedInHost : List Char :=
  ['\x00', '\t', '\n', '\r', ' ', '#', '/', ':', '<', '>', '?', '@', '[', '\\', ']', '^', '|']

/-- The normal form of the host of an address with another scheme. -/
def parseOtherHost (cs : List Char) : Except UrlError String :=
  if cs.head? = some '[' then bracketedHost cs
  else if cs.any refusedInHost.contains then .error .invalidHostCharacter
  else .ok (String.ofList (Url.percentEncode [] cs))

/-- The port at the front of the characters, and what follows it. -/
def parsePort (scheme : String) (cs : List Char) : Except UrlError (Option Nat × List Char) :=
  let digits := cs.takeWhile Char.isDigit
  let rest := cs.dropWhile Char.isDigit
  let n := digits.foldl (fun n c => n * 10 + (c.toNat - '0'.toNat)) 0
  if 65535 < n then .error .invalidPort
  else if (match rest with | c :: _ => !endsAuthority true c | [] => false) then
    .error .invalidPort
  else if digits.isEmpty || usualPort? scheme = some n then .ok (none, rest)
  else .ok (some n, rest)

/-- Whether a segment of a path stands for its own place. -/
def isSingleDot (segment : List Char) : Bool :=
  [".", "%2e"].contains (String.ofList (segment.map Char.toLower))

/-- Whether a segment of a path stands for the place above it. -/
def isDoubleDot (segment : List Char) : Bool :=
  ["..", "%2e%2e", "%2e.", ".%2e"].contains (String.ofList (segment.map Char.toLower))

/-- Whether a segment has the form of a drive, which no segment removes from a path. -/
def isDrive : List Char → Bool
  | [c, d] => c.isAlpha && (d = ':' || d = '|')
  | _ => false

/-- The segments, the last first, without the last one, unless it is a drive. -/
def removeLast : List (List Char) → List (List Char)
  | [] => []
  | s :: rest => if isDrive s then s :: rest else rest

/-- The segments of a path, given those before, the last first. -/
def foldSegments (before : List (List Char)) : List (List Char) → List (List Char)
  | [] => before.reverse
  | [s] =>
    if isDoubleDot s then ([] :: removeLast before).reverse
    else if isSingleDot s then ([] :: before).reverse
    else (s :: before).reverse
  | s :: rest =>
    if isDoubleDot s then foldSegments (removeLast before) rest
    else if isSingleDot s then foldSegments before rest
    else foldSegments (s :: before) rest

/-- The segments of the path of an address with a well-known scheme. -/
def parsePath (cs : List Char) : List (List Char) :=
  let cs := cs.map fun c => if c = '\\' then '/' else c
  let cs := if cs.head? = some '/' then cs.drop 1 else cs
  foldSegments [] ((cs.splitOn '/').map (Url.percentEncode Url.EncodeSet.path))

/-- The path, the query and the fragment at the end of an address. -/
def splitTail (cs : List Char) : List Char × Option (List Char) × Option (List Char) :=
  let front := cs.takeWhile (· != '#')
  let fragment := match cs.dropWhile (· != '#') with
    | _ :: f => some f
    | [] => none
  let path := front.takeWhile (· != '?')
  let query := match front.dropWhile (· != '?') with
    | _ :: q => some q
    | [] => none
  (path, query, fragment)

/-- The address of a well-known scheme, from the characters after the slashes. -/
def parseWellKnown (scheme : String) (cs : List Char) : Except UrlError Url := do
  let (user, rest) ← splitUserinfo true cs
  let (hostChars, rest) := splitHost true false rest
  if hostChars.isEmpty then throw .emptyHost
  let host ← parseHost hostChars
  let (port, rest) ← match rest with
    | ':' :: rest => parsePort scheme rest
    | rest => pure (none, rest)
  let (path, query, fragment) := splitTail rest
  return { scheme, host, port,
           userinfo := encodeUserinfo (user.getD []),
           path := parsePath path,
           query := query.map (Url.percentEncode Url.EncodeSet.query),
           fragment := fragment.map (Url.percentEncode Url.EncodeSet.fragment) }

/-- The address of a file, of which only the host is checked. A drive is no host. -/
def parseFile (scheme : String) (cs : List Char) : Except UrlError Url :=
  let cs := cs.map fun c => if c = '\\' then '/' else c
  match cs with
  | '/' :: '/' :: rest =>
    let host := rest.takeWhile (!endsAuthority true ·)
    if host.isEmpty || isDrive host then .ok { scheme }
    else (parseHost host).map fun host => { scheme, host }
  | _ => .ok { scheme }

/-- The address of another scheme, of which only the host and the port are checked. -/
def parseOther (scheme : String) (cs : List Char) : Except UrlError Url :=
  match cs with
  | '/' :: '/' :: rest => do
    let (user, rest) ← splitUserinfo false rest
    let (hostChars, rest) := splitHost false false rest
    let host ← parseOtherHost hostChars
    if host.isEmpty && rest.head? = some ':' then throw .emptyHost
    let (port, _) ← match rest with
      | ':' :: rest => parsePort scheme rest
      | rest => pure (none, rest)
    if host.isEmpty && !(encodeUserinfo (user.getD [])).isEmpty then throw .emptyHost
    return { scheme, host, port }
  | _ => .ok { scheme }

/-- The address of a text. -/
def parse (s : String) : Except UrlError Url :=
  match splitScheme? (clean s.toList) with
  | none => .error .relativeWithoutBase
  | some (scheme, rest) =>
    if isWellKnown scheme then
      parseWellKnown scheme (rest.dropWhile fun c => c = '/' || c = '\\')
    else if scheme = "file" then parseFile scheme rest
    else parseOther scheme rest

/-- The address in its normal form. -/
def render (u : Url) : String :=
  let user := if u.userinfo.isEmpty then "" else String.ofList u.userinfo ++ "@"
  let port := match u.port with
    | some n => ":" ++ toString n
    | none => ""
  let path := String.join (u.path.map fun s => "/" ++ String.ofList s)
  let part (mark : String) : Option (List Char) → String
    | some cs => mark ++ String.ofList cs
    | none => ""
  u.scheme ++ "://" ++ user ++ u.host ++ port ++ path ++ part "?" u.query ++ part "#" u.fragment

end Url

end FleetAgent
