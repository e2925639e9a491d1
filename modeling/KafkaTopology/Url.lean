/-!
# URLs

A URL that a request can be sent to: a scheme, an authority (a host, with a port and an account if
they are given) and a target (a path with its query). `Url.ofText` reads one and drops its fragment.
A text without a scheme is refused, and so is a scheme that no request can be sent by.
-/
namespace KafkaTopology

/-- Why a request cannot be sent to a text. -/
inductive UrlError where
  | empty
  | tooLong
  | schemeTooLong
  /-- A character stands where it is not allowed. -/
  | character
  | authority
  | format
  /-- There is no scheme, only this. -/
  | noScheme (rest : String)
  | unknownScheme (scheme : String)
deriving DecidableEq, Repr

def UrlError.message : UrlError → String
  | .empty => "http: empty string"
  | .tooLong => "http: uri too long"
  | .schemeTooLong => "http: scheme too long"
  | .character => "http: invalid uri character"
  | .authority => "http: invalid authority"
  | .format => "http: invalid format"
  | .noScheme rest => "bad uri: " ++ rest ++ " is missing scheme"
  | .unknownScheme scheme => "bad uri: unknown scheme: " ++ scheme

/-- Where a request can be sent. -/
structure Url where
  scheme : String
  authority : String
  target : String
deriving DecidableEq, Repr

namespace Url

/-! ## Schemes -/

def schemes : List String := ["http", "https", "socks4", "socks4a", "socks", "socks5"]

def isScheme (s : String) : Bool := schemes.contains (s.map Char.toLower)

def isSchemeCharacter (c : Char) : Bool := c.isAlphanum || "+-.~".toList.contains c

/-- The scheme before the first `://` of a text, if only characters of schemes stand before it, and
what follows it. -/
def splitScheme (cs : List Char) : Option (List Char) × List Char :=
  match cs.span isSchemeCharacter with
  | (scheme, ':' :: '/' :: '/' :: rest) => (some scheme, rest)
  | _ => (none, cs)

/-! ## Authorities -/

def endsAuthority (c : Char) : Bool := c == '/' || c == '?' || c == '#'

def isAuthorityCharacter (c : Char) : Bool :=
  c.isAlphanum || "-._~:[]@!$&'()*+,;=".toList.contains c

/-- What was seen of an authority. -/
structure AuthorityScan where
  /-- The number of colons of the host and its port. -/
  colons : Nat
  opened : Bool
  closed : Bool
  /-- A percent sign stands in the host or its port. -/
  escaped : Bool

/-- Takes one character of an authority. Colons and percent signs before an `@` or within brackets
are not those of the host and its port. -/
def AuthorityScan.add (s : AuthorityScan) (c : Char) : Except UrlError AuthorityScan :=
  match c with
  | ':' => if 8 ≤ s.colons then .error .authority else .ok { s with colons := s.colons + 1 }
  | '[' => if s.escaped || s.opened then .error .authority else .ok { s with opened := true }
  | ']' =>
    if !s.opened || s.closed then .error .authority
    else .ok { s with colons := 0, closed := true, escaped := false }
  | '@' => .ok { s with colons := 0, escaped := false }
  | '%' => .ok { s with escaped := true }
  | c => if isAuthorityCharacter c then .ok s else .error .character

/-- Checks an authority: it has brackets in pairs, at most one colon before a port, no percent sign
in the host, and something after an `@`. -/
def checkAuthority (cs : List Char) : Except UrlError Unit := do
  let s ← cs.foldlM AuthorityScan.add ⟨0, false, false, false⟩
  if s.opened != s.closed || 1 < s.colons || s.escaped || cs.getLast? == some '@' then
    .error .authority
  else .ok ()

/-! ## Targets -/

def isPathCharacter (c : Char) : Bool := '!' ≤ c && c != '<' && c != '>' && c != '\x60'

def isQueryCharacter (c : Char) : Bool := '!' ≤ c && c != '"' && c != '<' && c != '>'

/-- A path with its query, without the fragment behind it. -/
def targetOf (cs : List Char) : Except UrlError String :=
  let cs := cs.takeWhile (· != '#')
  let (path, query) := cs.span (· != '?')
  if path.all isPathCharacter && query.all isQueryCharacter then .ok (String.ofList cs)
  else .error .character

/-! ## Texts -/

/-- The greatest number of octets of a text that is read as a URL. -/
def greatestSize : Nat := 65534

/-- The greatest number of characters of a scheme. -/
def greatestSchemeLength : Nat := 64

/-- A URL of a scheme, from what follows it. -/
def ofRest (scheme : String) (cs : List Char) : Except UrlError Url := do
  let (authority, rest) := cs.span (!endsAuthority ·)
  checkAuthority authority
  if authority.isEmpty then .error .format
  else
    let target ← targetOf rest
    if isScheme scheme then .ok ⟨scheme, String.ofList authority, target⟩
    else .error (.unknownScheme scheme)

/-- The URL that a text spells. -/
def ofText (text : String) : Except UrlError Url := do
  let cs := text.toList
  if greatestSize < text.utf8ByteSize then .error .tooLong
  else if cs.isEmpty then .error .empty
  else if cs.head? == some '/' then .error (.noScheme (← targetOf cs))
  else
    match splitScheme cs with
    | (some scheme, rest) =>
      if greatestSchemeLength < scheme.length then .error .schemeTooLong
      else ofRest (String.ofList scheme) rest
    | (none, _) =>
      let (authority, rest) := cs.span (!endsAuthority ·)
      checkAuthority authority
      if rest.isEmpty then .error (.noScheme text) else .error .format

/-- The host of a URL: what follows the last `@` of its authority, without a port. -/
def host (u : Url) : String :=
  let cs := (u.authority.toList.reverse.takeWhile (· != '@')).reverse
  match cs with
  | '[' :: _ => String.ofList (cs.takeWhile (· != ']') ++ [']'])
  | _ => String.ofList (cs.takeWhile (· != ':'))

end Url
end KafkaTopology
