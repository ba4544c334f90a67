/-!
# URLs

A URL is taken apart into its scheme, an authority, a path, a query and a fragment. All parts are
kept as they are written, with what needs encoding encoded. A path is a list of segments, each of
which is written with a slash in front, or a plain text without structure. A path that is read
without an authority but starts with two slashes is kept apart from the scheme by a dot, which
stays whatever becomes of the path.
-/

namespace MailboxKeeper

namespace Url

/-- What a URL names as its server. -/
inductive Host where
  | domain (name : String)
  | ipv4 (address : Nat)
  | ipv6 (pieces : List Nat)
  deriving DecidableEq, Repr

/-- Who is addressed where. -/
structure Authority where
  username : String
  password : String
  host : Host
  port : Option Nat
  deriving DecidableEq, Repr

/-- A path: segments, or a plain text. -/
inductive Path where
  | segments (names : List String)
  | plain (text : String)
  deriving DecidableEq, Repr

/-- The port that a scheme implies. -/
def defaultPort? : String → Option Nat
  | "http" | "ws" => some 80
  | "https" | "wss" => some 443
  | "ftp" => some 21
  | _ => none

/-- A scheme whose URLs have an authority and read a backslash as a slash. -/
def isSpecialScheme (scheme : String) : Bool :=
  (defaultPort? scheme).isSome || scheme == "file"

/-- The start and length of the longest run of zeros, of several the first. -/
def longestZeros (start : Nat) : List Nat → Nat × Nat
  | [] => (start, 0)
  | p :: ps =>
    let run := ((p :: ps).takeWhile (· == 0)).length
    let later := longestZeros (start + 1) ps
    if later.2 ≤ run then (start, run) else later

/-- Numbers in hexadecimal with colons between them. -/
def colonHex (pieces : List Nat) : String :=
  String.intercalate ":" (pieces.map fun p => String.ofList (Nat.toDigits 16 p))

/-- An address of eight numbers. The longest run of zeros is left out if it has two or more. -/
def renderIpv6 (pieces : List Nat) : String :=
  let (start, count) := longestZeros 0 pieces
  if count < 2 then colonHex pieces
  else colonHex (pieces.take start) ++ "::" ++ colonHex (pieces.drop (start + count))

/-- An address of four numbers below 256. -/
def renderIpv4 (address : Nat) : String :=
  String.intercalate "." ([address / 16777216, address / 65536 % 256, address / 256 % 256,
    address % 256].map toString)

namespace Host

def render : Host → String
  | domain name => name
  | ipv4 address => renderIpv4 address
  | ipv6 pieces => "[" ++ renderIpv6 pieces ++ "]"

end Host

namespace Authority

/-- The name and password that stand before the host. -/
def userInfo (a : Authority) : String :=
  a.username ++ (if a.password.isEmpty then "" else ":" ++ a.password)

def render (a : Authority) : String :=
  (if a.userInfo.isEmpty then "" else a.userInfo ++ "@") ++ a.host.render
    ++ (match a.port with
      | some port => ":" ++ toString port
      | none => "")

end Authority

/-- Segments, each with a slash in front. -/
def renderSegments (names : List String) : String := String.join (names.map fun n => "/" ++ n)

namespace Path

def render : Path → String
  | segments names => renderSegments names
  | plain text => text

/-- Has the path an empty first segment and others behind it, so that it starts with two slashes? -/
def opensEmpty : Path → Bool
  | segments ("" :: _ :: _) => true
  | _ => false

end Path

end Url

/-- A URL. Where `isApart` is set, a dot keeps the path of a URL without an authority from being
read as one. -/
structure Url where
  scheme : String
  authority : Option Url.Authority
  isApart : Bool
  path : Url.Path
  query : Option String
  fragment : Option String
  deriving DecidableEq, Repr

namespace Url

/-- Has the URL a scheme with an authority? -/
def isSpecial (u : Url) : Bool := isSpecialScheme u.scheme

/-- Has the URL a plain path, to which no segment can be added? -/
def isPlain (u : Url) : Bool :=
  match u.path with
  | .plain _ => true
  | .segments _ => false

/-- What stands between the scheme and the path. -/
def beforePath (u : Url) : String :=
  match u.authority with
  | some a => "//" ++ a.render
  | none => if u.isApart then "/." else ""

/-- A part that a mark announces. -/
def marked (mark : String) : Option String → String
  | some text => mark ++ text
  | none => ""

/-- The text of a URL up to its fragment. -/
def renderWithoutFragment (u : Url) : String :=
  u.scheme ++ ":" ++ u.beforePath ++ u.path.render ++ marked "?" u.query

/-- The text of a URL. -/
def render (u : Url) : String := u.renderWithoutFragment ++ marked "#" u.fragment

end Url

end MailboxKeeper
