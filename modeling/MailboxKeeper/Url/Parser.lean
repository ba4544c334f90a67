import MailboxKeeper.Url.Domain
import MailboxKeeper.Url.Path

/-!
# Reading URLs

`parse` reads an absolute URL. Blanks and controls at the ends are dropped, tabs and line breaks
everywhere. A special URL needs a host, which is a domain or an address; any other URL may have
one, which is kept as it is, and without one its path is plain unless it starts with a slash.
-/

namespace MailboxKeeper.Url

open Text

/-- Why a text is no URL. -/
inductive ParseError where
  | relative
  | emptyHost
  | invalidDomain
  | invalidPort
  | invalidIpv4
  | invalidIpv6
  | invalidHostCharacter
  deriving DecidableEq, Repr

def ParseError.message : ParseError → String
  | relative => "relative URL without a base"
  | emptyHost => "empty host"
  | invalidDomain => "invalid international domain name"
  | invalidPort => "invalid port number"
  | invalidIpv4 => "invalid IPv4 address"
  | invalidIpv6 => "invalid IPv6 address"
  | invalidHostCharacter => "invalid domain character"

/-- The value of a number in an address: hexadecimal after `0x`, octal after `0`, else decimal. -/
def ipv4Number? : List Char → Option Nat
  | [] => none
  | '0' :: x :: rest =>
    if x = 'x' ∨ x = 'X' then
      if rest.all isHexDigit then some (digitsValue 16 rest) else none
    else if (x :: rest).all fun c => '0' ≤ c && c ≤ '7' then some (digitsValue 8 (x :: rest))
    else none
  | cs => if cs.all Char.isDigit then some (digitsValue 10 cs) else none

/-- The labels of a domain, without an empty one at its end. -/
def numberLabels (domain : List Char) : List (List Char) :=
  let labels := Address.labels domain
  if labels.getLast? = some [] then labels.dropLast else labels

/-- Does the domain end in a number, so that it has to be an address? -/
def endsInNumber (domain : List Char) : Bool :=
  match (numberLabels domain).getLast? with
  | some label => (!label.isEmpty && label.all Char.isDigit) || (ipv4Number? label).isSome
  | none => false

/-- How many values the bytes have that `count` numbers of one byte leave of an address. -/
def valuesAfter (count : Nat) : Nat := Nat.pow 256 (4 - count)

/-- The address of up to four numbers, of which the last fills the bytes that are left. -/
def ipv4? (domain : List Char) : Option Nat := do
  let labels := numberLabels domain
  if 4 < labels.length then none
  let numbers ← labels.mapM ipv4Number?
  let last ← numbers.getLast?
  let others := numbers.dropLast
  let values := valuesAfter others.length
  if others.any (255 < ·) ∨ values ≤ last then none
  return others.foldl (fun n part => n * 256 + part) 0 * values + last

/-- A number below 256 without a leading zero. -/
def byteNumber? (cs : List Char) : Option Nat :=
  if !cs.isEmpty && cs.all Char.isDigit && (cs.length == 1 || cs.head? != some '0')
      && digitsValue 10 cs ≤ 255 then
    some (digitsValue 10 cs)
  else none

/-- Four numbers with dots between them, as two of sixteen bits. -/
def dottedPieces? (cs : List Char) : Option (List Nat) :=
  match (Address.labels cs).mapM byteNumber? with
  | some [a, b, c, d] => some [a * 256 + b, c * 256 + d]
  | _ => none

/-- A number of one to four hexadecimal digits. -/
def piece? (cs : List Char) : Option Nat :=
  if !cs.isEmpty && cs.length ≤ 4 && cs.all isHexDigit then some (digitsValue 16 cs) else none

/-- The numbers of a group; the last may be four decimal ones with dots if `dotted` is set. -/
def groupPieces? (dotted : Bool) : List (List Char) → Option (List Nat)
  | [] => some []
  | [cs] =>
    match piece? cs with
    | some p => some [p]
    | none => if dotted then dottedPieces? cs else none
  | cs :: rest => do
    let p ← piece? cs
    let ps ← groupPieces? dotted rest
    return p :: ps

/-- The numbers of a group with colons between them, which may be empty. -/
def colonPieces? (dotted : Bool) (cs : List Char) : Option (List Nat) :=
  if cs.isEmpty then some [] else groupPieces? dotted (splitAt (· == ':') cs)

/-- What stands before and after the first double colon. -/
def splitDoubleColon? : List Char → Option (List Char × List Char)
  | ':' :: ':' :: rest => some ([], rest)
  | c :: rest => (splitDoubleColon? rest).map fun p => (c :: p.1, p.2)
  | [] => none

/-- The address of eight numbers, of which a double colon leaves out zeros. -/
def ipv6? (cs : List Char) : Option (List Nat) :=
  match splitDoubleColon? cs with
  | some (before, after) => do
    let left ← colonPieces? false before
    let right ← colonPieces? true after
    let count := left.length + right.length
    if count ≤ 7 then return left ++ List.replicate (8 - count) 0 ++ right else none
  | none => (colonPieces? true cs).filter fun pieces => pieces.length == 8

/-- The address that stands between brackets. -/
def readBracketed (cs : List Char) : Except ParseError Host :=
  match (if cs.getLast? = some ']' then ipv6? (cs.drop 1).dropLast else none) with
  | some pieces => .ok (.ipv6 pieces)
  | none => .error .invalidIpv6

/-- The host of a special URL. -/
def readDomainHost (cs : List Char) : Except ParseError Host :=
  if cs.head? = some '[' then readBracketed cs
  else
    match (percentDecode? cs).bind Domain.toAscii? with
    | none => .error .invalidDomain
    | some domain =>
      if domain.isEmpty then .error .emptyHost
      else if endsInNumber domain then
        match ipv4? domain with
        | some address => .ok (.ipv4 address)
        | none => .error .invalidIpv4
      else .ok (.domain (String.ofList domain))

/-- A character that must not stand in the host of any URL. -/
def isForbiddenHostChar (c : Char) : Bool := c.toNat == 0 || isAmong " #/:<>?@[\\]^|" c

/-- The host of a URL that is not special. -/
def readPlainHost (cs : List Char) : Except ParseError Host :=
  if cs.head? = some '[' then readBracketed cs
  else if cs.any isForbiddenHostChar then .error .invalidHostCharacter
  else .ok (.domain (String.ofList (percentEncode isControl cs)))

/-- The text up to a colon outside of brackets, and the text from there on. -/
def splitPort (inside : Bool) : List Char → List Char × List Char
  | [] => ([], [])
  | c :: cs =>
    if c = ':' ∧ !inside then ([], c :: cs)
    else
      let (host, rest) := splitPort (if c = '[' then true else if c = ']' then false else inside) cs
      (c :: host, rest)

/-- The port that a text after a colon gives, if it gives one that the scheme does not imply, and
what stands behind it. Only a backslash, with which a path starts, may follow. -/
def readPort (scheme : String) (cs : List Char) :
    Except ParseError (Option Nat × List Char) :=
  let digits := cs.takeWhile Char.isDigit
  let rest := cs.dropWhile Char.isDigit
  if !rest.head?.all (· == '\\') || 65535 < digitsValue 10 digits then .error .invalidPort
  else if digits.isEmpty || defaultPort? scheme == some (digitsValue 10 digits) then
    .ok (none, rest)
  else .ok (some (digitsValue 10 digits), rest)

/-- What stands before the last `@`, if there is one, and what stands after it. -/
def splitUserInfo (cs : List Char) : Option (List Char) × List Char :=
  match Address.afterLastAt? cs with
  | some rest => (some (cs.take (cs.length - rest.length - 1)), rest)
  | none => (none, cs)

/-- The name and the password that stand before a host. -/
def namePassword (cs : List Char) : String × String :=
  let encode := fun part => String.ofList (percentEncode inUserInfo part)
  (encode (cs.takeWhile (· != ':')), encode ((cs.dropWhile (· != ':')).drop 1))

/-- An authority, and what its port leaves to the path; `ends` tells whether nothing follows. -/
def readAuthority (scheme : String) (cs : List Char) (ends : Bool) :
    Except ParseError (Authority × List Char) := do
  let special := isSpecialScheme scheme
  let (userInfo, server) := splitUserInfo cs
  let (username, password) := namePassword (userInfo.getD [])
  let (hostText, portText) := splitPort false server
  if userInfo = some [] ∧ server = [] ∧ !ends then throw .emptyHost
  if special ∧ hostText = [] then throw .emptyHost
  let host ← if special then readDomainHost hostText else readPlainHost hostText
  if host = .domain "" ∧ portText ≠ [] then throw .emptyHost
  let (port, rest) ← readPort scheme (portText.drop 1)
  if host = .domain "" ∧ (!username.isEmpty || !password.isEmpty) then throw .emptyHost
  return (⟨username, password, host, port⟩, rest)

/-- The path after an authority. Only a special URL has to have one. -/
def pathAfterAuthority (scheme : String) (cs : List Char) : Path :=
  match cs with
  | [] => .segments (if isSpecialScheme scheme then [""] else [])
  | c :: rest =>
    .segments (readPath scheme (if isSlash (isSpecialScheme scheme) c then rest else cs)).names

/-- The server and path of a URL whose scheme has servers. -/
def specialParts (scheme : String) (cs : List Char) :
    Except ParseError (Option Authority × Path) := do
  let cs := cs.dropWhile (isSlash true)
  let server := cs.takeWhile fun c => !isSlash true c
  let rest := cs.dropWhile fun c => !isSlash true c
  let (a, _) ← readAuthority scheme server rest.isEmpty
  return (some a, pathAfterAuthority scheme rest)

/-- The host of a file; the local one is not named. -/
def fileHost (cs : List Char) : Except ParseError Host :=
  if cs.isEmpty then .ok (.domain "")
  else do
    let host ← readDomainHost cs
    return if host = .domain "localhost" then .domain "" else host

/-- A file at a path on a host. The path does not start with an empty segment, unless it has no
other, and a drive takes the place of the host. -/
def fileOn (host : Host) (path : ReadPath) : Option Authority × Path :=
  let names := path.names.dropWhile (· == "")
  (some ⟨"", "", if path.onDrive then .domain "" else host, none⟩,
    .segments (if names.isEmpty then [""] else names))

/-- The host and path of a file whose host is written between two slashes and the next one. What
would be a host but names a drive belongs to the path. Behind a host that is not named the slash
is a segment of its own. -/
def fileOnServer (cs : List Char) : Except ParseError (Option Authority × Path) := do
  let server := significant (cs.takeWhile fun c => !isSlash true c)
  let rest := cs.dropWhile fun c => !isSlash true c
  if isDrive server then return fileOn (.domain "") (readPath "file" cs)
  else
    let host ← fileHost server
    return fileOn host (readPath "file" (if host = .domain "" then rest else rest.drop 1))

/-- What follows a slash at the front, before which characters may be dropped. -/
def afterSlash? (cs : List Char) : Option (List Char) :=
  match cs.dropWhile isDropped with
  | c :: rest => if isSlash true c then some rest else none
  | [] => none

/-- The host and path of a file. The characters that are dropped still stand in the text. -/
def fileParts (cs : List Char) : Except ParseError (Option Authority × Path) :=
  match afterSlash? cs with
  | none => .ok (fileOn (.domain "") (readPath "file" cs))
  | some rest =>
    match afterSlash? rest with
    | none => .ok (fileOn (.domain "") (readPath "file" rest))
    | some server => fileOnServer server

/-- The authority and path of a URL that is not special. -/
def plainParts (scheme : String) (ends : Bool) (cs : List Char) :
    Except ParseError (Option Authority × Path) :=
  match cs with
  | '/' :: '/' :: rest => do
    let server := rest.takeWhile (· != '/')
    let path := rest.dropWhile (· != '/')
    let (a, left) ← readAuthority scheme server (path.isEmpty && ends)
    return (some a, pathAfterAuthority scheme (left ++ path))
  | '/' :: rest => .ok (none, .segments (readPath scheme rest).names)
  | _ => .ok (none, .plain (String.ofList (percentEncode isControl cs)))

/-- What stands between a scheme and a query or fragment. -/
def hierarchicalParts (scheme : String) (ends : Bool) (cs : List Char) :
    Except ParseError (Option Authority × Path) :=
  if scheme = "file" then fileParts cs
  else if isSpecialScheme scheme then specialParts scheme (significant cs)
  else plainParts scheme ends (significant cs)

/-- The scheme at the start of a text, in small letters, and the text after its colon. -/
def scheme? (cs : List Char) : Option (String × List Char) :=
  let isPart := fun c : Char => c.isAlphanum || c == '+' || c == '-' || c == '.'
  match cs.dropWhile isPart with
  | ':' :: rest =>
    if (cs.head?.map Char.isAlpha).getD false then
      some (String.ofList (Text.fold (cs.takeWhile isPart)), rest)
    else none
  | _ => none

/-- The text before a mark, and the text after it if the mark is there. -/
def splitMark (mark : Char) (cs : List Char) : List Char × Option (List Char) :=
  match cs.dropWhile (· != mark) with
  | [] => (cs, none)
  | _ :: rest => (cs.takeWhile (· != mark), some rest)

/-- A text without the blanks and controls around it. -/
def trimmed (text : String) : List Char :=
  let isEnd := fun c : Char => c.toNat ≤ 0x20
  ((text.toList.dropWhile isEnd).reverse.dropWhile isEnd).reverse

/-- The URL that a text is. -/
def parse (text : String) : Except ParseError Url := do
  match scheme? (significant (trimmed text)) with
  | none => throw .relative
  | some (scheme, _) =>
    let rest := ((trimmed text).dropWhile (· != ':')).drop 1
    let (rest, fragment) := splitMark '#' rest
    let (rest, query) := splitMark '?' rest
    let (server, path) ← hierarchicalParts scheme (fragment.isNone && query.isNone) rest
    return {
      scheme, authority := server, path
      isApart := server.isNone && path.opensEmpty
      query := query.map fun q =>
        String.ofList (percentEncode (inQuery (isSpecialScheme scheme)) (significant q))
      fragment := fragment.map fun f =>
        String.ofList (percentEncode inFragment (significant f)) }

end MailboxKeeper.Url
