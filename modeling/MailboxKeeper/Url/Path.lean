import MailboxKeeper.Url.Basic
import MailboxKeeper.Url.Percent

/-!
# Paths of URLs

In a path the segment `..` takes away the one before it, unless that names a drive, and the
segment `.` stands for nothing; at the end either leaves an empty segment. A drive at the front of
a file's path is written with a colon and takes the place of a host; where a character is dropped
behind the colon, the drive is a segment of its own, and what follows is kept as it is. `append`
adds segments to the path of a URL in such a way that each stays one segment: what could end it is
encoded, and a segment that is `.` or `..` is left out.
-/

namespace MailboxKeeper.Url

/-- A character that is dropped wherever it stands in a URL. -/
def isDropped (c : Char) : Bool := c == '\t' || c == '\n' || c == '\r'

/-- The characters of a text that count in a URL. -/
def significant (cs : List Char) : List Char := cs.filter fun c => !isDropped c

/-- A dot, which may be percent-encoded. -/
def afterDot? : List Char → Option (List Char)
  | '.' :: rest => some rest
  | '%' :: '2' :: e :: rest => if e = 'e' ∨ e = 'E' then some rest else none
  | _ => none

/-- The segment that stands for nothing. -/
def isSingleDot (segment : List Char) : Bool := afterDot? segment == some []

/-- The segment that takes away the one before it. -/
def isDoubleDot (segment : List Char) : Bool := ((afterDot? segment).map isSingleDot).getD false

/-- A segment that names a drive: a letter and a colon or a bar, with nothing or a backslash behind
them. -/
def isDrive : List Char → Bool
  | letter :: mark :: rest =>
    letter.isAlpha && (mark == ':' || mark == '|') && (rest.head?.all (· == '\\'))
  | _ => false

/-- The segment of a drive at the front of a file's path: its letter and a colon. -/
def driveSegment (segment : List Char) : String := String.ofList (segment.take 1 ++ [':'])

/-- The path without its last segment, unless that names a drive. -/
def leaveSegment (path : List String) : List String :=
  if path.getLast?.any fun name => isDrive name.toList then path else path.dropLast

/-- Adds a segment to a path; `last` tells whether the path ends with it. -/
def addSegment (scheme : String) (path : List String) (segment : List Char) (last : Bool) :
    List String :=
  if isDoubleDot segment then leaveSegment path ++ (if last then [""] else [])
  else if isSingleDot segment then path ++ (if last then [""] else [])
  else if scheme = "file" ∧ path.isEmpty ∧ isDrive segment then [driveSegment segment]
  else path ++ [String.ofList segment]

/-- The pieces of a text between separators. -/
def splitAt (isSeparator : Char → Bool) : List Char → List (List Char)
  | [] => [[]]
  | c :: cs =>
    if isSeparator c then [] :: splitAt isSeparator cs
    else
      match splitAt isSeparator cs with
      | [] => [[c]]
      | piece :: pieces => (c :: piece) :: pieces

/-- A character that separates the segments of a path. -/
def isSlash (special : Bool) (c : Char) : Bool := c == '/' || (special && c == '\\')

/-- The letter of a drive whose colon a dropped character follows, and what its segment goes on
with. -/
def afterCutDrive? (segment : List Char) : Option (Char × List Char) :=
  match segment.dropWhile isDropped with
  | letter :: rest =>
    match rest.dropWhile isDropped with
    | ':' :: rest =>
      if letter.isAlpha ∧ rest.head?.any isDropped ∧ significant rest ≠ [] then
        some (letter, significant rest)
      else none
    | _ => none
  | [] => none

/-- A path that has been read: its segments, and whether it starts with a drive that takes the
place of a host. -/
structure ReadPath where
  names : List String
  onDrive : Bool

namespace ReadPath

/-- Reads a segment; `last` tells whether the path ends with it. -/
def add (scheme : String) (path : ReadPath) (segment : List Char) (last : Bool) : ReadPath :=
  let text := percentEncode inPath (significant segment)
  let opensFile := scheme == "file" && path.names.isEmpty
  match if opensFile then afterCutDrive? segment else none with
  | some (letter, rest) =>
    { path with names := [driveSegment [letter], String.ofList (percentEncode inPath rest)] }
  | none =>
    { names := addSegment scheme path.names text last
      onDrive := path.onDrive || (opensFile && isDrive text) }

/-- Reads segments, with the last of which the path ends. -/
def addAll (scheme : String) (path : ReadPath) : List (List Char) → ReadPath
  | [] => path
  | [segment] => path.add scheme segment true
  | segment :: segments => (path.add scheme segment false).addAll scheme segments

end ReadPath

/-- The path that a text without its first slash is. -/
def readPath (scheme : String) (cs : List Char) : ReadPath :=
  ReadPath.addAll scheme ⟨[], false⟩ (splitAt (isSlash (isSpecialScheme scheme)) cs)

/-- The path with one segment more. It takes the place of a lone empty one. -/
def appendSegment (scheme : String) (path : List String) (segment : List Char) : List String :=
  if segment = ['.'] ∨ segment = ['.', '.'] then path
  else
    addSegment scheme (if path = [""] then [] else path)
      (percentEncode (inSegment (isSpecialScheme scheme)) (significant segment))
      true

/-- The path without the empty segment at its end, unless it has no other. -/
def popEmpty (path : List String) : List String :=
  if path.getLast? = some "" ∧ path ≠ [""] then path.dropLast else path

/-- The path with segments added, of which an empty one at the end is dropped first. -/
def appendSegments (scheme : String) (path segments : List String) : List String :=
  (segments.map String.toList).foldl (appendSegment scheme) (popEmpty path)

/-- The URL with segments added to its path. A plain path takes no segments. -/
def append? (u : Url) (segments : List String) : Option Url :=
  match u.path with
  | .plain _ => none
  | .segments path => some { u with path := .segments (appendSegments u.scheme path segments) }

end MailboxKeeper.Url
