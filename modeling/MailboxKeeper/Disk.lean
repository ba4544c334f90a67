import MailboxKeeper.Database.Location
import MailboxKeeper.NameMap
import MailboxKeeper.Store.Table
import MailboxKeeper.Text.Parts

/-!
# Files and databases

A tree of directories in which files and databases lie. A path is followed in two ways. The
system follows it name by name, so that two dots lead out of a directory that is there. The
database first shortens the path, and so takes two dots for the end of the name before them, even
if nothing is there; but it too refuses a path that goes on below a file.
-/

namespace MailboxKeeper

/-- What lies at a path. -/
inductive Disk.Node where
  | directory
  | file (content : List UInt8)
  | database (table : Store.Table)

/-- What lies at the paths that are taken. A path is written with a slash before each name; the
root, which is always there, is the empty path. -/
abbrev Disk := NameMap Disk.Node

namespace Disk

/-- The names on the way to a place, one name on. A dot stands for nothing, two for the directory
above. -/
def enter (names : List String) (name : String) : List String :=
  if name = "" ∨ name = "." then names
  else if name = ".." then names.dropLast
  else names ++ [name]

/-- The names on the way to a path. -/
def components (path : String) : List String := (Text.parts '/' path).foldl enter []

/-- The path with the given names on the way. -/
def ofComponents (names : List String) : String := String.join (names.map fun n => "/" ++ n)

/-- The path that a text names, seen from a working directory. -/
def resolve (workingDirectory text : String) : String :=
  ofComponents
    (components (if text.startsWith "/" then text else workingDirectory ++ "/" ++ text))

/-- What lies at a path. -/
def node? (d : Disk) (path : String) : Option Node :=
  if path.isEmpty then some .directory else d.get? path

/-- Is there a directory at a path? -/
def isDirectory (d : Disk) (path : String) : Bool :=
  match d.node? path with
  | some .directory => true
  | _ => false

/-- The names on the way from a place to another, if there is one: every place that is left has to
be a directory. -/
def walk (d : Disk) (names : List String) : List String → Option (List String)
  | [] => some names
  | name :: rest =>
    if d.isDirectory (ofComponents names) then d.walk (enter names name) rest else none

/-- What lies where a text says, seen from a working directory. -/
def find? (d : Disk) (workingDirectory text : String) : Option Node :=
  let start := if text.startsWith "/" then [] else components workingDirectory
  (d.walk start (Text.parts '/' text)).bind fun names => d.node? (ofComponents names)

/-- The number of bytes that a name may have. -/
def nameLimit : Nat := 255

/-- A name that a file or a directory can have. -/
def isName (name : String) : Bool :=
  name.utf8ByteSize ≤ nameLimit && !name.toList.contains (Char.ofNat 0)

/-- A name that stands for no place below the one it is seen from. -/
def isStep (name : String) : Bool := name = "" || name = "." || name = ".."

/-- The names that a text goes through before it comes to the last one. -/
def way (text : String) : List String :=
  ((Text.parts '/' text).filter fun name => name != "" && name != ".").dropLast

/-- Goes on from a directory by the given names, and makes the directories that are missing.
There must be nothing else in their places. -/
def makeWay (d : Disk) (names : List String) : List String → Option Disk
  | [] => some d
  | name :: rest =>
    let next := enter names name
    if isStep name then d.makeWay next rest
    else
      match d.node? (ofComponents next) with
      | some .directory => d.makeWay next rest
      | some _ => none
      | none =>
        if isName name then makeWay (d.put (ofComponents next) .directory) next rest else none

/-- Makes the directory that a text names a place in, seen from a working directory, and those
that it lies in, as far as they are missing. -/
def makeParent (d : Disk) (workingDirectory text : String) : Option Disk :=
  d.makeWay (if text.startsWith "/" then [] else components workingDirectory) (way text)

/-- Shortens the path to a database by one name more. The name must not lie below a file, and it
has to be one that a file can have if it lies in a directory; below a place where nothing is,
every name will do. -/
def shorten (d : Disk) (names : List String) (name : String) : Option (List String) :=
  if isStep name then some (enter names name)
  else
    match d.node? (ofComponents names) with
    | some .directory => if isName name then some (enter names name) else none
    | some _ => none
    | none => some (enter names name)

/-- The number of bytes that the path of a database may have. -/
def databasePathLimit : Nat := 504

/-- The shortened path of the database that a text names, seen from a working directory. -/
def locate? (d : Disk) (workingDirectory text : String) : Option String := do
  let text := if text.startsWith "/" then text else workingDirectory ++ "/" ++ text
  let path := ofComponents (← (Text.parts '/' text).foldlM d.shorten [])
  if path.utf8ByteSize ≤ databasePathLimit then some path else none

/-- The name of the journal that is kept next to a database while its table is made. -/
def journal (name : String) : String := name ++ "-journal"

/-- Makes the table of the database in the empty file at a path. A journal has to find its place
next to it. -/
def makeTable (d : Disk) (path : String) (access : Database.Access) :
    Except Database.Error Store.Table × Disk :=
  if !access.mayWrite then (.error .readOnly, d)
  else if isName (journal ((components path).getLastD "")) then
    (.ok .empty, d.put path (.database .empty))
  else (.error .cannotOpen, d)

/-- Opens the database at a path. If nothing is there and a file may be made, it is made first, and
stays even if the table cannot be made. A directory can be opened to be read, but not be read. -/
def openDatabase (d : Disk) (path : String) (access : Database.Access) :
    Except Database.Error Store.Table × Disk :=
  match d.node? path with
  | some (.database table) => (.ok table, d)
  | some .directory => (.error (if access.readOnly then .cannotRead else .cannotOpen), d)
  | some (.file content) =>
    if content.isEmpty then d.makeTable path access else (.error .notADatabase, d)
  | none =>
    if access.mayCreate ∧ d.isDirectory (ofComponents (components path).dropLast) then
      makeTable (d.put path (.file [])) path access
    else (.error .cannotOpen, d)

/-- An open database: the path where it is kept, if it is kept, whether it may be written to, and
its table when it was opened. -/
structure Opening where
  path : Option String
  mayWrite : Bool
  table : Store.Table

/-- Opens the database at a location, seen from a working directory. -/
def openLocation (d : Disk) (workingDirectory : String) :
    Database.Location → Except Database.Error Opening × Disk
  | .transient => (.ok ⟨none, true, .empty⟩, d)
  | .file path access =>
    match d.locate? workingDirectory path with
    | some path =>
      let (table, d) := d.openDatabase path access
      (table.map fun table => ⟨some path, access.mayWrite, table⟩, d)
    | none => (.error .cannotOpen, d)

/-- Opens the database that a text names, seen from a working directory. The disk may change by
that. -/
def openNamed (d : Disk) (workingDirectory text : String) :
    Except Database.Error Opening × Disk :=
  match Database.Location.ofText text with
  | .ok location => d.openLocation workingDirectory location
  | .error e => (.error e, d)

end Disk

end MailboxKeeper
