import MailboxKeeper.Store.Error
import MailboxKeeper.Text.Break
import MailboxKeeper.Text.Fold
import MailboxKeeper.Text.Parts
import MailboxKeeper.Text.Quoted
import MailboxKeeper.Url.Percent

/-!
# Where a database is kept

A database is named by a text with the path of its file, in which a percent encoding stands for a
byte. A question mark ends the path and begins options, which are written like those of a form.
The option to make the file if it is missing is added at the end of every text, so that a text
with options of its own has it within the last of them. The path that comes out may itself be
written as a URL, with options of its own. An empty path and `:memory:` stand for a database that
is kept nowhere.
-/

namespace MailboxKeeper.Database

/-- How the file of a database is opened. -/
structure Access where
  mayCreate : Bool
  readOnly : Bool
  /-- The file is taken for one that nobody changes. -/
  immutable : Bool
  deriving DecidableEq, Repr

/-- May the file be written to? -/
def Access.mayWrite (a : Access) : Bool := !a.readOnly && !a.immutable

/-- Where a database is kept. -/
inductive Location where
  /-- Nowhere: the database lasts as long as it is open. -/
  | transient
  | file (path : String) (access : Access)
  deriving DecidableEq, Repr

/-- What the options of a location ask for. -/
structure Options where
  readOnly : Bool
  mayCreate : Bool
  inMemory : Bool
  /-- The file is taken for one that nobody changes. -/
  immutable : Bool
  /-- The name of the part of the database that reaches its files. -/
  driver : Option String
  deriving DecidableEq, Repr

namespace Options

/-- What is asked for without options. -/
def unset : Options := ⟨false, false, false, false, none⟩

/-- How the options let a file be opened. -/
def access (o : Options) : Access := ⟨o.mayCreate && !o.readOnly, o.readOnly, o.immutable⟩

/-- The refusal of a value. -/
def unknownValue (name value : String) : Error :=
  .configuration s!"unknown value {Text.quoted value} for `{name}`"

/-- The refusal of an option. -/
def unknownName (name : String) : Error :=
  .configuration s!"unknown query parameter `{name}` while parsing connection URL"

/-- The options with the way of opening that a value of `mode` names. -/
def withMode (o : Options) (value : String) : Except Error Options :=
  match value with
  | "ro" => .ok { o with readOnly := true }
  | "rw" => .ok o
  | "rwc" => .ok { o with mayCreate := true }
  | "memory" => .ok { o with inMemory := true }
  | _ => .error (unknownValue "mode" value)

/-- The options with one more. -/
def add (o : Options) (name value : String) : Except Error Options :=
  match name with
  | "mode" => o.withMode value
  | "cache" =>
    if value = "private" ∨ value = "shared" then .ok o else .error (unknownValue name value)
  | "immutable" =>
    if value = "true" ∨ value = "1" then .ok { o with immutable := true }
    else if value = "false" ∨ value = "0" then .ok { o with immutable := false }
    else .error (unknownValue name value)
  | "vfs" => .ok { o with driver := some value }
  | _ => .error (unknownName name)

/-- The two sides of the first equals sign in a written option. -/
def sides (written : String) : List Char × List Char :=
  let isName := fun c : Char => c != '='
  let cs := written.toList
  (cs.takeWhile isName, (cs.dropWhile isName).drop 1)

/-- A name or a value as it is meant. -/
def plain (cs : List Char) : String :=
  let spaced := cs.map fun c => if c = '+' then ' ' else c
  Text.decodeLossy (Url.percentDecodeBytes (Text.utf8 spaced))

/-- The options with one more, which is written as a name, an equals sign and a value. -/
def addWritten (o : Options) (written : String) : Except Error Options :=
  o.add (plain (sides written).1) (plain (sides written).2)

/-- The options that a text lists. -/
def ofText (text : String) : Except Error Options :=
  ((Text.parts '&' text).filter fun written => !written.isEmpty).foldlM addWritten unset

/-- The driver that keeps every database in memory. -/
def memoryDriver : String := "memdb"

/-- The names of the drivers that there are. -/
def drivers : List String := ["unix", "unix-dotfile", "unix-excl", "unix-none", memoryDriver]

/-- The options with a driver that there is, or its refusal. -/
def checked (o : Options) : Except Error Options :=
  match o.driver with
  | some name =>
    if drivers.contains name then .ok o else .error (.refusedLocation s!"no such vfs: {name}")
  | none => .ok o

end Options

/-- How a URL lets a database be opened. -/
inductive Mode where
  | memory
  | readOnly
  | readWrite
  | create
  deriving DecidableEq, Repr

namespace Mode

/-- The mode that a value of `mode` names. -/
def ofName? : String → Option Mode
  | "ro" => some readOnly
  | "rw" => some readWrite
  | "rwc" => some create
  | "memory" => some memory
  | _ => none

/-- How much of a file a mode opens. -/
def level : Mode → Nat
  | memory => 0
  | readOnly => 1
  | readWrite => 2
  | create => 3

/-- May a mode take the place of another? It must not open more, but memory is given up freely. -/
def follows (mode previous : Mode) : Bool := previous == memory || mode.level ≤ previous.level

/-- The mode of options that ask for a file. -/
def ofOptions (o : Options) : Mode :=
  if o.readOnly then readOnly else if o.mayCreate then create else readWrite

end Mode

/-- What the options behind a path that is written as a URL ask for. -/
structure UrlOptions where
  mode : Mode
  /-- The pages that have been read are shared with others who have the database open. -/
  isShared : Bool
  immutable : Option Bool
  driver : Option String
  deriving DecidableEq, Repr

namespace UrlOptions

/-- The number that a value starts with. One that takes more than 31 bits counts for nothing. -/
def leadingNumber (cs : List Char) : Nat :=
  let number :=
    match cs with
    | '0' :: x :: d :: rest =>
      if (x = 'x' ∨ x = 'X') ∧ Url.isHexDigit d then
        Url.digitsValue 16 ((d :: rest).takeWhile Url.isHexDigit)
      else Url.digitsValue 10 (cs.takeWhile Char.isDigit)
    | _ => Url.digitsValue 10 (cs.takeWhile Char.isDigit)
  if number < Nat.pow 2 31 then number else 0

/-- Does the value of a switch turn it on? A number does unless its last byte is zero. -/
def isOn (value : String) : Bool :=
  if value.toList.head?.any Char.isDigit then leadingNumber value.toList % 256 != 0
  else ["on", "yes", "true"].contains (String.ofList (Text.fold value.toList))

/-- The options with another mode. -/
def withMode (o : UrlOptions) (value : String) : Except Error UrlOptions :=
  match Mode.ofName? value with
  | some mode =>
    if mode.follows o.mode then .ok { o with mode }
    else .error (.notAllowed s!"access mode not allowed: {value}")
  | none => .error (.refusedLocation s!"no such access mode: {value}")

/-- The options with another way of keeping pages. Shared ones stay shared. -/
def withCache (o : UrlOptions) (value : String) : Except Error UrlOptions :=
  if value = "shared" then .ok { o with isShared := true }
  else if value = "private" then
    if o.isShared then .error (.notAllowed s!"cache mode not allowed: {value}") else .ok o
  else .error (.refusedLocation s!"no such cache mode: {value}")

/-- The options with one more. The first word on whether the file changes counts, and the last one
on the driver. -/
def add (o : UrlOptions) (name value : String) : Except Error UrlOptions :=
  match name with
  | "mode" => o.withMode value
  | "cache" => o.withCache value
  | "immutable" => .ok { o with immutable := o.immutable.or (some (isOn value)) }
  | "vfs" => .ok { o with driver := some value }
  | _ => .ok o

/-- The options in the form of those that a location has. -/
def toOptions (o : UrlOptions) : Options where
  readOnly := o.mode == .readOnly
  mayCreate := o.mode == .create
  inMemory := o.mode == .memory
  immutable := o.immutable.getD false
  driver := o.driver

end UrlOptions

namespace Location

/-- What is left of a text without the copies of a mark at its front. -/
def withoutMark (mark : List Char) (cs : List Char) : List Char :=
  if _h : mark.isPrefixOf cs = true ∧ mark ≠ [] then withoutMark mark (cs.drop mark.length) else cs
termination_by cs.length
decreasing_by
  have hle := (List.isPrefixOf_iff_prefix.1 _h.1).length_le
  have hpos := List.length_pos_iff.2 _h.2
  rw [List.length_drop]
  omega

/-- The text of a location with everything that is added to it, without the marks of its kind. -/
def complete (text : String) : List Char :=
  withoutMark "sqlite:".toList
    (withoutMark "sqlite://".toList (s!"sqlite:{text}?mode=rwc").toList)

/-- The text up to a mark, and the text after it. -/
def cut (mark : Char) (cs : List Char) : List Char × List Char :=
  (cs.takeWhile (· != mark), (cs.dropWhile (· != mark)).drop 1)

/-- Does the text stand for a database that is kept nowhere? -/
def isTransient (path : String) (o : Options) : Bool :=
  o.inMemory || path.isEmpty || path == ":memory:"

/-- The location of the file at a path. A database that is kept nowhere has to be written to; it
has no file that could be taken for one that nobody changes, unless a driver keeps it. -/
def ofPath (path : String) (o : Options) : Except Error Location :=
  if isTransient path o then
    if o.readOnly then .error .readOnly else .ok .transient
  else if o.driver = some Options.memoryDriver then
    if o.access.mayWrite then .ok .transient else .error .readOnly
  else .ok (.file path o.access)

/-- What stands in front of a path that is written as a URL. -/
def urlMark : List Char := "file:".toList

/-- A part of a URL as it is meant. An encoded null ends it. -/
def urlText (cs : List Char) : String :=
  Text.decodeLossy ((Url.percentDecodeBytes (Text.utf8 cs)).takeWhile fun b => b != 0)

/-- The options with those that a URL lists. Those without a name count for nothing. -/
def addUrlOptions (o : UrlOptions) (text : String) : Except Error UrlOptions :=
  let named := (Text.parts '&' text).map fun written =>
    (urlText (Options.sides written).1, urlText (Options.sides written).2)
  (named.filter fun option => !option.1.isEmpty).foldlM (fun o option =>
    o.add option.1 option.2) o

/-- The location that a URL names, of which the mark has been read. There may be no server but the
own one before the path, and a fragment counts for nothing. -/
def ofUrl (cs : List Char) (o : Options) : Except Error Location := do
  let isHost := fun c : Char => c != '/'
  let cs ←
    match cs with
    | '/' :: '/' :: cs =>
      let host := String.ofList (cs.takeWhile isHost)
      if host.isEmpty ∨ host = "localhost" then pure (cs.dropWhile isHost)
      else .error (.refusedLocation s!"invalid uri authority: {host}")
    | cs => pure cs
  let (path, options) := cut '?' (cut '#' cs).1
  let o ← addUrlOptions ⟨.ofOptions o, false, none, none⟩ (String.ofList options)
  ofPath (urlText path) (← o.toOptions.checked)

/-- The null character. -/
def null : Char := Char.ofNat 0

/-- The name of a driver as it is looked up: it ends before a null, and its spaces are written
like those of a form. -/
def lookedUp (name : String) : String :=
  let cs := name.toList.takeWhile (· != null)
  String.ofList (cs.map fun c => if c = ' ' then '+' else c)

/-- The location of a file whose path has been decoded. With a driver the path is not taken for a
URL, and a null ends it; without one there must be no null. -/
def ofDecoded (path : String) (o : Options) : Except Error Location :=
  if o.driver.isSome then ofPath (String.ofList (path.toList.takeWhile (· != null))) o
  else if path.toList.contains null then
    .error (.communication "filename passed to SQLite must not contain nul bytes")
  else if urlMark.isPrefixOf path.toList then ofUrl (path.toList.drop urlMark.length) o
  else ofPath path o

/-- The location that a text names. -/
def ofText (text : String) : Except Error Location := do
  let (written, options) := cut '?' (complete text)
  let path ← (Text.decodeOrBreak (Url.percentDecodeBytes (Text.utf8 written))).mapError
    fun b => Error.configuration b.message
  let o ← Options.ofText (String.ofList options)
  let o ← { o with driver := o.driver.map lookedUp }.checked
  if o.inMemory then ofPath "" o else ofDecoded path o

end Location

end MailboxKeeper.Database
