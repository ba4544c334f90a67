import MailboxKeeper.Account.Basic
import MailboxKeeper.Registry

/-!
# Command lines

A command line names a verb and its operands. Options may stand anywhere, with their value behind
an equals sign or in the next argument; two of them apply to every verb and may stand before it as
well. What starts with a hyphen is an option, unless it is a lone hyphen or comes after `--`.
-/

namespace MailboxKeeper.Cli

/-- What the program is asked to do. -/
inductive Command where
  | create (userId localPart : String) (displayName : Option String)
  | delete (userId : String) (id : AccountId)
  | resetPassword (userId : String) (id : AccountId)
  | status (userId localPart : String)
  | setApiPassword (clear : Bool)
  deriving DecidableEq, Repr

/-- A command, the provider it is about, and the file with the settings if one is named. -/
structure Invocation where
  config : Option String
  provider : String
  command : Command
  deriving DecidableEq, Repr

/-- Why a command line asks for nothing to be done. -/
inductive Stop where
  | help
  | misuse
  deriving DecidableEq, Repr

/-- An argument, taken by itself. -/
inductive Token where
  /-- The mark after which all arguments are operands. -/
  | separator
  | long (name : String) (value : Option String)
  | short (letters : List Char)
  | plain (text : String)
  deriving DecidableEq, Repr

namespace Token

/-- What is behind the equals sign of a long option. -/
def attached (cs : List Char) : Option String :=
  match cs.dropWhile (· != '=') with
  | _ :: value => some (String.ofList value)
  | [] => none

def ofArgument (argument : String) : Token :=
  match argument.toList with
  | ['-', '-'] => separator
  | '-' :: '-' :: cs => long (String.ofList (cs.takeWhile (· != '='))) (attached cs)
  | '-' :: c :: cs => short (c :: cs)
  | _ => plain argument

end Token

/-- The verbs of the program. -/
inductive Verb where
  | create
  | delete
  | resetPassword
  | status
  | setApiPassword
  deriving DecidableEq, Repr

namespace Verb

def ofName? : String → Option Verb
  | "create" => some create
  | "delete" => some delete
  | "reset-password" => some resetPassword
  | "status" => some status
  | "set-api-password" => some setApiPassword
  | _ => none

/-- How many operands a verb takes. -/
def arity : Verb → Nat
  | setApiPassword => 0
  | _ => 2

/-- Is the second operand the id of an account? -/
def takesId : Verb → Bool
  | delete | resetPassword => true
  | _ => false

end Verb

/-- The options that take a value. -/
inductive Setting where
  | config
  | provider
  | name
  deriving DecidableEq, Repr

/-- The options that apply to every verb. -/
def Setting.general? : String → Option Setting
  | "config" => some .config
  | "provider" => some .provider
  | _ => none

/-- The options of a verb that take a value. -/
def Setting.of? (verb : Verb) (name : String) : Option Setting :=
  if name = "name" ∧ verb = .create then some .name else general? name

/-- What has been given in one part of a command line. -/
structure Given where
  config : Option String
  provider : Option String
  name : Option String
  clear : Bool
  operands : List String
  deriving DecidableEq, Repr

namespace Given

def nothing : Given := ⟨none, none, none, false, []⟩

/-- Takes the value of an option. It can be given once only, and a file must have a name. -/
def set? (g : Given) (s : Setting) (value : String) : Option Given :=
  match s with
  | .config =>
    if g.config.isSome ∨ value.isEmpty then none else some { g with config := some value }
  | .provider => if g.provider.isSome then none else some { g with provider := some value }
  | .name => if g.name.isSome then none else some { g with name := some value }

/-- Takes an operand of a verb. -/
def addOperand? (g : Given) (verb : Verb) (operand : String) : Option Given :=
  if verb.arity ≤ g.operands.length then none
  else if verb.takesId ∧ g.operands.length = 1 ∧ (AccountId.ofText? operand).isNone then none
  else some { g with operands := g.operands ++ [operand] }

end Given

/-- A result, or misuse if there is none. -/
def orMisuse {α : Type} : Option α → Except Stop α
  | some a => .ok a
  | none => .error .misuse

/-- Can an argument be the value of the option before it? -/
def isValue (argument : String) : Bool :=
  match Token.ofArgument argument with
  | .plain _ => true
  | _ => false

/-- A long option without a value. -/
def readFlag (verb : Verb) (g : Given) (name : String) (value : Option String) :
    Except Stop Given :=
  if value.isSome then .error .misuse
  else if name = "help" then .error .help
  else if name = "clear" ∧ verb = .setApiPassword ∧ !g.clear then .ok { g with clear := true }
  else .error .misuse

/-- Reads the arguments after a verb. -/
def readVerb (verb : Verb) (g : Given) : List String → Except Stop Given
  | [] => .ok g
  | argument :: rest =>
    match Token.ofArgument argument with
    | .separator => rest.foldlM (fun g operand => orMisuse (g.addOperand? verb operand)) g
    | .short letters => .error (if letters.head? = some 'h' then .help else .misuse)
    | .plain operand => do readVerb verb (← orMisuse (g.addOperand? verb operand)) rest
    | .long name value =>
      match Setting.of? verb name with
      | none => do readVerb verb (← readFlag verb g name value) rest
      | some s =>
        match value, rest with
        | some v, rest => do readVerb verb (← orMisuse (g.set? s v)) rest
        | none, v :: rest =>
          if isValue v then do readVerb verb (← orMisuse (g.set? s v)) rest
          else .error .misuse
        | none, [] => .error .misuse

/-- The command of a verb with all its operands. -/
def command? (verb : Verb) (g : Given) : Option Command :=
  match verb, g.operands with
  | .create, [userId, localPart] => some (.create userId localPart g.name)
  | .delete, [userId, id] => (AccountId.ofText? id).map (.delete userId)
  | .resetPassword, [userId, id] => (AccountId.ofText? id).map (.resetPassword userId)
  | .status, [userId, localPart] => some (.status userId localPart)
  | .setApiPassword, [] => some (.setApiPassword g.clear)
  | _, _ => none

/-- The invocation by what was given before a verb and after it; the latter counts more. -/
def invocation? (verb : Verb) (before after : Given) : Option Invocation :=
  (command? verb after).map fun command =>
    { config := after.config.or before.config
      provider := (after.provider.or before.provider).getD Provider.defaultId
      command }

/-- Reads the arguments after the verb `help`. -/
def readHelp : List String → Stop
  | [] => .help
  | [name] => if (Verb.ofName? name).isSome ∨ name = "help" then .help else .misuse
  | _ => .misuse

/-- Reads a command line. A bad value in an argument of its own counts only once the next option
or the end is reached, so that help is still to be had behind it; `bad` tells of such a value. -/
def readGeneral (g : Given) (bad : Bool) : List String → Except Stop Invocation
  | [] => .error .misuse
  | argument :: rest =>
    match Token.ofArgument argument with
    | .separator => .error .misuse
    | .short letters => .error (if letters.head? = some 'h' ∧ !bad then .help else .misuse)
    | .plain name =>
      if name = "help" then .error (readHelp rest)
      else
        match Verb.ofName? name with
        | none => .error .misuse
        | some verb => do
          let after ← readVerb verb .nothing rest
          if bad then throw .misuse
          orMisuse (invocation? verb g after)
    | .long name value =>
      match Setting.general? name with
      | none => .error (if name = "help" ∧ value.isNone ∧ !bad then .help else .misuse)
      | some s =>
        if bad then .error .misuse
        else
          match value, rest with
          | some v, rest => do readGeneral (← orMisuse (g.set? s v)) false rest
          | none, v :: rest =>
            if isValue v then
              match g.set? s v with
              | some g => readGeneral g false rest
              | none => readGeneral g true rest
            else .error .misuse
          | none, [] => .error .misuse

/-- What a command line asks for. -/
def Invocation.ofArguments (arguments : List String) : Except Stop Invocation :=
  readGeneral .nothing false arguments

end MailboxKeeper.Cli
