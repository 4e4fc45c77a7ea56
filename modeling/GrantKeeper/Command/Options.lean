import GrantKeeper.Command.Usage
import GrantKeeper.Places
import GrantKeeper.Text.Decimal

/-! The options and words of one level of a command line: of the program as a
whole, or of one command. An option's value comes from the line, else from the
environment, else it is the one given here. -/
namespace GrantKeeper.Command

inductive Kind
  | text
  | path
  | number
  | flag
  deriving DecidableEq, Repr

structure OptionForm where
  name : String
  kind : Kind
  variableName : Option String
  needed : Bool
  deriving DecidableEq, Repr

structure LevelForm where
  options : List OptionForm
  words : Nat
  neededWords : Nat
  commands : List String
  deriving Repr

inductive Origin
  | environment
  | line
  deriving DecidableEq, Repr

structure Given where
  name : String
  origin : Origin
  value : String
  deriving DecidableEq, Repr

structure Level where
  given : List Given
  pending : Option (OptionForm × Option String)
  words : List String
  deriving Repr

namespace Level

def start : Level := ⟨[],none,[]⟩

def given? (level : Level) (name : String) : Option Given := level.given.find? (·.name == name)

def value? (level : Level) (name : String) : Option String := (level.given? name).map (·.value)

def checkValue (kind : Kind) (value : String) : Except Usage Unit :=
  match kind with
  | .text => .ok ()
  | .path => if value.isEmpty then .error .badValue else .ok ()
  | .number => if (Text.readWord value).isOk then .ok () else .error .badNumber
  | .flag => if value = "true" ∨ value = "false" then .ok () else .error .badValue

def enter (level : Level) (form : OptionForm) (origin : Origin) (value : String) : Except Usage Level :=
  if (level.given? form.name).isSome then .error .conflict
  else
    match checkValue form.kind value with
    | .error usage => .error usage
    | .ok () => .ok { level with given := ⟨form.name,origin,value⟩ :: level.given }

def settle (level : Level) : Except Usage Level :=
  match level.pending with
  | none => .ok level
  | some (_,none) => .error .badValue
  | some (form,some value) => enter { level with pending := none } form .line value

def awaiting? (level : Level) : Option OptionForm :=
  match level.pending with
  | some (form,none) => some form
  | _ => none

def longOption? (arg : String) : Option (String × Option String) :=
  match arg.toList with
  | '-' :: '-' :: rest =>
    let name := rest.takeWhile (· ≠ '=')
    match rest.dropWhile (· ≠ '=') with
    | [] => some (String.ofList name,none)
    | _ :: value => some (String.ofList name,some (String.ofList value))
  | _ => none

def shortOption? (arg : String) : Option Char :=
  match arg.toList with
  | '-' :: c :: _ => some c
  | _ => none

def takeLong (form : LevelForm) (level : Level) (name : String) (value : Option String) :
    Except Usage Level :=
  let isHelp := name = "help"
  let isVersion := name = "version" && !form.commands.isEmpty
  if isHelp || isVersion then
    if value.isSome then .error .surplusValue
    else level.settle.bind fun _ => .error (if isHelp then .help else .version)
  else
    match form.options.find? (·.name == name) with
    | none => .error .unknownArgument
    | some option =>
      match option.kind, value with
      | .flag, some _ => .error .surplusValue
      | .flag, none => level.settle.bind fun level => level.enter option .line "true"
      | _, some value => level.settle.bind fun level => level.enter option .line value
      | _, none => level.settle.bind fun level => .ok { level with pending := some (option,none) }

def takeShort (form : LevelForm) (level : Level) (letter : Char) : Except Usage Level :=
  if letter = 'h' then level.settle.bind fun _ => .error .help
  else if letter = 'V' && !form.commands.isEmpty then level.settle.bind fun _ => .error .version
  else .error .unknownArgument

def takeWord (form : LevelForm) (level : Level) (trailing : Bool) (arg : String) : Except Usage Level :=
  if level.words.length < form.words then
    level.settle.bind fun level => .ok { level with words := level.words ++ [arg] }
  else if form.commands.isEmpty || (trailing && form.commands.contains arg) then
    .error .unknownArgument
  else .error .unknownCommand

def take (form : LevelForm) (level : Level) (arg : String) : Except Usage Level :=
  match longOption? arg, shortOption? arg, level.awaiting? with
  | some (name,value), _, _ => takeLong form level name value
  | none, some letter, _ => takeShort form level letter
  | none, none, some option => .ok { level with pending := some (option,some arg) }
  | none, none, none => takeWord form level false arg

def read (form : LevelForm) (trailing : Bool) (level : Level) :
    List String → Except Usage (Level × Option (String × List String))
  | [] => .ok (level,none)
  | arg :: args =>
    if trailing then (takeWord form level true arg).bind fun level => read form true level args
    else if form.commands.contains arg && level.awaiting?.isNone then .ok (level,some (arg,args))
    else if arg = "--" then read form true level args
    else (take form level arg).bind fun level => read form false level args

def addEnvironment (env : Environment) : List OptionForm → Level → Except Usage Level
  | [], level => .ok level
  | option :: options, level =>
    match option.variableName.bind env with
    | none => addEnvironment env options level
    | some value =>
      if (level.given? option.name).isSome then addEnvironment env options level
      else (level.enter option .environment value).bind (addEnvironment env options)

def complete (env : Environment) (form : LevelForm) (level : Level) : Except Usage Level :=
  level.settle.bind (addEnvironment env form.options)

def lacks (form : LevelForm) (level : Level) : Bool :=
  level.words.length < form.neededWords ||
    form.options.any fun option => option.needed && (level.given? option.name).isNone

end Level

end GrantKeeper.Command
