import GrantKeeper.Command.Options
import GrantKeeper.Account.Enrollment

/-! Command lines: options for every command, which may stand before or behind
its name, then one command. -/
namespace GrantKeeper

inductive Command
  | add (enrollment : Enrollment)
  | remove (id : String)
  | list
  | status (id : Option String)
  | store (id access refresh : String) (lifetime : Int)
  | token (id : String)
  | refresh (id : String)
  | refreshAll
  | keygen
  deriving DecidableEq, Repr

namespace Command

structure Globals where
  settingsFile : Option Disk.Path
  vaultDirectory : Option Disk.Path
  key : Option String
  bufferMinutes : Option Int
  noAutoRefresh : Bool
  deriving DecidableEq, Repr

structure Line where
  globals : Globals
  command : Command
  deriving DecidableEq, Repr

def globalOptions : List OptionForm := [
  ⟨"config",.path,some "MAILSEND_CONFIG",false⟩,
  ⟨"token-dir",.path,some "MAILSEND_TOKEN_DIR",false⟩,
  ⟨"token-key",.text,some "MAILSEND_TOKEN_KEY",false⟩,
  ⟨"refresh-buffer",.number,some "MAILSEND_REFRESH_BUFFER",false⟩,
  ⟨"no-auto-refresh",.flag,some "MAILSEND_NO_AUTO_REFRESH",false⟩]

def helpCommand : String := "help"

def commandNames : List String :=
  ["add","remove","list","status","store","token","refresh","keygen",helpCommand]

def programForm : LevelForm := ⟨globalOptions,0,0,commandNames⟩

def form (options : List OptionForm) (words neededWords : Nat) : LevelForm :=
  ⟨options ++ globalOptions,words,neededWords,[]⟩

def addForm : LevelForm := form [
  ⟨"provider",.text,none,false⟩,
  ⟨"client-id",.text,some "MAILSEND_CLIENT_ID",true⟩,
  ⟨"client-secret",.text,some "MAILSEND_CLIENT_SECRET",false⟩,
  ⟨"redirect-uri",.text,none,false⟩,
  ⟨"email",.text,none,false⟩] 1 1

def storeForm : LevelForm := form [
  ⟨"access-token",.text,some "MAILSEND_ACCESS_TOKEN",true⟩,
  ⟨"refresh-token",.text,some "MAILSEND_REFRESH_TOKEN",true⟩,
  ⟨"expires-in",.number,none,false⟩] 1 1

def refreshForm : LevelForm := form [⟨"all",.flag,none,false⟩] 1 0

def formOf (name : String) : LevelForm :=
  if name = "add" then addForm
  else if name = "store" then storeForm
  else if name = "refresh" then refreshForm
  else if name = "remove" ∨ name = "token" then form [] 1 1
  else if name = "status" then form [] 1 0
  else form [] 0 0

def optionVariables : List String :=
  (addForm.options ++ storeForm.options).filterMap (·.variableName)

def number (level : Level) (name : String) (default : Int) : Int :=
  match (level.value? name).map Text.readWord with
  | some (.ok n) => n
  | _ => default

def isTorn (name : String) (level : Level) : Bool :=
  name = "refresh" && !level.words.isEmpty && (level.given? "all").isSome

def isIdle (name : String) (level : Level) : Bool :=
  name = "refresh" && level.words.isEmpty && (level.given? "all").isNone

def ofLevel (name : String) (level : Level) : Command :=
  let id := level.words.headD ""
  let text (option : String) := (level.value? option).getD ""
  if name = "add" then
    .add ⟨id,.ofText ((level.value? "provider").getD "google"),text "client-id",
      text "client-secret",text "redirect-uri",text "email"⟩
  else if name = "remove" then .remove id
  else if name = "list" then .list
  else if name = "status" then .status level.words.head?
  else if name = "store" then
    .store id (text "access-token") (text "refresh-token") (number level "expires-in" 3600)
  else if name = "token" then .token id
  else if name = "refresh" then if level.words.isEmpty then .refreshAll else .refresh id
  else .keygen

def readCommand (env : Environment) (name : String) (args : List String) : Except Usage Level :=
  let form := formOf name
  (Level.read form false .start args).bind fun (level,_) =>
  (level.complete env form).bind fun level =>
  if isTorn name level then .error .conflict
  else if isIdle name level || level.lacks form then .error .missingArgument
  else .ok level

def helpFor : List String → Usage
  | [] => .help
  | [name] => if commandNames.contains name then .help else .unknownCommand
  | _ => .unknownCommand

def globalValue? (program command : Level) (name : String) : Option Given :=
  match program.given? name, command.given? name with
  | some p, some c => if p.origin = .line ∧ c.origin = .environment then some p else some c
  | some p, none => some p
  | none, c => c

def globalsOf (program command : Level) : Globals :=
  let value? (name : String) := (globalValue? program command name).map (·.value)
  { settingsFile := (value? "config").map Disk.Path.mk
    vaultDirectory := (value? "token-dir").map Disk.Path.mk
    key := value? "token-key"
    bufferMinutes := (value? "refresh-buffer").bind fun s => (Text.readWord s).toOption
    noAutoRefresh := value? "no-auto-refresh" == some "true" }

def Line.parse (env : Environment) (args : List String) : Except Usage Line :=
  (Level.read programForm false .start args).bind fun (program,found) =>
  match found with
  | some (name,args) =>
    if name = helpCommand then .error (helpFor args)
    else
      (readCommand env name args).bind fun level =>
      (program.complete env programForm).bind fun program =>
      .ok ⟨globalsOf program level,ofLevel name level⟩
  | none =>
    (program.complete env programForm).bind fun program =>
    .error (if program.given.isEmpty then .helpForNothing else .missingCommand)

end Command

end GrantKeeper
