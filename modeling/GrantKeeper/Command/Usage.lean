/-! What can be wrong with a command line before anything is done, or asked of
it instead. -/
namespace GrantKeeper.Command

inductive Usage
  | missingArgument
  | badValue
  | badNumber
  | conflict
  | unknownArgument
  | unknownCommand
  | missingCommand
  | surplusValue
  | help
  | helpForNothing
  | version
  deriving DecidableEq, Repr

def Usage.name : Usage → String
  | .missingArgument => "MissingRequiredArgument"
  | .badValue => "InvalidValue"
  | .badNumber => "ValueValidation"
  | .conflict => "ArgumentConflict"
  | .unknownArgument => "UnknownArgument"
  | .unknownCommand => "InvalidSubcommand"
  | .missingCommand => "MissingSubcommand"
  | .surplusValue => "TooManyValues"
  | .help => "DisplayHelp"
  | .helpForNothing => "DisplayHelpOnMissingArgumentOrSubcommand"
  | .version => "DisplayVersion"

def Usage.exitCode : Usage → UInt32
  | .help | .version => 0
  | _ => 2

end GrantKeeper.Command
