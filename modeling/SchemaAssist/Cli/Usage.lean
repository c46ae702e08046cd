/-
  Mistakes in a command line.

  A mistake is reported with the usage of the command it concerns, except where the command line
  ends before the value of an option, or a switch is given a value.
-/
import SchemaAssist.Text.Quoted

namespace SchemaAssist.Cli

inductive Mistake where
  | unknownOption (name : String) (similar : List String)
  | unknownCommand (name : String) (similar : List String)
  | noCommand
  /-- An option at the end of the line that needs a value. -/
  | valueMissing (option : String)
  /-- A switch with a value. -/
  | valueRefused (option : String)
  | argumentMissing (name : String)
  | optionMissing (name : String)
  | notInteger (parameter value : String)
  | fileMissing (parameter path : String)
  | directoryGiven (parameter path : String)
  | fileGiven (parameter path : String)
  | extraArguments (arguments : List String)
  deriving DecidableEq, Repr

namespace Mistake

def hint (similar : List String) : String :=
  let names := ", ".intercalate (similar.map Text.quoteString)
  match similar with
  | [] => ""
  | [_] => " Did you mean " ++ names ++ "?"
  | _ => " (Did you mean one of: " ++ names ++ "?)"

def invalidValue (parameter reason : String) : String :=
  "Invalid value for '" ++ parameter ++ "': " ++ reason

def message : Mistake → String
  | unknownOption name similar => "No such option " ++ Text.quoteString name ++ "." ++ hint similar
  | unknownCommand name similar =>
    "No such command " ++ Text.quoteString name ++ "." ++ hint similar
  | noCommand => "Missing command."
  | valueMissing option => "Option " ++ Text.quoteString option ++ " requires an argument."
  | valueRefused option => "Option " ++ Text.quoteString option ++ " does not take a value."
  | argumentMissing name => "Missing argument '" ++ name ++ "'."
  | optionMissing name => "Missing option '" ++ name ++ "'."
  | notInteger parameter value =>
    invalidValue parameter (Text.quoteString value ++ " is not a valid integer.")
  | fileMissing parameter path =>
    invalidValue parameter ("File " ++ Text.quoteString path ++ " does not exist.")
  | directoryGiven parameter path =>
    invalidValue parameter ("File " ++ Text.quoteString path ++ " is a directory.")
  | fileGiven parameter path =>
    invalidValue parameter ("Directory " ++ Text.quoteString path ++ " is a file.")
  | extraArguments arguments =>
    (if arguments.length =
      1 then "Got unexpected extra argument (" else "Got unexpected extra arguments (") ++
      " ".intercalate arguments ++ ")"

def showsUsage : Mistake → Bool
  | valueMissing _ | valueRefused _ => false
  | _ => true

/-- The report of a mistake made with a program or command of the given name and parameters. -/
def report (name parameters : String) (m : Mistake) : String :=
  (if m.showsUsage then
    "Usage: " ++ name ++ " " ++ parameters ++ "\nTry '" ++ name ++ " --help' for help.\n\n"
  else "") ++ "Error: " ++ m.message ++ "\n"

end Mistake

end SchemaAssist.Cli
