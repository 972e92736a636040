import VerdictClient.Text.Quoted

namespace VerdictClient.CommandLine

inductive UsageError where
  | noSuchOption (name : Text) (similar : List Text)
  | noSuchCommand (name : Text) (similar : List Text)
  | noValue (name : Text)
  | unwantedValue (name : Text)
  | notNumber (name value : Text)
  | missingCommand
  | missingArgument (name : Text)
  | missingFile (argument path : Text)
  | isDirectory (argument path : Text)
  | noCredentials
  deriving DecidableEq, Repr

def suggestion : List Text → Text
  | [] => []
  | [t] => " Did you mean " ++ t.quoted ++ "?"
  | ts => " (Did you mean one of: " ++ Text.intercalate ", " (ts.map Text.quoted) ++ "?)"

def UsageError.message : UsageError → Text
  | noSuchOption name similar => "No such option " ++ name.quoted ++ "." ++ suggestion similar
  | noSuchCommand name similar => "No such command " ++ name.quoted ++ "." ++ suggestion similar
  | noValue name => "Option " ++ name.quoted ++ " requires an argument."
  | unwantedValue name => "Option " ++ name.quoted ++ " does not take a value."
  | notNumber name value =>
    "Invalid value for '" ++ name ++ "': " ++ value.quoted ++ " is not a valid float."
  | missingCommand => "Missing command."
  | missingArgument name => "Missing argument '" ++ name ++ "'."
  | missingFile argument path =>
    "Invalid value for '" ++ argument ++ "': File " ++ path.quoted ++ " does not exist."
  | isDirectory argument path =>
    "Invalid value for '" ++ argument ++ "': File " ++ path.quoted ++ " is a directory."
  | noCredentials =>
    "Provide --token or --client-id and --client-secret " ++
      "(or VAAS_CLIENT_ID / VAAS_CLIENT_SECRET)."

end VerdictClient.CommandLine
