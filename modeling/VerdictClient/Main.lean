import VerdictClient.CommandLine

open VerdictClient VerdictClient.CommandLine

namespace VerdictClient.Main

def variableNames : List String :=
  ["HOME", "XDG_CONFIG_HOME", "CLIENT_ID", "CLIENT_SECRET", "VAAS_URL", "VAAS_TOKEN",
    "VAAS_TOKEN_URL", "VAAS_CLIENT_ID", "VAAS_CLIENT_SECRET", "VAAS_TIMEOUT", "VAAS_UPLOAD_TIMEOUT",
    "VAAS_KEEP_ALIVE", "VAAS_USE_CACHE", "VAAS_USE_HASH_LOOKUP"]

def accountDirectory? (number : String) (table : String) : Option String :=
  (table.splitOn "\n").findSome? fun line ↦
    match line.splitOn ":" with
    | [_, _, n, _, _, directory, _] => if n = number then some directory else none
    | _ => none

def accountNumber? (status : String) : Option String :=
  (status.splitOn "\n").findSome? fun line ↦
    match line.splitOn "\t" with
    | "Uid:" :: n :: _ => some n
    | _ => none

def account : IO (Option Text) := do
  try
    let number := accountNumber? (← IO.FS.readFile "/proc/self/status")
    let table ← IO.FS.readFile "/etc/passwd"
    return number.bind fun n ↦ (accountDirectory? n table).map Text.ofString
  catch _ => return none

def environment : IO Environment := do
  let entries ← variableNames.filterMapM fun name ↦ do
    return (← IO.getEnv name).map fun value ↦ (Text.ofString name, Text.ofString value)
  return ⟨entries, ← account⟩

def look (fs : FileSystem) (path : Text) : IO FileSystem := do
  let place := Path.target path
  try
    let content ← IO.FS.readBinFile path.toString
    return fs.addFile place content.toList
  catch _ =>
    try
      if ← (← IO.FS.realPath path.toString).isDir then return fs.addDirectory place
    catch _ => pure ()
    return fs

def offline : Text := "no network"

/-- A terminal that leaves marks as they are. -/
def terminal : Terminal := .ok

def print (ending : Ending) : IO Unit := do
  match ending with
  | .refusal .version => IO.println versionLine.toString
  | .refusal (.instructions asked) =>
    let line := "Usage: vaas [OPTIONS] COMMAND [ARGS]..."
    if asked then IO.println line else IO.eprintln line
  | .refusal (.usage e) => IO.eprintln (usageLine e).toString
  | .refusal (.config e) => IO.eprintln e.message.toString
  | .refusal (.path e) => IO.eprintln e.message.toString
  | .failed _ =>
    for line in (ending.display terminal).toOption.getD [] do
      IO.eprintln ("\t".intercalate (line.map Text.toString))
  | .unexpected e => IO.eprintln e.message.toString
  | .unanswered => IO.eprintln "The service does not answer."
  | .verdicts _ =>
    for line in (ending.display terminal).toOption.getD [] do
      IO.println ("\t".intercalate (line.map Text.toString))

end VerdictClient.Main

open VerdictClient.Main in
def main (args : List String) : IO UInt32 := do
  let env ← environment
  let args := args.map Text.ofString
  let paths := args ++ (Config.usualPath env).toOption.toList
  let fs ← paths.foldlM look .empty
  let world : World := {
    environment := env
    files := fs
    token := fun _ ↦ .error (.httpConnection offline)
    service := ⟨some (.system offline), fun _ ↦ [], fun _ _ ↦ ([], .error (.httpConnection offline))⟩
    terminal := terminal }
  let report := run world args
  print report.ending
  return UInt32.ofNat (report.ending.exitCode terminal)
