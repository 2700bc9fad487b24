import CommandRouter.Calculator.Replay

/-!
# The program

The calculator on the command line. It reads interactions from the standard input and prints the
replies to the standard output.
-/

open CommandRouter

/-- The variables that the program looks at. -/
def variableNames : List String := [
  "DISCORD_TOKEN", "DISCORD_GUILD_ID", "SLASHMUX_BOT", "SLASHMUX_BOT__TOKEN",
  "SLASHMUX_BOT__GUILD_ID", "SLASHMUX_LOGGING", "SLASHMUX_LOGGING__LEVEL",
  "SLASHMUX_LOGGING__FORMAT", "SLASHMUX_LOGGING__OUTPUT", "SLASHMUX_LOGGING__FILE_PATH",
  "SLASHMUX_LOGGING__THREAD_IDS", "SLASHMUX_LOGGING__FILE_LOCATION",
  "SLASHMUX_LOGGING__SPAN_EVENTS", "SLASHMUX_LOGGING__SPAN_EVENTS__NEW",
  "SLASHMUX_LOGGING__SPAN_EVENTS__ENTER", "SLASHMUX_LOGGING__SPAN_EVENTS__EXIT",
  "SLASHMUX_LOGGING__SPAN_EVENTS__CLOSE", "SLASHMUX_LOGGING__FILTERS"]

/-- The file at a path and its contents, if it can be read. -/
def readAt (place : Place) (path : String) : IO (Option (Place × String)) := do
  try
    return some (place, ← IO.FS.readFile path)
  catch _ => return none

/-- The place that the parts of a path lead to from a directory. -/
def placeFrom (base : Place) (path : String) : Place :=
  (Surroundings.parts path).foldl (fun place part =>
    if part.isEmpty || part == "." then place
    else if part == ".." then place.dropLast
    else place ++ [part]) base

/-- The place of an absolute path. -/
def placeOf (path : String) : Place := placeFrom [] path

/-- The variables that are set. -/
def readVariables : IO Setting.Variables :=
  variableNames.filterMapM fun name => do return (← IO.getEnv name).map fun value => (name, value)

/-- The directory for the configurations of the user. -/
def readConfigDirectory : IO String := do
  match ← IO.getEnv "XDG_CONFIG_HOME", ← IO.getEnv "HOME" with
  | some directory, _ => return directory
  | none, some home => return home ++ "/.config"
  | none, none => return ""

/-- What the program sees: its variables and the configuration files that it may read. -/
def readSurroundings (arguments : List String) : IO Surroundings := do
  let workingDirectory := placeOf (← IO.currentDir).toString
  let configDirectory ← readConfigDirectory
  let s : Surroundings :=
    { workingDirectory
      configDirectory := placeOf configDirectory
      environment := ← readVariables }
  let named : List String := match Calculator.Request.parse arguments with
    | .ok (.run { config := some path, .. }) => [path]
    | _ => []
  let named ← named.filterMapM fun path =>
    readAt (placeFrom (if path.startsWith "/" then [] else workingDirectory) path) path
  let usual ← [(workingDirectory, Loader.fileName),
      (placeOf configDirectory ++ [Loader.directoryName],
        configDirectory ++ "/" ++ Loader.directoryName ++ "/" ++ Loader.fileName)].filterMapM
    fun (place, path) => readAt (place ++ [Loader.fileName]) path
  return { s with files := named ++ usual }

/-- What is said about an ending besides the output. -/
def remark : Calculator.Ending → Option String
  | .done _ => none
  | .help => some "[--config FILE] [--application-id ID] [--print-commands]"
  | .version => some "0.1.0"
  | .badArguments e => some ("error: " ++ e.message)
  | .badConfig e => some ("Error: failed to load configuration: " ++ e.message)
  | .failed _ e => some ("Error: " ++ e.message)

/-- Runs the program. -/
def main (arguments : List String) : IO UInt32 := do
  let s ← readSurroundings arguments
  let input ← (← IO.getStdin).readBinToEnd
  let ending := Calculator.runOnBytes arguments s input
  IO.print ending.output
  match remark ending with
  | some text => IO.eprintln text
  | none => pure ()
  return ending.code.toUInt32
