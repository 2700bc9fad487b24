import CommandRouter.Config.Environment
import CommandRouter.Config.Extraction
import CommandRouter.Config.Wire
import CommandRouter.Toml.Reader

/-!
# Loading a configuration

A configuration is put together from layers: the defaults, a file, the variables with the
credentials, all other variables, and single values that the caller sets. A later layer is laid over
the earlier ones. The result is read off the merged layers and then checked.

The file is the one that the caller names, or else the first of the usual name in the directories
that are searched.
-/

namespace CommandRouter

/-! ## Files -/

/-- A place in the tree of files: the names on the way from its root. -/
abbrev Place : Type := List String

/-- Where a program runs: the files that it sees, its directories and its variables. -/
structure Surroundings where
  /-- The files, the last written first. -/
  files : List (Place × String) := []
  /-- The working directory. -/
  workingDirectory : Place := []
  /-- The directory for the configurations of a user. -/
  configDirectory : Place := []
  /-- The environment variables. -/
  environment : Setting.Variables := []

namespace Surroundings

/-- Whether a place is a directory. -/
def isDirectory (s : Surroundings) (place : Place) : Bool :=
  place.isPrefixOf s.workingDirectory ||
    s.files.any fun (file, _) => place.isPrefixOf file && place != file

/-- The place that the parts of a path lead to; all places on the way must be directories. The root
is its own parent. -/
def follow? (s : Surroundings) (place : Place) : List String → Option Place
  | [] => some place
  | part :: parts =>
    if !s.isDirectory place then none
    else if part.isEmpty || part == "." then s.follow? place parts
    else if part == ".." then s.follow? place.dropLast parts
    else s.follow? (place ++ [part]) parts

/-- The parts of a path. -/
def parts (path : String) : List String := (path.toList.splitOn '/').map String.ofList

/-- The place of a path, which begins at the root or at a directory. An empty path has none. -/
def resolve? (s : Surroundings) (base : Place) (path : String) : Option Place :=
  if path.isEmpty then none
  else s.follow? (if path.toList.head? == some '/' then [] else base) (parts path)

/-- The contents of the file at a place. -/
def contentsAt? (s : Surroundings) (place : Place) : Option String := s.files.lookup place

/-- Whether there is a file or a directory at a place. -/
def existsAt (s : Surroundings) (place : Place) : Bool :=
  s.isDirectory place || (s.contentsAt? place).isSome

/-- Whether there is a file or a directory at a path. -/
def exists? (s : Surroundings) (path : String) : Bool :=
  (s.resolve? s.workingDirectory path).any s.existsAt

/-- The contents of the file at a path from a directory, or else from the nearest directory above it
from which there is a file at that path. -/
def search? (s : Surroundings) (path : String) : Nat → Place → Option String
  | 0, base => (s.resolve? base path).bind s.contentsAt?
  | n + 1, base =>
    ((s.resolve? base path).bind s.contentsAt?).or (s.search? path n base.dropLast)

/-- The contents of the file at a path. -/
def contents? (s : Surroundings) (path : String) : Option String :=
  s.search? path s.workingDirectory.length s.workingDirectory

end Surroundings

/-- The extension of the last part of a path: what follows its last point, if something precedes
it. -/
def extension (path : String) : String :=
  match ((Surroundings.parts path).filter fun part => !part.isEmpty && part != ".").getLast? with
  | none => ""
  | some name =>
    if name == ".." then ""
    else
      let behind := name.toList.reverse.takeWhile (· != '.')
      if behind.length + 1 < name.length then .ofList behind.reverse else ""

/-! ## Layers -/

/-- How a configuration is loaded. -/
structure Loader where
  /-- The directories that are searched; if there are none, the working directory and the directory
  of the program among the configurations of the user. -/
  searchPaths : List String := []
  /-- The file, if it is not searched for. -/
  file : Option String := none
  /-- Whether the environment variables are left out. -/
  withoutVariables : Bool := false
  /-- The values that are set, under their dotted keys, the first first. -/
  overrides : List (String × Json) := []

/-- The layers that the settings of a program come from, the lowest first. -/
structure Layers where
  /-- The settings of the file, if there is one. -/
  file : Setting := .table []
  /-- The environment variables, if they are looked at. -/
  environment : Setting.Variables := []
  /-- The values that are set, under their dotted keys. -/
  overrides : List (String × Json) := []

namespace Layers

/-- The lowest layer. -/
def defaults : Setting := .ofJson ({} : Config).encode

/-- The value set under a dotted key as a setting, which must be a table in the end. -/
def override (key : String) (value : Json) : Except ConfigError Setting :=
  match Setting.nest (.ofJson value) (Setting.keys key) with
  | .table members => .ok (.table members)
  | _ => .error (.misfit [])

/-- All values that are set, laid over one another. -/
def overridden (overrides : List (String × Json)) : Except ConfigError Setting :=
  overrides.foldlM (fun below (key, value) => (override key value).map (Setting.merge below))
    (.table [])

/-- The settings of all layers, laid over one another. -/
def merged (l : Layers) : Except ConfigError Setting :=
  (overridden l.overrides).map fun overrides =>
    [l.file, .ofVariables Setting.credentialKeys? l.environment,
      .ofVariables Setting.variableKeys? l.environment, overrides].foldl Setting.merge defaults

/-- The configuration that the layers give, if it works. -/
def config (l : Layers) : Except ConfigError Config := do
  let c ← (Config.shape (← l.merged)).mapError .misfit
  c.check
  return c

end Layers

namespace Loader

/-- The usual name of a configuration file. -/
def fileName : String := "slashmux.toml"

/-- The directory of the program among the configurations of a user. -/
def directoryName : String := "slashmux"

/-- The path of a name in a directory. -/
def join (directory name : String) : String :=
  if directory.isEmpty then name else directory ++ "/" ++ name

/-- The settings of a file. -/
def settings (text : String) : Except ConfigError Setting :=
  (Toml.read text).elim (.error (.misfit [])) .ok

/-- The text of the file that the caller names, which must exist and be of a known format. -/
def namedFile (s : Surroundings) (path : String) : Except ConfigError (Option String) :=
  if !s.exists? path then .error (.fileNotFound path)
  else if extension path == "toml" then .ok (s.contents? path)
  else .error (.unsupportedFormat (extension path))

/-- The text of the first file that the search finds. -/
def foundFile (l : Loader) (s : Surroundings) : Option String :=
  if l.searchPaths.isEmpty then
    let places := [s.workingDirectory, s.configDirectory ++ [directoryName]]
    ((places.map (· ++ [fileName])).find? s.existsAt).bind s.contentsAt?
  else
    ((l.searchPaths.map (join · fileName)).find? s.exists?).bind s.contents?

/-- The layers from which a configuration is loaded. -/
def layers (l : Loader) (s : Surroundings) : Except ConfigError Layers := do
  let text ← match l.file with
    | some path => namedFile s path
    | none => pure (l.foundFile s)
  return {
    file := ← (text.map settings).getD (.ok (.table []))
    environment := if l.withoutVariables then [] else s.environment
    overrides := l.overrides }

/-- Loads a configuration. -/
def load (l : Loader) (s : Surroundings) : Except ConfigError Config := do (← l.layers s).config

end Loader

end CommandRouter
