import CommandRouter.Config.Notation

/-!
# Settings from environment variables

Two variables with names of their own give the credentials. All others begin with a common word; the
rest of their names are the keys of a setting, with two underscores between keys. Names are read
without regard to case. A variable that comes later is laid over the earlier ones.
-/

namespace CommandRouter.Setting

/-- The environment variables: their names and values. -/
abbrev Variables : Type := List (String × String)

/-- The variables with one more set; a name that is set already keeps its place. -/
def assign (env : Variables) (new : String × String) : Variables :=
  match env with
  | [] => [new]
  | old :: env => if old.1 = new.1 then new :: env else old :: assign env new

/-- The name of a variable in lower case, without the blanks around it. -/
def foldedName (name : String) : List Char := (Text.trim name.toList).map Char.toLower

/-- The text with a point in place of every two underscores. -/
def separate : List Char → List Char
  | '_' :: '_' :: cs => '.' :: separate cs
  | c :: cs => c :: separate cs
  | [] => []

/-- The keys of the setting that a variable with a name of its own gives. -/
def credentialKeys? (name : String) : Option (List String) :=
  match String.ofList (foldedName name) with
  | "discord_token" => some ["bot", "token"]
  | "discord_guild_id" => some ["bot", "guild_id"]
  | _ => none

/-- The keys of the setting that any other variable gives. A name with an empty key gives none. -/
def variableKeys? (name : String) : Option (List String) := do
  let rest ← Text.dropStart? "slashmux_".toList (foldedName name)
  let keys := (Text.trim (separate rest)).splitOn '.'
  if keys.any (·.isEmpty) then none else some (keys.map String.ofList)

/-- The settings of the variables whose names give keys, laid over one another in their order. -/
def ofVariables (keys? : String → Option (List String)) (env : Variables) : Setting :=
  env.foldl (fun below (name, value) =>
    match keys? name with
    | some keys => merge below (nest (ofVariable value) keys)
    | none => below) (.table [])

end CommandRouter.Setting
