import CommandRouter.DispatchKey

/-!
# The command registry

A registry folds patterns into the tree of commands that is published. A pattern adds one routable
node: a bare command, a sub-command, or a sub-command of a group; commands and groups on the way to
it are made when they are first needed and keep their place. A pattern is refused when its node is
there already, when it would give a command both value options and sub-commands, or when it would
use a name for a group and for a sub-command of one command. A refused pattern changes nothing.
-/

namespace CommandRouter

/-- The commands of the patterns registered so far, in the order in which they first appeared. -/
structure CommandRegistry where
  /-- The commands. -/
  commands : List ApplicationCommand := []

namespace CommandRegistry

/-! ## Refusals -/

/-- How a pattern clashes with the patterns registered before it. -/
inductive Clash where
  /-- The command takes options and has no sub-commands. -/
  | notBranching (command : String)
  /-- The name of the sub-command is that of a group. -/
  | isGroup (name : String)
  /-- The name of the group is that of a sub-command. -/
  | isSubCommand (name : String)
  /-- More names follow the name of the command than may. -/
  | tooDeep
  deriving DecidableEq

/-- Why a pattern is refused. -/
inductive Error where
  /-- The node of the pattern is there already. -/
  | duplicate (key : DispatchKey)
  /-- The pattern does not fit the tree. -/
  | conflict (key : DispatchKey) (clash : Clash)
  deriving DecidableEq

/-- The clash in words. -/
def Clash.message : Clash → String
  | notBranching command => s!"`/{command}` is registered without sub-commands"
  | isGroup name => s!"`{name}` is already a sub-command group"
  | isSubCommand name => s!"`{name}` is already a sub-command"
  | tooDeep => s!"sub-commands can only be nested {Pattern.maxDepth} layers deep"

/-- The refusal in words. -/
def Error.message : Error → String
  | duplicate key => s!"pattern `{key.text}` is already registered"
  | conflict key clash =>
    s!"pattern `{key.text}` conflicts with an existing registration: {clash.message}"

/-! ## Looking up -/

/-- The command of the given name. -/
def get? (r : CommandRegistry) (name : String) : Option ApplicationCommand :=
  r.commands.find? fun c => c.name == name

/-! ## Registering -/

/-- Why the node below an existing command that the path leads to cannot be added, if it cannot. -/
def refusal? (key : DispatchKey) (c : ApplicationCommand) : List String → Option Error
  | [] => some (.duplicate key)
  | [sub] =>
    if !c.isBranching then some (.conflict key (.notBranching c.name))
    else if (c.find? sub .subCommandGroup).isSome then some (.conflict key (.isGroup sub))
    else if (c.find? sub .subCommand).isSome then some (.duplicate key)
    else none
  | [group, sub] =>
    if !c.isBranching then some (.conflict key (.notBranching c.name))
    else if (c.find? group .subCommand).isSome then some (.conflict key (.isSubCommand group))
    else if ((c.find? group .subCommandGroup).bind (·.find? sub .subCommand)).isSome then
      some (.duplicate key)
    else none
  | _ => some (.conflict key .tooDeep)

/-- Why a pattern cannot be registered, if it cannot. -/
def refusal (r : CommandRegistry) (p : Pattern) : Option Error :=
  if Pattern.maxDepth < p.path.length then some (.conflict p.key .tooDeep)
  else (r.get? p.name).bind fun c => refusal? p.key c p.path

/-- The first element with the property changed; a new one at the end if there is none. -/
def changeFirst {α : Type} (found : α → Bool) (new : α) (f : α → α) : List α → List α
  | [] => [f new]
  | x :: xs => if found x then f x :: xs else x :: changeFirst found new f xs

/-- The options of a command with the node of a pattern added. -/
def addNode (options : List CommandOption) (path : List String) (leaf : List CommandOption) :
    List CommandOption :=
  match path with
  | [] => leaf
  | [sub] => options ++ [.subCommand sub leaf]
  | group :: sub :: _ =>
    changeFirst (CommandOption.named group .subCommandGroup) (.group group [])
      (fun g => { g with options := g.options ++ [.subCommand sub leaf] }) options

/-- The tree with the node of a pattern added, whether it fits or not. -/
def insert (r : CommandRegistry) (p : Pattern) : CommandRegistry :=
  ⟨changeFirst (fun c => c.name == p.name) (.chatInput p.name)
    (fun c => { c with options := addNode c.options p.path (p.options.map OptionSpec.definition) })
    r.commands⟩

/-- Registers a pattern. -/
def register (r : CommandRegistry) (p : Pattern) : Except Error CommandRegistry :=
  match r.refusal p with
  | some e => .error e
  | none => .ok (r.insert p)

end CommandRegistry

end CommandRouter
