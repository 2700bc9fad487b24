import CommandRouter.Router.Handler

/-!
# Instruments

Handlers, middlewares and filters of simple kinds, with which the routes of a bot are tried out and
small bots are built. Most of them leave notes.
-/

namespace CommandRouter

namespace Handler

/-- Notes the interaction. -/
def record (tag : String) : Handler := fun _ i => [.note (.handled tag i.id)]

/-- Notes the values of the interaction. -/
def echo (tag : String) : Handler := fun _ i => [.note (.valued tag i.options)]

/-- Notes why a response could not be sent. -/
def noteFailure (e : SessionError) : List Effect :=
  [.note (.text s!"respond failed: {e.message}")]

/-- Sends the response that the interaction gives rise to. -/
def reply (response : Interaction → Response) (onFailure : SessionError → List Effect) : Handler :=
  fun view i => view.respond i (response i) onFailure

end Handler

/-! ## Arithmetic on 64-bit integers -/

/-- An operation on two integers, with a result if there is one of 64 bits. -/
inductive Arithmetic where
  | add
  | subtract
  | multiply
  | divide
  deriving DecidableEq

namespace Arithmetic

/-- The result over the integers; division truncates, and there is none by zero. -/
def result? : Arithmetic → Int → Int → Option Int
  | add, a, b => some (a + b)
  | subtract, a, b => some (a - b)
  | multiply, a, b => some (a * b)
  | divide, a, b => if b = 0 then none else some (a.tdiv b)

/-- The result, if there is one and it fits 64 bits. -/
def checked? (op : Arithmetic) (a b : Int) : Option Int :=
  (op.result? a b).filter Decimal.fitsSigned

/-- The text of the result for the operands `num1` and `num2` of an interaction, or the given texts
if an operand is missing or there is no result. -/
def reply (op : Arithmetic) (missing failed : String) (i : Interaction) : String :=
  match (i.option? "num1").bind (·.int?), (i.option? "num2").bind (·.int?) with
  | some a, some b => ((op.checked? a b).map Decimal.text).getD failed
  | _, _ => missing

end Arithmetic

/-! ## Middlewares that leave notes -/

namespace Middleware

/-- Leaves a note, runs the rest of the chain so many times and leaves another note. -/
def bracket (name : String) (times : Nat) : Middleware := fun next view i =>
  .note (.text s!"{name}-before") ::
    ((List.replicate times (next view i)).flatten ++ [.note (.text s!"{name}-after")])

/-- Fails for every interaction; without a reason the interaction is skipped. -/
def failing (reason : String) : Middleware :=
  Layer.middleware (.check fun _ => .error (if reason.isEmpty then .skipped else .failed reason))

/-- Goes on with another id. -/
def rename (id : String) : Middleware := Layer.middleware (.mapRequest fun i => { i with id })

end Middleware

/-! ## Properties of interactions -/

/-- A property by which interactions are filtered. -/
inductive Criterion where
  /-- The command has the given name. -/
  | command (name : String)
  /-- The interaction took place in the given channel. -/
  | channel (id : String)
  /-- The given user invoked the interaction. -/
  | invoker (id : String)
  /-- There is an option of the given name. -/
  | hasOption (name : String)
  /-- The interaction took place in a guild. -/
  | inGuild
  /-- No interaction has this property. -/
  | never
  deriving DecidableEq

/-- Whether an interaction has the property. -/
def Criterion.holds (i : Interaction) : Criterion → Bool
  | command name => (i.command?.map (·.name)) == some name
  | channel id => i.channelId == some id
  | invoker id => (i.invoker?.map (·.id)) == some id
  | hasOption name => (i.option? name).isSome
  | inGuild => i.guildId.isSome
  | never => false

end CommandRouter
