import CommandRouter.Interaction.Basic
import CommandRouter.Session.Scope

/-!
# Events

What the router, its middleware, the session and the programs report about their work. Each event
has a level, a message and named fields.
-/

namespace CommandRouter

/-- How important an event is, from the least to the most. -/
inductive Level where
  | trace
  | debug
  | info
  | warn
  | error
  deriving DecidableEq

namespace Level

/-- The name of the level. -/
def name : Level → String
  | trace => "trace"
  | debug => "debug"
  | info => "info"
  | warn => "warn"
  | error => "error"

/-- The name of the level as it stands in a line of a log. -/
def label : Level → String
  | trace => "TRACE"
  | debug => "DEBUG"
  | info => "INFO"
  | warn => "WARN"
  | error => "ERROR"

/-- All levels, from the least important to the most. -/
def all : List Level := [trace, debug, info, warn, error]

/-- The rank of the level; more important levels have lower ranks. -/
def rank : Level → Nat
  | error => 1
  | warn => 2
  | info => 3
  | debug => 4
  | trace => 5

end Level

/-- A signal that ends a program. -/
inductive Signal where
  | interrupt
  | terminate
  deriving DecidableEq

/-- Something that is reported. -/
inductive Event where
  /-- A pattern was added to the command tree. -/
  | patternAdded (key : DispatchKey)
  /-- A handler was stored under a key. -/
  | handlerRegistered (key : DispatchKey)
  /-- An interaction without a command was passed over. -/
  | interactionIgnored (id : String) (kind : InteractionType)
  /-- No handler is stored under the key of a command. -/
  | handlerMissing
  /-- An interaction passed the logging middleware. -/
  | interactionSeen (user channel : String)
  /-- An interaction cannot be checked because its user or its channel is unknown. -/
  | invokerUnknown (id : String)
  /-- A user lacks a permission. -/
  | permissionDenied (user channel : String)
  /-- The reply to a user who lacks a permission could not be sent. -/
  | denialFailed (error : SessionError)
  /-- The permissions of a user could not be looked up. -/
  | lookupFailed (user : String) (error : SessionError)
  /-- A layer failed. -/
  | layerFailed (reason : String)
  /-- The session was opened. -/
  | sessionOpened (application : String)
  /-- The session was closed. -/
  | sessionClosed
  /-- An interaction is handed to the installed callbacks. -/
  | delivering (id : String) (callbacks : Nat)
  /-- Commands were published. -/
  | commandsPublished (count : Nat) (scope : Scope)
  /-- The session could not be closed after a start that failed. -/
  | cleanupFailed (error : SessionError)
  /-- A router stopped serving. -/
  | servingEnded
  /-- A program runs until it is told to stop. -/
  | waiting
  /-- A program serves. -/
  | running (commands : Nat) (scope : Scope)
  /-- A program was told to stop. -/
  | signalled (signal : Signal)
  /-- A program stopped. -/
  | stopped
  /-- A reply could not be sent. -/
  | replyFailed (error : SessionError)
  /-- A line that is no interaction was passed over. -/
  | lineSkipped
  /-- A line could not be read. -/
  | inputUnreadable (reason : String)
  /-- An interaction could not be delivered. -/
  | deliveryFailed (error : SessionError)
  deriving DecidableEq

/-- The value of a field of an event. -/
inductive FieldValue where
  | text (s : String)
  | count (n : Nat)
  deriving DecidableEq

namespace Event

/-- How important the event is. -/
def level : Event → Level
  | patternAdded _ | delivering .. => .trace
  | handlerRegistered _ | interactionIgnored .. | handlerMissing | interactionSeen ..
  | permissionDenied .. | sessionOpened _ | sessionClosed => .debug
  | commandsPublished .. | servingEnded | waiting | running .. | signalled _ | stopped => .info
  | invokerUnknown _ | cleanupFailed _ | lineSkipped => .warn
  | denialFailed _ | lookupFailed .. | layerFailed _ | replyFailed _ | inputUnreadable _
  | deliveryFailed _ => .error

/-- The message of the event. What the reader of a skipped line found wrong is left out. -/
def message : Event → String
  | patternAdded _ => "command pattern added to tree"
  | handlerRegistered _ => "handler registered"
  | interactionIgnored .. => "ignoring non-command interaction"
  | handlerMissing => "no handler registered"
  | interactionSeen .. => "interaction"
  | invokerUnknown _ => "interaction has no user or channel, rejecting"
  | permissionDenied .. => "permission denied"
  | denialFailed e => s!"Failed to send permission reply: {e.message}"
  | lookupFailed _ e => s!"failed to get user permissions: {e.message}"
  | layerFailed reason => s!"Handler service error: {reason}"
  | sessionOpened _ => "local session opened"
  | sessionClosed => "local session closed"
  | delivering .. => "delivering interaction"
  | commandsPublished .. => "application commands published"
  | cleanupFailed e => s!"Failed to close session after startup error: {e.message}"
  | servingEnded => "session closed"
  | waiting => "Press Ctrl+C to stop."
  | running .. => "Bot is now running"
  | signalled .interrupt => "Received Ctrl+C, shutting down"
  | signalled .terminate => "Received SIGTERM, shutting down"
  | stopped => "Bot stopped"
  | replyFailed e => s!"Failed to send reply: {e.message}"
  | lineSkipped => "Skipping malformed interaction"
  | inputUnreadable reason => s!"Failed to read stdin: {reason}"
  | deliveryFailed e => s!"Failed to deliver interaction: {e.message}"

/-- The fields of the event. -/
def fields : Event → List (String × FieldValue)
  | patternAdded key | handlerRegistered key => [("key", .text key.text)]
  | interactionIgnored id kind => [("id", .text id), ("kind", .text kind.name)]
  | interactionSeen user channel | permissionDenied user channel =>
    [("user", .text user), ("channel", .text channel)]
  | invokerUnknown id => [("id", .text id)]
  | lookupFailed user _ => [("user", .text user)]
  | sessionOpened application => [("application_id", .text application)]
  | delivering id callbacks => [("id", .text id), ("callbacks", .count callbacks)]
  | commandsPublished count scope => [("count", .count count), ("scope", .text scope.text)]
  | running commands scope => [("commands", .count commands), ("scope", .text scope.text)]
  | _ => []

end Event

end CommandRouter
