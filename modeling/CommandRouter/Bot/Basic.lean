import CommandRouter.CommandRegistry
import CommandRouter.Pattern.Reader
import CommandRouter.Router.Table

/-!
# Bots

A bot declares routes before it goes live: each pattern is folded into the tree of commands that
will be published, and its handler is stored under the key of the pattern. A route that is refused
changes nothing. Middlewares apply to all routes, whether they are declared before or after.
-/

namespace CommandRouter

/-- A bot while its routes are declared. -/
structure Bot where
  /-- Where its commands will be visible. -/
  scope : Scope := .everywhere
  /-- The commands of its routes. -/
  registry : CommandRegistry := {}
  /-- Its handlers and middlewares. -/
  router : Router := {}

/-- Why a bot refuses a route, cannot go live or cannot stop. -/
inductive BotError where
  /-- The text of a pattern is wrong. -/
  | pattern (e : Pattern.Error)
  /-- The pattern does not fit the patterns before it. -/
  | registry (e : CommandRegistry.Error)
  /-- The session could not be opened. -/
  | openFailed (e : SessionError)
  /-- The session does not know its application. -/
  | applicationUnknown
  /-- The commands could not be published. -/
  | publishFailed (e : SessionError)
  /-- The session could not be closed. -/
  | closeFailed (e : SessionError)
  deriving DecidableEq

/-- The error in words. -/
def BotError.message : BotError → String
  | pattern e => e.message
  | registry e => e.message
  | openFailed _ => "failed to open session"
  | applicationUnknown => "session did not report an application id"
  | publishFailed _ => "failed to publish commands"
  | closeFailed _ => "failed to close session"

namespace Bot

/-- The commands of the routes, in the order in which they first appeared. -/
def commands (b : Bot) : List ApplicationCommand := b.registry.commands

/-- The number of routes. -/
def routeCount (b : Bot) : Nat := b.router.handlers.length

/-- Declares a route for a pattern. -/
def route (b : Bot) (p : Pattern) (h : Handler) : Except CommandRegistry.Error Bot :=
  if (b.router.handler? p.key).isSome then .error (.duplicate p.key)
  else (b.registry.register p).map fun registry =>
    { b with registry, router := { b.router with handlers := b.router.handlers ++ [(p.key, h)] } }

/-- Declares a route for the text of a pattern; the key of the route is given with the bot. -/
def handle (b : Bot) (line : String) (h : Handler) : Except BotError (DispatchKey × Bot) := do
  let p ← (Pattern.parse line).mapError .pattern
  let b ← (b.route p h).mapError .registry
  return (p.key, b)

/-- Adds middlewares inside those that the bot has. -/
def use (b : Bot) (ms : List Middleware) : Bot :=
  { b with router := { b.router with middlewares := b.router.middlewares ++ ms } }

end Bot

end CommandRouter
