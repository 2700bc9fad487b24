import CommandRouter.Bot.Serving
import CommandRouter.Router.Instruments

/-!
# Scenarios

A scenario is a script for one session and any number of bots, which are told apart by their names.
Its steps declare routes, let bots go live and stop, deliver interactions and interfere with the
session. A step may contain further steps: those that are done while a bot runs. Every step is
answered by a report of what came of it, of what was noted meanwhile, and of the session after it.
-/

namespace CommandRouter.Scenario

/-- A call on a session that can be made to fail. -/
inductive Call where
  | «open»
  | close
  | applicationId
  | respond
  | permissions
  deriving DecidableEq

/-- A step of a scenario. -/
inductive Step where
  /-- Begins a bot. -/
  | begin (bot : String) (scope : Scope)
  /-- Declares a route. -/
  | handle (bot pattern : String) (h : Handler)
  /-- Adds middlewares. -/
  | use (bot : String) (ms : List Middleware)
  /-- Asks for the state of a bot. -/
  | state (bot : String)
  /-- Routes an interaction to a bot, whether it is live or not. -/
  | dispatch (bot : String) (i : Interaction)
  /-- Runs a chain of middlewares around a handler. -/
  | chain (ms : List Middleware) (h : Handler) (i : Interaction)
  /-- Lets a bot go live. -/
  | serve (bot : String)
  /-- Stops a live bot. -/
  | close (bot : String)
  /-- Runs a bot and does the given steps meanwhile. -/
  | runUntil (bot : String) (during : List Step)
  /-- Runs a bot until the signal comes. -/
  | runUntilSignal (bot : String) (signal : Signal)
  /-- Opens the session. -/
  | openSession
  /-- Closes the session. -/
  | closeSession
  /-- Delivers an interaction. -/
  | deliver (i : Interaction)
  /-- Installs a callback that leaves notes. -/
  | observe (tag : String)
  /-- Publishes commands. -/
  | publish (application : String) (scope : Scope) (commands : List ApplicationCommand)
  /-- Asks for the commands that were published for a scope. -/
  | published (scope : Scope)
  /-- Asks for the id of the application. -/
  | applicationId
  /-- Asks for the responses that were sent. -/
  | responses
  /-- Takes the responses that were sent. -/
  | takeResponses
  /-- Asks for the permissions of a user in a channel. -/
  | permissions (user channel : String)
  /-- Sets the permissions of a user in a channel. -/
  | setPermissions (user channel : String) (p : Permissions)
  /-- Makes every publication fail. -/
  | rejectPublish (e : SessionError)
  /-- Makes a call on the session fail, or stops this. -/
  | fault (call : Call) (error : Option SessionError)
  /-- Does nothing. -/
  | rest
  /-- Does nothing, for the data of the step cannot be read. -/
  | unreadable (e : DecodeError)
  /-- Does nothing, for there is no such step. -/
  | unknown (name : String)

/-- What came of a step. -/
inductive Outcome where
  /-- It was done. -/
  | done
  /-- There is no bot of this name that it applies to. -/
  | noBot
  /-- A bot began with this scope. -/
  | began (scope : Scope)
  /-- A bot has so many routes. -/
  | routes (count : Nat)
  /-- A bot has not gone live. -/
  | building (b : Bot)
  /-- A bot is live. -/
  | serving (b : LiveBot) (applicationId : Option String)
  /-- A bot went live. -/
  | served (b : LiveBot)
  /-- Whether a handler ran. -/
  | ran (b : Bool)
  /-- Whether a chain is the handler that it was made of. -/
  | unchanged (b : Bool)
  /-- How a run with steps inside it ended. -/
  | ended (result : Except BotError Unit)
  /-- A run was ended by a signal. -/
  | stopped
  /-- A bot refused. -/
  | botError (e : BotError)
  /-- The session refused. -/
  | sessionError (e : SessionError)
  /-- These commands were published. -/
  | commands (cs : List ApplicationCommand)
  /-- These commands had been published, if any. -/
  | published (cs : Option (List ApplicationCommand))
  /-- The id of the application, if it is known. -/
  | applicationId (id : Option String)
  /-- The responses that were sent. -/
  | responses (rs : List (String × Response))
  /-- The permissions of a user. -/
  | permissions (p : Permissions)
  /-- The data of the step cannot be read. -/
  | unreadable (e : DecodeError)
  /-- There is no such step. -/
  | unknown (name : String)

/-- What is reported about a step. -/
structure Report where
  /-- What came of the step. -/
  outcome : Outcome
  /-- The notes that were left during the step and are in no report of a step inside it. -/
  trace : List Note
  /-- Whether the session is open after the step. -/
  isOpen : Bool
  /-- How often commands have been published. -/
  publishCount : Nat
  /-- The number of responses that were sent and not taken. -/
  responseCount : Nat
  /-- The reports of the steps inside the step. -/
  during : List Report

end CommandRouter.Scenario
