import CommandRouter.Router.Handler

/-!
# Routers

A router has handlers, each under a dispatch key, and middlewares that apply to all of them. It
routes an interaction to the handler under the key of its command. What is done in the course of
this is recorded with the key it was done for, so that every event can be traced to the interaction
that caused it.
-/

namespace CommandRouter

/-- Something that was done, on behalf of the command with a key or of none. -/
inductive Entry where
  /-- A note was left. -/
  | note (n : Note)
  /-- A response was sent. -/
  | respond (id : String) (r : Response)
  /-- An event was reported while the command with the given key was handled, if one was. -/
  | event (e : Event) (dispatch : Option DispatchKey)

/-- The effect, done on behalf of the command with the given key. -/
def Effect.entry (dispatch : Option DispatchKey) : Effect → Entry
  | note n => .note n
  | respond id r => .respond id r
  | event e => .event e dispatch

/-- The note of an entry that is one. -/
def Entry.note? : Entry → Option Note
  | note n => some n
  | _ => none

/-- The response of an entry that is one, with the id of its interaction. -/
def Entry.response? : Entry → Option (String × Response)
  | respond id r => some (id, r)
  | _ => none

/-- The event of an entry that is one, with the key of the command it belongs to. -/
def Entry.event? : Entry → Option (Event × Option DispatchKey)
  | event e dispatch => some (e, dispatch)
  | _ => none

/-- Handlers under their keys, and the middlewares around all of them. -/
structure Router where
  /-- The handlers under their keys. -/
  handlers : List (DispatchKey × Handler) := []
  /-- The middlewares, the outermost first. -/
  middlewares : List Middleware := []

namespace Router

/-- The handler under a key. -/
def handler? (r : Router) (key : DispatchKey) : Option Handler := r.handlers.lookup key

/-- Routes an interaction: whether a handler ran, and what was done. -/
def dispatch (r : Router) (view : SessionView) (i : Interaction) : Bool × List Entry :=
  match i.command? with
  | none => (false, [.event (.interactionIgnored i.id i.kind) none])
  | some data =>
    match r.handler? data.key with
    | none => (false, [.event .handlerMissing (some data.key)])
    | some h =>
      (true, (Middleware.chain r.middlewares h view i).map (Effect.entry (some data.key)))

end Router

end CommandRouter
