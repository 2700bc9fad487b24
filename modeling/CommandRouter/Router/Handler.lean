import CommandRouter.Event
import CommandRouter.Response

/-!
# Handlers and middleware

A handler works on one interaction. While it does, nothing else changes what its session answers:
a handler is a function of these answers and of the interaction, and what it does is the list of its
effects in order. Sending a response is such an effect; whether it arrives is among the answers of
the session, so a handler that cares can look.

A middleware turns a handler into another one and may run it any number of times. A chain of
middlewares nests: the first is outermost.

A *layer* is a middleware that may fail. It wraps a *service*, which has effects and then either
succeeds or fails. A handler is a service that succeeds; a service becomes a handler again by
reporting its failure, unless an interaction was merely skipped.
-/

namespace CommandRouter

/-- What a session answers to the handlers that run on it. -/
structure SessionView where
  /-- Why responses cannot be sent, if they cannot. -/
  respondFault : Option SessionError
  /-- The permissions of a user in a channel. -/
  permissions : String → String → Except SessionError Permissions

/-- A remark that a handler, a middleware or a callback leaves behind. -/
inductive Note where
  /-- A text. -/
  | text (s : String)
  /-- A handler had an interaction. -/
  | handled (tag id : String)
  /-- A handler had an interaction with these values. -/
  | valued (tag : String) (options : List DataOption)
  /-- A callback had an interaction. -/
  | observed (tag id : String)

/-- Something that a handler does. -/
inductive Effect where
  /-- It leaves a note. -/
  | note (n : Note)
  /-- It sends a response to the interaction of the given id. -/
  | respond (id : String) (r : Response)
  /-- It reports an event. -/
  | event (e : Event)

/-- What is done with one interaction. -/
abbrev Handler : Type := SessionView → Interaction → List Effect

/-- Turns a handler into another one. -/
abbrev Middleware : Type := Handler → Handler

namespace SessionView

/-- The effects of a response: it is sent, and its failure is followed by further effects. -/
def respond (view : SessionView) (i : Interaction) (r : Response)
    (onFailure : SessionError → List Effect) : List Effect :=
  .respond i.id r :: (view.respondFault.map onFailure).getD []

end SessionView

namespace Middleware

/-- The handler inside all the given middlewares, the first of which is outermost. -/
def chain (ms : List Middleware) (h : Handler) : Handler := ms.foldr (fun m next => m next) h

/-! ## Logging -/

/-- Reports who invoked the interaction and where, and goes on. -/
def logger : Middleware := fun next view i =>
  .event (.interactionSeen ((i.invoker?.map (·.id)).getD "-") (i.channelId.getD "-")) ::
    next view i

/-! ## Permissions -/

/-- The reply to users who lack the permission of administrators. -/
def permissionDenied : String := "You don't have permission to do that."

/-- Goes on if the invoking user has the permission of administrators in the channel, and sends a
reply if the user lacks it. -/
def requireAdmin : Middleware := fun next view i =>
  match i.invoker?, i.channelId with
  | some user, some channel =>
    match view.permissions user.id channel with
    | .ok p =>
      if p.contains .administrator then next view i
      else .event (.permissionDenied user.id channel) ::
        view.respond i (.ofMessage permissionDenied) fun e => [.event (.denialFailed e)]
    | .error e => [.event (.lookupFailed user.id e)]
  | _, _ => [.event (.invokerUnknown i.id)]

end Middleware

/-! ## Services and layers -/

/-- Why a service fails. -/
inductive ServiceError where
  /-- The interaction was skipped by a filter. -/
  | skipped
  /-- Anything else. -/
  | failed (reason : String)
  deriving DecidableEq

/-- The error in words. -/
def ServiceError.message : ServiceError → String
  | skipped => "interaction skipped by filter"
  | failed reason => reason

/-- Works on one interaction and may fail in the end. -/
abbrev Service : Type := SessionView → Interaction → List Effect × Option ServiceError

/-- Turns a service into another one. -/
abbrev Layer : Type := Service → Service

/-- A handler as a service, which always succeeds. -/
def Handler.service (h : Handler) : Service := fun view i => (h view i, none)

/-- A service as a handler, which reports every failure but a skipped interaction. -/
def Service.handler (s : Service) : Handler := fun view i =>
  match s view i with
  | (effects, some (.failed reason)) => effects ++ [.event (.layerFailed reason)]
  | (effects, _) => effects

/-- A layer as a middleware. -/
def Layer.middleware (l : Layer) : Middleware :=
  fun next => Service.handler (l (Handler.service next))

namespace Layer

/-- Goes on with what the check makes of the interaction, and fails as the check does. -/
def check (f : Interaction → Except ServiceError Interaction) : Layer := fun inner view i =>
  match f i with
  | .ok i => inner view i
  | .error e => ([], some e)

/-- Goes on with the interaction changed. -/
def mapRequest (f : Interaction → Interaction) : Layer := fun inner view i => inner view (f i)

end Layer

namespace Middleware

/-- Skips every interaction that does not have the property. -/
def filter (p : Interaction → Bool) : Middleware :=
  Layer.middleware (.check fun i => if p i then .ok i else .error .skipped)

end Middleware

end CommandRouter
