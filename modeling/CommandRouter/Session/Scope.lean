/-!
# Scopes and session errors

A scope says where commands are visible: everywhere, or in one guild. A session error says why a
session did not do what it was asked to.
-/

namespace CommandRouter

/-- Where commands are visible. -/
inductive Scope where
  /-- Everywhere. -/
  | everywhere
  /-- In one guild. -/
  | guild (id : String)
  deriving DecidableEq

namespace Scope

/-- The scope of a guild; everywhere if there is none or its id is empty. -/
def ofGuild? : Option String → Scope
  | some id => if id.isEmpty then everywhere else guild id
  | none => everywhere

/-- The guild of the scope. -/
def guild? : Scope → Option String
  | everywhere => none
  | guild id => some id

/-- The scope in words. -/
def text : Scope → String
  | everywhere => "global"
  | guild id => s!"guild {id}"

end Scope

/-- Why a session did not do what it was asked to. -/
inductive SessionError where
  /-- The session is not open. -/
  | notConnected
  /-- The connection could not be made or kept. -/
  | connection (reason : String)
  /-- The platform refused the request. -/
  | rejected (status : Nat) (reason : String)
  /-- Something could not be encoded or decoded. -/
  | serialization (reason : String)
  /-- Anything else. -/
  | other (reason : String)
  deriving DecidableEq

/-- The error in words. -/
def SessionError.message : SessionError → String
  | notConnected => "session is not connected"
  | connection reason => s!"connection failed: {reason}"
  | rejected status reason => s!"request rejected ({status}): {reason}"
  | serialization reason => s!"serialization error: {reason}"
  | other reason => reason

end CommandRouter
