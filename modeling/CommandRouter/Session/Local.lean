import CommandRouter.Command.Definition
import CommandRouter.Router.Table

/-!
# Sessions

A session is a bot's connection to the chat platform. This one has no network behind it: it keeps
what is published and sent, and hands on the interactions that are put into it. Publishing and
delivering need it to be open; responses and permission look-ups do not. Calls on it can be made to
fail before they do anything.
-/

namespace CommandRouter

/-- Something that a session calls with every interaction. -/
inductive Callback where
  /-- Routes interactions while the router with this ticket is live. -/
  | router (ticket : Nat) (r : Router)
  /-- Notes interactions. -/
  | observer (tag : String)

/-- The calls on a session that are made to fail. -/
structure Session.Faults where
  /-- Why the session cannot be opened. -/
  opening : Option SessionError := none
  /-- Why the session cannot be closed. -/
  closing : Option SessionError := none
  /-- Whether the session hides the id of its application. -/
  application : Bool := false
  /-- Why responses cannot be sent. -/
  responding : Option SessionError := none
  /-- Why permissions cannot be looked up. -/
  permissions : Option SessionError := none

/-- A connection to the chat platform. -/
structure Session where
  /-- The id of the application. -/
  applicationId : String
  /-- Whether the session is open. -/
  isOpen : Bool := false
  /-- What is called with every interaction, in the order of installation. -/
  callbacks : List Callback := []
  /-- The commands that were published for each scope, the last first. -/
  publications : List (Scope × List ApplicationCommand) := []
  /-- Why publishing is refused, if it is. -/
  publishRejection : Option SessionError := none
  /-- The responses that were sent and not taken yet, each with the id of its interaction. -/
  responses : List (String × Response) := []
  /-- The permissions of users in channels, the last set first. -/
  permissionTable : List ((String × String) × Permissions) := []
  /-- The calls that are made to fail. -/
  faults : Session.Faults := {}

namespace Session

/-! ## The connection -/

/-- Opens the session. -/
def «open» (s : Session) : Except SessionError Session :=
  match s.faults.opening with
  | some e => .error e
  | none =>
    if s.isOpen then .error (.connection "session already open") else .ok { s with isOpen := true }

/-- Closes the session, which forgets all callbacks. -/
def close (s : Session) : Except SessionError Session :=
  match s.faults.closing with
  | some e => .error e
  | none =>
    if s.isOpen then .ok { s with isOpen := false, callbacks := [] } else .error .notConnected

/-- The id of the application, which is known while the session is open. -/
def application? (s : Session) : Option String :=
  if s.isOpen && !s.faults.application then some s.applicationId else none

/-- Installs a callback. -/
def install (s : Session) (c : Callback) : Session := { s with callbacks := s.callbacks ++ [c] }

/-! ## Publishing -/

/-- A command as the platform stores it: numbered from one in its list, and with the application
and the guild that it belongs to. -/
def stored (application : String) (scope : Scope) (command : ApplicationCommand) (index : Nat) :
    ApplicationCommand :=
  { command with
    id := some (Decimal.text (index + 1 : Nat))
    applicationId := some application
    guildId := scope.guild? }

/-- Replaces the commands of a scope; the result has the commands as they are stored. -/
def publish (s : Session) (application : String) (scope : Scope)
    (commands : List ApplicationCommand) :
    Except SessionError (List ApplicationCommand × Session) :=
  if !s.isOpen then .error .notConnected
  else match s.publishRejection with
    | some e => .error e
    | none =>
      let commands := commands.mapIdx fun index c => stored application scope c index
      .ok (commands, { s with publications := (scope, commands) :: s.publications })

/-- The commands last published for a scope. -/
def published? (s : Session) (scope : Scope) : Option (List ApplicationCommand) :=
  s.publications.lookup scope

/-- How often commands were published. -/
def publishCount (s : Session) : Nat := s.publications.length

/-! ## Responses and permissions -/

/-- Sends a response to the interaction of the given id. -/
def respond (s : Session) (id : String) (r : Response) : Except SessionError Session :=
  match s.faults.responding with
  | some e => .error e
  | none => .ok { s with responses := s.responses ++ [(id, r)] }

/-- The session after an entry: if a response was sent, it is kept unless sending fails. -/
def receive (s : Session) : Entry → Session
  | .respond id r => (s.respond id r).toOption.getD s
  | _ => s

/-- Takes the responses that were sent. -/
def takeResponses (s : Session) : List (String × Response) × Session :=
  (s.responses, { s with responses := [] })

/-- The permissions of a user in a channel. -/
def permissions (s : Session) (user channel : String) : Except SessionError Permissions :=
  match s.faults.permissions with
  | some e => .error e
  | none =>
    match s.permissionTable.lookup (user, channel) with
    | some p => .ok p
    | none => .error (.rejected 404 s!"unknown member {user}")

/-- Sets the permissions of a user in a channel. -/
def setPermissions (s : Session) (user channel : String) (p : Permissions) : Session :=
  { s with permissionTable := ((user, channel), p) :: s.permissionTable }

/-- What the session answers to handlers. -/
def view (s : Session) : SessionView := ⟨s.faults.responding, s.permissions⟩

end Session

end CommandRouter
