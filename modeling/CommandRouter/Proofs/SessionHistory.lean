import CommandRouter.Proofs.Delivery
import CommandRouter.Proofs.Steps
import Mathlib.Data.List.DropRight

/-!
# Sessions and their histories

What a session answers is settled by the history of the calls on it that succeeded. The session is
open if it was last opened, a scope shows what was last published for it, a delivery calls what was
installed since the session was last closed, and responses come out in the order in which they were
sent, each once. A call that fails changes nothing, and calls can be made to fail at any time.
-/

namespace CommandRouter

/-- What is asked of a session, and what is changed around it: which calls on it are made to fail,
and which routers are live. -/
inductive Session.Operation where
  | «open»
  | close
  | install (c : Callback)
  | deliver (i : Interaction)
  | publish (application : String) (scope : Scope) (commands : List ApplicationCommand)
  | respond (id : String) (r : Response)
  | takeResponses
  | setPermissions (user channel : String) (p : Permissions)
  | rejectPublish (e : SessionError)
  /-- From now on these calls are made to fail. -/
  | setFaults (faults : Session.Faults)
  /-- From now on the routers with these tickets are live. -/
  | setLive (tickets : List Nat)

/-- A call on a session that succeeded. -/
inductive Session.Deed where
  | opened
  | closed
  | installed (c : Callback)
  | delivered (i : Interaction)
  | published (application : String) (scope : Scope) (commands : List ApplicationCommand)
  | responded (id : String) (r : Response)
  | taken (responses : List (String × Response))
  | permitted (user channel : String) (p : Permissions)

namespace Session

/-! ## Histories -/

namespace Deed

/-- Whether the session was opened, if it was opened or closed. -/
def connection? : Deed → Option Bool
  | opened => some true
  | closed => some false
  | _ => none

/-- The callback that was installed. -/
def callback? : Deed → Option Callback
  | installed c => some c
  | _ => none

/-- The scope that was published for, with the commands as they are stored. -/
def publication? : Deed → Option (Scope × List ApplicationCommand)
  | published application scope commands =>
    some (scope, commands.mapIdx fun index c => stored application scope c index)
  | _ => none

/-- The response that was sent. -/
def response? : Deed → Option (String × Response)
  | responded id r => some (id, r)
  | _ => none

/-- The responses that were taken. -/
def takings : Deed → List (String × Response)
  | taken responses => responses
  | _ => []

/-- The user and the channel that permissions were set for, with the permissions. -/
def permission? : Deed → Option ((String × String) × Permissions)
  | permitted user channel p => some ((user, channel), p)
  | _ => none

/-- The part of a history after the session was last closed. -/
def sinceClosed (log : List Deed) : List Deed := log.rtakeWhile fun d => d.connection? != some false

/-- The callbacks that were installed since the session was last closed. -/
def installedIn (log : List Deed) : List Callback := (sinceClosed log).filterMap callback?

end Deed

/-- The last value that was given for a key. -/
def lastFor? {α β : Type} [BEq α] (key : α) (given : List (α × β)) : Option β :=
  ((given.filter fun g => key == g.1).getLast?).map Prod.snd

/-- The responses that get through of those that are among the entries. -/
def sent (s : Session) : List Entry → List Deed
  | [] => []
  | .respond id r :: entries =>
    match s.respond id r with
    | .ok s => .responded id r :: s.sent entries
    | .error _ => s.sent entries
  | _ :: entries => s.sent entries

end Session

namespace Exchange

open Session (Operation Deed)

/-- Does what is asked: the calls that succeed, and the exchange after them. The callbacks that a
delivery calls may send responses in their turn. -/
def perform (x : Exchange) : Operation → List Deed × Exchange
  | .open =>
    match x.open with
    | .ok x => ([.opened], x)
    | .error _ => ([], x)
  | .close =>
    match x.close with
    | .ok x => ([.closed], x)
    | .error _ => ([], x)
  | .install c => ([.installed c], x.install c)
  | .deliver i =>
    match x.deliver i with
    | .ok x' => (.delivered i :: x.session.sent (x'.journal.drop x.journal.length), x')
    | .error _ => ([], x)
  | .publish application scope commands =>
    match x.publish application scope commands with
    | .ok (_, x) => ([.published application scope commands], x)
    | .error _ => ([], x)
  | .respond id r =>
    match x.session.respond id r with
    | .ok session => ([.responded id r], { x with session })
    | .error _ => ([], x)
  | .takeResponses =>
    let (responses, session) := x.session.takeResponses
    ([.taken responses], { x with session })
  | .setPermissions user channel p =>
    ([.permitted user channel p], { x with session := x.session.setPermissions user channel p })
  | .rejectPublish e => ([], { x with session := { x.session with publishRejection := some e } })
  | .setFaults faults => ([], { x with session := { x.session with faults } })
  | .setLive live => ([], { x with live })

/-- Does what is asked, one thing after another: the history of it, and the exchange in the end. -/
def performAll (x : Exchange) : List Operation → List Deed × Exchange
  | [] => ([], x)
  | op :: ops =>
    let (deeds, x) := x.perform op
    let (log, x) := x.performAll ops
    (deeds ++ log, x)

end Exchange

namespace Session

open Exchange (call)

/-- What the history settles about the session. -/
structure Faithful (log : List Deed) (x : Exchange) : Prop where
  /-- The session was opened first, then closed, then opened again, and so on. -/
  alternating : ∃ n, log.filterMap Deed.connection? = (List.range n).map fun k => decide (k % 2 = 0)
  /-- The session is open if it was opened last. -/
  isOpen : x.session.isOpen = true ↔ (log.filterMap Deed.connection?).getLast? = some true
  /-- For a scope the commands are published that were last published for it. -/
  published : ∀ scope, x.session.published? scope = lastFor? scope (log.filterMap Deed.publication?)
  publishCount : x.session.publishCount = (log.filterMap Deed.publication?).length
  /-- The responses that were taken and those that were not yet are those that were sent. -/
  responses : log.flatMap Deed.takings ++ x.session.responses = log.filterMap Deed.response?
  /-- A delivery on an open session calls what was installed since the session was last closed. -/
  delivers : ∀ i, x.deliver i =
    if x.session.isOpen then
      .ok ((Deed.installedIn log).foldl (call i)
        (x.report (.delivering i.id (Deed.installedIn log).length)))
    else .error .notConnected
  /-- What is recorded of it is what each of these callbacks does, once and in this order. -/
  does : x.session.isOpen = true → ∀ i, x.deliver i =
    .ok (x.record (.event (.delivering i.id (Deed.installedIn log).length) none ::
      (Deed.installedIn log).flatMap (x.doings i)))
  /-- Unless looking up is made to fail, a user has the permissions that were last set. -/
  permissions : ∀ user channel, x.session.permissions user channel =
    match x.session.faults.permissions, lastFor? (user, channel) (log.filterMap Deed.permission?) with
    | some e, _ => .error e
    | none, some p => .ok p
    | none, none => .error (.rejected 404 s!"unknown member {user}")
  /-- Calls that are made to fail change nothing. -/
  openFault : ∀ e, x.session.faults.opening = some e → x.perform .open = ([], x)
  closeFault : ∀ e, x.session.faults.closing = some e → x.perform .close = ([], x)
  respondFault : ∀ e, x.session.faults.responding = some e →
    ∀ id r, x.perform (.respond id r) = ([], x)

/-! ## What the session remembers -/

/-- What the history says about the parts of the session that it is kept in. -/
structure Remembers (log : List Deed) (s : Session) : Prop where
  connection : ∃ n, (log.filterMap Deed.connection? =
    (List.range n).map fun k => decide (k % 2 = 0)) ∧ s.isOpen = decide (n % 2 = 1)
  callbacks : s.callbacks = Deed.installedIn log
  publications : s.publications = (log.filterMap Deed.publication?).reverse
  responses : log.flatMap Deed.takings ++ s.responses = log.filterMap Deed.response?
  permissionTable : s.permissionTable = (log.filterMap Deed.permission?).reverse

variable {log : List Deed} {s s' : Session} {d : Deed}

/-- Nothing but closing the session forgets what was installed. -/
theorem installedIn_append_singleton (hd : d.connection? ≠ some false) :
    Deed.installedIn (log ++ [d]) = Deed.installedIn log ++ d.callback?.toList := by
  rw [Deed.installedIn, Deed.sinceClosed, List.rtakeWhile_concat_pos _ _ _ (by simpa using hd),
    List.filterMap_append, Deed.installedIn, Deed.sinceClosed]
  cases hc : d.callback? <;> simp [hc]

theorem installedIn_closed (log : List Deed) : Deed.installedIn (log ++ [.closed]) = [] := by
  rw [Deed.installedIn, Deed.sinceClosed,
    List.rtakeWhile_concat_neg _ _ _ (by simp [Deed.connection?])]
  rfl

namespace Remembers

/-- One more deed: what it adds to each part of the session. -/
theorem append (h : Remembers log s)
    (hconnection : ∃ n, ((log ++ [d]).filterMap Deed.connection? =
      (List.range n).map fun k => decide (k % 2 = 0)) ∧ s'.isOpen = decide (n % 2 = 1))
    (hcallbacks : s'.callbacks = Deed.installedIn (log ++ [d]))
    (hpublications : s'.publications = d.publication?.toList ++ s.publications)
    (hresponses : d.takings ++ s'.responses = s.responses ++ d.response?.toList)
    (hpermissions : s'.permissionTable = d.permission?.toList ++ s.permissionTable) :
    Remembers (log ++ [d]) s' := by
  refine ⟨hconnection, hcallbacks, ?_, ?_, ?_⟩
  · rw [hpublications, h.publications, List.filterMap_append, List.reverse_append]
    cases hp : d.publication? <;> simp [hp]
  · rw [List.flatMap_append, List.flatMap_singleton, List.append_assoc, hresponses,
      ← List.append_assoc, h.responses, List.filterMap_append]
    cases hr : d.response? <;> simp [hr]
  · rw [hpermissions, h.permissionTable, List.filterMap_append, List.reverse_append]
    cases hp : d.permission? <;> simp [hp]

/-- One more deed that neither opens nor closes the session. -/
theorem append_within (h : Remembers log s) (hd : d.connection? = none)
    (hopen : s'.isOpen = s.isOpen) (hcallbacks : s'.callbacks = s.callbacks ++ d.callback?.toList)
    (hpublications : s'.publications = d.publication?.toList ++ s.publications)
    (hresponses : d.takings ++ s'.responses = s.responses ++ d.response?.toList)
    (hpermissions : s'.permissionTable = d.permission?.toList ++ s.permissionTable) :
    Remembers (log ++ [d]) s' := by
  obtain ⟨n, hlog, hparity⟩ := h.connection
  refine h.append ⟨n, ?_, hopen.trans hparity⟩ ?_ hpublications hresponses hpermissions
  · simp [hlog, hd]
  · rw [hcallbacks, h.callbacks, installedIn_append_singleton (by simp [hd])]

/-- The session is opened when it was last closed, if at all. -/
theorem opened (h : Remembers log s) (hclosed : s.isOpen = false) :
    Remembers (log ++ [.opened]) { s with isOpen := true } := by
  obtain ⟨n, hlog, hparity⟩ := h.connection
  have hn : n % 2 = 0 := by
    rw [hclosed, eq_comm, decide_eq_false_iff_not] at hparity
    omega
  refine h.append ⟨n + 1, ?_, ?_⟩ ?_ rfl (List.append_nil _).symm rfl
  · simp [hlog, Deed.connection?, List.range_succ, hn]
  · exact (decide_eq_true (by omega)).symm
  · rw [installedIn_append_singleton (by simp [Deed.connection?])]
    exact h.callbacks.trans (List.append_nil _).symm

/-- The session is closed when it was last opened. -/
theorem closed (h : Remembers log s) (hopen : s.isOpen = true) :
    Remembers (log ++ [.closed]) { s with isOpen := false, callbacks := [] } := by
  obtain ⟨n, hlog, hparity⟩ := h.connection
  have hn : n % 2 = 1 := by
    rw [hopen, eq_comm, decide_eq_true_iff] at hparity
    exact hparity
  refine h.append ⟨n + 1, ?_, ?_⟩ (installedIn_closed log).symm rfl (List.append_nil _).symm rfl
  · simp [hlog, Deed.connection?, List.range_succ, hn]
  · exact (decide_eq_false (by omega)).symm

theorem installed (h : Remembers log s) (c : Callback) :
    Remembers (log ++ [.installed c]) (s.install c) :=
  h.append_within rfl rfl rfl rfl (List.append_nil _).symm rfl

theorem delivered (h : Remembers log s) (i : Interaction) : Remembers (log ++ [.delivered i]) s :=
  h.append_within rfl rfl (List.append_nil _).symm rfl (List.append_nil _).symm rfl

theorem published (h : Remembers log s) {application : String} {scope : Scope}
    {commands stored : List ApplicationCommand}
    (hpublish : s.publish application scope commands = .ok (stored, s')) :
    Remembers (log ++ [.published application scope commands]) s' := by
  cases hopen : s.isOpen with
  | false => simp [publish, hopen] at hpublish
  | true =>
    cases hreject : s.publishRejection with
    | some e => simp [publish_of_rejection hopen hreject] at hpublish
    | none =>
      rw [publish_of_isOpen hopen hreject] at hpublish
      cases hpublish
      exact h.append_within rfl rfl (List.append_nil _).symm rfl (List.append_nil _).symm rfl

theorem responded (h : Remembers log s) {id : String} {r : Response}
    (hrespond : s.respond id r = .ok s') : Remembers (log ++ [.responded id r]) s' := by
  unfold respond at hrespond
  split at hrespond
  · cases hrespond
  · cases hrespond
    exact h.append_within rfl rfl (List.append_nil _).symm rfl rfl rfl

theorem taken (h : Remembers log s) :
    Remembers (log ++ [.taken s.takeResponses.1]) s.takeResponses.2 :=
  h.append_within rfl rfl (List.append_nil _).symm rfl rfl rfl

theorem permitted (h : Remembers log s) (user channel : String) (p : Permissions) :
    Remembers (log ++ [.permitted user channel p]) (s.setPermissions user channel p) :=
  h.append_within rfl rfl (List.append_nil _).symm rfl (List.append_nil _).symm rfl

/-- The entries that are recorded may hold responses. -/
theorem sent (h : Remembers log s) (entries : List Entry) :
    Remembers (log ++ s.sent entries) (entries.foldl receive s) := by
  induction entries generalizing log s with
  | nil => simpa [Session.sent] using h
  | cons entry entries ih =>
    cases entry with
    | respond id r =>
      rw [List.foldl_cons, receive, Session.sent]
      cases hrespond : s.respond id r with
      | error e => exact ih h
      | ok s' =>
        have hnext := ih (h.responded hrespond)
        rwa [List.append_assoc] at hnext
    | _ => exact ih h

end Remembers

/-! ## What is done to the session -/

variable {x : Exchange}

/-- What is asked of a session is remembered if it is done. -/
theorem Remembers.perform (h : Remembers log x.session) (op : Operation) :
    Remembers (log ++ (x.perform op).1) (x.perform op).2.session := by
  cases op with
  | «open» =>
    rw [Exchange.perform]
    split
    · rename_i x' hopen
      obtain ⟨-, hclosed, rfl⟩ := Exchange.open_eq_ok_iff.mp hopen
      exact h.opened hclosed
    · rwa [List.append_nil]
  | close =>
    rw [Exchange.perform]
    split
    · rename_i x' hclose
      obtain ⟨-, hopen, rfl⟩ := Exchange.close_eq_ok_iff.mp hclose
      exact h.closed hopen
    · rwa [List.append_nil]
  | install c => exact h.installed c
  | deliver i =>
    rw [Exchange.perform]
    cases hopen : x.session.isOpen with
    | false => simpa [Exchange.deliver, hopen] using h
    | true =>
      rw [Exchange.deliver_of_isOpen hopen]
      simp only [Exchange.record, List.drop_left]
      rw [← List.singleton_append, ← List.append_assoc]
      exact (h.delivered i).sent _
  | publish application scope commands =>
    rw [Exchange.perform]
    split
    · rename_i stored x' hpublish
      obtain ⟨⟨stored', s'⟩, hs, heq⟩ := map_eq_ok_iff.mp hpublish
      cases heq
      exact h.published hs
    · rwa [List.append_nil]
  | respond id r =>
    rw [Exchange.perform]
    split
    · rename_i s' hrespond
      exact h.responded hrespond
    · rwa [List.append_nil]
  | takeResponses => exact h.taken
  | setPermissions user channel p => exact h.permitted user channel p
  | rejectPublish | setFaults | setLive =>
    rw [Exchange.perform, List.append_nil]
    exact ⟨h.connection, h.callbacks, h.publications, h.responses, h.permissionTable⟩

theorem Remembers.performAll (h : Remembers log x.session) (ops : List Operation) :
    Remembers (log ++ (x.performAll ops).1) (x.performAll ops).2.session := by
  induction ops generalizing log x with
  | nil => simpa [Exchange.performAll] using h
  | cons op ops ih =>
    have hall := ih (h.perform op)
    rwa [List.append_assoc] at hall

/-! ## Faithfulness -/

/-- In a table that is kept with the last entry first, the first entry of a key is the last. -/
theorem lookup_reverse {α β : Type} [BEq α] (key : α) (given : List (α × β)) :
    given.reverse.lookup key = lastFor? key given := by
  induction given using List.reverseRecOn with
  | nil => rfl
  | append_singleton given g ih =>
    rw [List.reverse_append, List.reverse_singleton, List.singleton_append, List.lookup_cons,
      lastFor?, List.filter_append]
    cases hg : key == g.1 with
    | true => simp [hg]
    | false => simp [hg, ih, lastFor?]

/-- What a session remembers is what its history settles. -/
theorem Remembers.faithful (h : Remembers log x.session) : Faithful log x := by
  obtain ⟨n, hlog, hopen⟩ := h.connection
  refine
    { alternating := ⟨n, hlog⟩
      isOpen := ?_
      published := fun scope => ?_
      publishCount := ?_
      responses := h.responses
      delivers := fun i => by rw [Exchange.deliver, h.callbacks]
      does := fun hopen i => by rw [Exchange.deliver_of_isOpen hopen, h.callbacks]
      permissions := fun user channel => ?_
      openFault := fun e he => by simp [Exchange.perform, Exchange.open, Session.open, he, Except.map]
      closeFault := fun e he => by simp [Exchange.perform, Exchange.close_of_fault he]
      respondFault := fun e he id r => by simp [Exchange.perform, respond, he] }
  · rw [hlog, hopen, decide_eq_true_iff]
    cases n with
    | zero => simp
    | succ n => simp [List.range_succ]; omega
  · rw [published?, h.publications, lookup_reverse]
  · rw [publishCount, h.publications, List.length_reverse]
  · rw [Session.permissions, h.permissionTable, lookup_reverse]
    cases x.session.faults.permissions with
    | some e => rfl
    | none => cases lastFor? (user, channel) (log.filterMap Deed.permission?) <;> rfl

/-- Whatever is asked of a new session, whatever callbacks are installed on it and whichever of them
are live, and whichever calls on it are made to fail, its answers are those that the history of the
calls that succeeded settles. -/
theorem faithful_performAll (application : String) (ops : List Operation) :
    let (log, x) := Exchange.performAll { session := { applicationId := application } } ops
    Faithful log x := by
  have hnew : Remembers [] { applicationId := application } :=
    ⟨⟨0, rfl, rfl⟩, rfl, rfl, rfl, rfl⟩
  have hall : Remembers _ _ :=
    Remembers.performAll (x := { session := { applicationId := application } }) hnew ops
  exact hall.faithful

end Session

end CommandRouter
