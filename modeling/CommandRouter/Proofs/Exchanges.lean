import CommandRouter.Bot.Serving
import Mathlib.Data.List.Induction

/-!
# What is done to an exchange

Each operation on an exchange changes little of it. Recording what was done changes the journal and
the responses, opening and closing change the connection and what is installed, and the tickets
change only when a bot goes live or stops. The lemmas here say for each operation when it succeeds
and what it leaves, so that nothing further on needs to look into the operations.
-/

namespace CommandRouter

namespace Session

variable {s s' : Session} {e : SessionError} {c : Callback}

/-! ## Sessions -/

/-- An entry reaches nothing of the session but its responses. -/
theorem receive_eq (s : Session) (entry : Entry) :
    s.receive entry = { s with responses := (s.receive entry).responses } := by
  unfold receive
  split
  · rename_i id r
    unfold respond
    split <;> rfl
  · rfl

/-- What is no response reaches nothing of the session. -/
theorem foldl_receive_of_silent {entries : List Entry}
    (h : ∀ entry ∈ entries, entry.response? = none) : entries.foldl receive s = s := by
  induction entries with
  | nil => rfl
  | cons entry entries ih =>
    obtain ⟨hentry, hentries⟩ := List.forall_mem_cons.mp h
    have hsame : s.receive entry = s := by
      cases entry with
      | respond id r => cases hentry
      | _ => rfl
    rw [List.foldl_cons, hsame, ih hentries]

theorem open_eq_ok_iff :
    s.open = .ok s' ↔
      s.faults.opening = none ∧ s.isOpen = false ∧ s' = { s with isOpen := true } := by
  unfold Session.open
  cases s.faults.opening with
  | some e => simp
  | none => cases hopen : s.isOpen <;> simp [eq_comm]

theorem close_eq_ok_iff :
    s.close = .ok s' ↔ s.faults.closing = none ∧ s.isOpen = true ∧
      s' = { s with isOpen := false, callbacks := [] } := by
  unfold close
  cases s.faults.closing with
  | some e => simp
  | none => cases hopen : s.isOpen <;> simp [eq_comm]

/-- Installing a callback does not decide whether the session can be opened. -/
theorem open_install (s : Session) (c : Callback) :
    (s.install c).open = s.open.map fun s => s.install c := by
  have hfaults : (s.install c).faults = s.faults := rfl
  have hisOpen : (s.install c).isOpen = s.isOpen := rfl
  unfold Session.open
  rw [hfaults, hisOpen]
  cases s.faults.opening with
  | some e => rfl
  | none => cases s.isOpen <;> rfl

theorem application?_of_isOpen (h : s.isOpen = true) :
    s.application? = if s.faults.application then none else some s.applicationId := by
  cases hid : s.faults.application <;> simp [application?, h, hid]

theorem publish_of_isOpen {application : String} {scope : Scope} {cs : List ApplicationCommand}
    (h : s.isOpen = true) (hreject : s.publishRejection = none) :
    s.publish application scope cs =
      .ok (cs.mapIdx fun index c => stored application scope c index,
        { s with
          publications :=
            (scope, cs.mapIdx fun index c => stored application scope c index) ::
              s.publications }) := by
  simp [publish, h, hreject]

theorem publish_of_rejection {application : String} {scope : Scope} {cs : List ApplicationCommand}
    (h : s.isOpen = true) (hreject : s.publishRejection = some e) :
    s.publish application scope cs = .error e := by
  simp [publish, h, hreject]

end Session

namespace Exchange

variable {x x' : Exchange} {e : SessionError}

/-! ## The journal -/

/-- What is recorded reaches nothing of the session but its responses. -/
theorem session_record (x : Exchange) (entries : List Entry) :
    (x.record entries).session =
      { x.session with responses := (x.record entries).session.responses } := by
  show entries.foldl Session.receive x.session = _
  induction entries using List.reverseRecOn with
  | nil => rfl
  | append_singleton entries entry ih =>
    rw [record, List.foldl_append, List.foldl_cons, List.foldl_nil, Session.receive_eq, ih]

@[simp] theorem isOpen_record (x : Exchange) (entries : List Entry) :
    (x.record entries).session.isOpen = x.session.isOpen := by rw [session_record]

theorem faults_record (x : Exchange) (entries : List Entry) :
    (x.record entries).session.faults = x.session.faults := by rw [session_record]

@[simp] theorem callbacks_record (x : Exchange) (entries : List Entry) :
    (x.record entries).session.callbacks = x.session.callbacks := by rw [session_record]

@[simp] theorem view_record (x : Exchange) (entries : List Entry) :
    (x.record entries).session.view = x.session.view := by
  rw [session_record]
  rfl

@[simp] theorem live_record (x : Exchange) (entries : List Entry) :
    (x.record entries).live = x.live := rfl

theorem record_append (x : Exchange) (entries entries' : List Entry) :
    x.record (entries ++ entries') = (x.record entries).record entries' := by
  simp [record, List.foldl_append]

theorem record_nil (x : Exchange) : x.record [] = x := by simp [record]

/-- If responses can be sent, all that are recorded arrive. -/
theorem responses_record {x : Exchange} (h : x.session.faults.responding = none)
    (entries : List Entry) :
    (x.record entries).session.responses =
      x.session.responses ++ entries.filterMap Entry.response? := by
  induction entries using List.reverseRecOn with
  | nil => simp [record]
  | append_singleton entries entry ih =>
    have hfault : (x.record entries).session.faults.responding = none := by
      rw [session_record]
      exact h
    have hlast : ((x.record entries).session.receive entry).responses =
        (x.record entries).session.responses ++ entry.response?.toList := by
      cases entry with
      | respond id r =>
        rw [Session.receive, Session.respond, hfault]
        rfl
      | _ => exact (List.append_nil _).symm
    rw [record_append]
    show ((x.record entries).session.receive entry).responses = _
    rw [hlast, ih, List.filterMap_append, List.append_assoc]
    cases entry <;> rfl

/-- Before and after what is recorded, more can be recorded that does not reach the session. -/
theorem session_record_around {before after : List Entry} (x : Exchange) (entries : List Entry)
    (hbefore : ∀ entry ∈ before, entry.response? = none)
    (hafter : ∀ entry ∈ after, entry.response? = none) :
    (x.record (before ++ entries ++ after)).session = (x.record entries).session := by
  rw [record, List.foldl_append, List.foldl_append, Session.foldl_receive_of_silent hbefore,
    Session.foldl_receive_of_silent hafter, record]

@[simp] theorem session_report (x : Exchange) (e : Event) : (x.report e).session = x.session := rfl

/-! ## The connection -/

theorem open_eq_ok_iff :
    x.open = .ok x' ↔ x.session.faults.opening = none ∧ x.session.isOpen = false ∧
      x' = { x with session := { x.session with isOpen := true } }.report
        (.sessionOpened x.session.applicationId) := by
  unfold Exchange.open
  cases hopen : x.session.open with
  | error e =>
    simp only [Except.map, reduceCtorEq, false_iff]
    rintro ⟨hfault, hclosed, -⟩
    cases hopen.symm.trans (Session.open_eq_ok_iff.mpr ⟨hfault, hclosed, rfl⟩)
  | ok s =>
    obtain ⟨hfault, hclosed, rfl⟩ := Session.open_eq_ok_iff.mp hopen
    simp [Except.map, hfault, hclosed, eq_comm]

theorem open_eq_error_iff : x.open = .error e ↔ x.session.open = .error e := by
  unfold Exchange.open
  cases x.session.open <;> simp [Except.map]

theorem close_eq_ok_iff :
    x.close = .ok x' ↔ x.session.faults.closing = none ∧ x.session.isOpen = true ∧
      x' = { x with session := { x.session with isOpen := false, callbacks := [] } }.report
        .sessionClosed := by
  unfold close
  cases hclose : x.session.close with
  | error e =>
    simp only [Except.map, reduceCtorEq, false_iff]
    rintro ⟨hfault, hopen, -⟩
    cases hclose.symm.trans (Session.close_eq_ok_iff.mpr ⟨hfault, hopen, rfl⟩)
  | ok s =>
    obtain ⟨hfault, hopen, rfl⟩ := Session.close_eq_ok_iff.mp hclose
    simp [Except.map, hfault, hopen, eq_comm]

theorem close_of_fault (hfault : x.session.faults.closing = some e) : x.close = .error e := by
  rw [close, Session.close, hfault]
  rfl

/-! ## Giving up -/

/-- A start that failed closes the session again if it can be closed. -/
theorem abandon_of_closable (hopen : x.session.isOpen = true)
    (hfault : x.session.faults.closing = none) :
    x.abandon =
      { x with session := { x.session with isOpen := false, callbacks := [] } }.report
        .sessionClosed := by
  rw [abandon, close_eq_ok_iff.mpr ⟨hfault, hopen, rfl⟩]

theorem abandon_of_fault (hfault : x.session.faults.closing = some e) :
    x.abandon = x.report (.cleanupFailed e) := by
  rw [abandon, close_of_fault hfault]

end Exchange

/-! ## Stopping -/

namespace LiveBot

variable {b : LiveBot} {x x' : Exchange} {e : SessionError}

/-- The ticket is withdrawn whether the session can be closed or not. -/
theorem close_of_error (h : (x.withdraw b.ticket).close = .error e) :
    b.close x = (.error (.closeFailed e), x.withdraw b.ticket) := by
  simp only [close, h]

theorem close_of_ok (h : (x.withdraw b.ticket).close = .ok x') :
    b.close x = (.ok (), x'.report .servingEnded) := by
  simp only [close, h]

end LiveBot

end CommandRouter
