import CommandRouter.Proofs.Decimals
import CommandRouter.Proofs.Exchanges

/-!
# Going live

A bot that goes live does so in one piece. Either its router is installed and live, the session is
open and its commands are published, or nothing is published at all. In the second case the session
is left as open as it was, unless it was opened on the way and cannot be closed again.
-/

namespace CommandRouter

namespace Bot

variable {b : Bot} {x x' : Exchange} {live : LiveBot} {e : BotError}

/-! ## The steps -/

/-- The exchange with the router of the bot installed under a new ticket. -/
def prepared (b : Bot) (x : Exchange) : Exchange := x.issue.2.install (.router x.issue.1 b.router)

/-- The exchange with the router of the bot installed and the session opened. -/
def opened (b : Bot) (x : Exchange) : Exchange :=
  { b.prepared x with session := { (b.prepared x).session with isOpen := true } }.report
    (.sessionOpened x.session.applicationId)

/-- The commands of the bot as the session stores them. -/
def stored (b : Bot) (x : Exchange) : List ApplicationCommand :=
  b.commands.mapIdx fun index c => Session.stored x.session.applicationId b.scope c index

/-- The exchange with the bot live. -/
def lively (b : Bot) (x : Exchange) : Exchange :=
  ({ b.opened x with
      session :=
        { (b.opened x).session with
          publications := (b.scope, b.stored x) :: x.session.publications } }.report
    (.commandsPublished (b.stored x).length b.scope)).enliven x.issue.1

/-- What a bot that is to go live meets with: the session cannot be opened, it is opened but does
not know its application or refuses to publish, or nothing stands in the way. -/
inductive Attempt (b : Bot) (x : Exchange) : Except BotError LiveBot × Exchange → Prop where
  | openFailed {e : SessionError} (hopen : x.session.open = .error e) :
      Attempt b x (.error (.openFailed e), b.prepared x)
  | applicationUnknown (hfault : x.session.faults.opening = none)
      (hclosed : x.session.isOpen = false) (hid : x.session.faults.application = true) :
      Attempt b x (.error .applicationUnknown, (b.opened x).abandon)
  | publishFailed (hfault : x.session.faults.opening = none)
      (hclosed : x.session.isOpen = false) (hid : x.session.faults.application = false)
      {e : SessionError} (hpublish : x.session.publishRejection = some e) :
      Attempt b x (.error (.publishFailed e), (b.opened x).abandon)
  | live (hfault : x.session.faults.opening = none) (hclosed : x.session.isOpen = false)
      (hid : x.session.faults.application = false)
      (hpublish : x.session.publishRejection = none) :
      Attempt b x (.ok ⟨x.issue.1, b.scope, b.router, b.stored x⟩, b.lively x)

/-- On a session that was opened, the commands are published unless the session does not know its
application or refuses to publish. -/
theorem attempt_publish (hfault : x.session.faults.opening = none)
    (hclosed : x.session.isOpen = false) : Attempt b x (b.publish x.issue.1 (b.opened x)) := by
  have hopen : (b.opened x).session.isOpen = true := rfl
  cases hid : x.session.faults.application with
  | true =>
    have happ : (b.opened x).session.application? = none :=
      (Session.application?_of_isOpen hopen).trans (if_pos hid)
    rw [publish, happ]
    exact .applicationUnknown hfault hclosed hid
  | false =>
    have happ : (b.opened x).session.application? = some x.session.applicationId :=
      (Session.application?_of_isOpen hopen).trans (if_neg (ne_true_of_eq_false hid))
    cases hreject : x.session.publishRejection with
    | some e =>
      have hpublish :
          (b.opened x).publish x.session.applicationId b.scope b.commands = .error e := by
        rw [Exchange.publish, Session.publish_of_rejection hopen hreject]
        rfl
      rw [publish, happ]
      simp only [hpublish]
      exact .publishFailed hfault hclosed hid hreject
    | none =>
      have hpublish : (b.opened x).publish x.session.applicationId b.scope b.commands =
          .ok (b.stored x, { b.opened x with
            session :=
              { (b.opened x).session with
                publications := (b.scope, b.stored x) :: x.session.publications } }) := by
        rw [Exchange.publish, Session.publish_of_isOpen hopen hreject]
        rfl
      rw [publish, happ]
      simp only [hpublish]
      exact .live hfault hclosed hid hreject

/-- An attempt to go live comes to one of four ends. -/
theorem attempt_serve (b : Bot) (x : Exchange) : Attempt b x (b.serve x) := by
  cases hopen : (b.prepared x).open with
  | error e =>
    have hserve : b.serve x = (.error (.openFailed e), b.prepared x) := by
      unfold prepared at hopen
      simp only [serve, hopen]
      rfl
    rw [hserve]
    -- The router that was installed first has no part in the failure.
    have hsession : (x.session.install (.router x.issue.1 b.router)).open = .error e :=
      Exchange.open_eq_error_iff.mp hopen
    rw [Session.open_install] at hsession
    cases hbefore : x.session.open with
    | error e' =>
      rw [hbefore] at hsession
      cases hsession
      exact .openFailed hbefore
    | ok s =>
      rw [hbefore] at hsession
      cases hsession
  | ok x' =>
    have hserve : b.serve x = b.publish x.issue.1 x' := by
      unfold prepared at hopen
      simp only [serve, hopen]
    obtain ⟨hfault, hclosed, rfl⟩ := Exchange.open_eq_ok_iff.mp hopen
    rw [hserve]
    exact attempt_publish hfault hclosed

/-! ## What is left -/

/-- The step at which an attempt to go live fails first: opening the session, asking it for its
application, or publishing. -/
inductive FirstFailure (b : Bot) (s : Session) : BotError → Prop where
  | openFailed {e : SessionError} (hopen : s.open = .error e) : FirstFailure b s (.openFailed e)
  | applicationUnknown {s' : Session} (hopen : s.open = .ok s') (hid : s'.application? = none) :
      FirstFailure b s .applicationUnknown
  | publishFailed {s' : Session} {application : String} {e : SessionError} (hopen : s.open = .ok s')
      (hid : s'.application? = some application)
      (hpublish : s'.publish application b.scope b.commands = .error e) :
      FirstFailure b s (.publishFailed e)

/-- The bot is live: its router is installed behind all other callbacks and has a live ticket of its
own, the session is open and has its commands, in order and numbered from one, and nothing else was
published. -/
structure WentLive (b : Bot) (x : Exchange) (live : LiveBot) (x' : Exchange) : Prop where
  router : live.router = b.router
  scope : live.scope = b.scope
  ticket : live.ticket = x.tickets
  installed : x'.session.callbacks = x.session.callbacks ++ [.router live.ticket live.router]
  isLive : x'.live = live.ticket :: x.live
  isOpen : x'.session.isOpen = true
  publishCount : x'.session.publishCount = x.session.publishCount + 1
  published : x'.session.published? b.scope = some live.commands
  length : live.commands.length = b.commands.length
  stored : ∀ (n : Nat) (c : ApplicationCommand), b.commands[n]? = some c →
    live.commands[n]? = some
      { c with
        id := some (toString (n + 1))
        applicationId := some x.session.applicationId
        guildId := b.scope.guild? }
  elsewhere : ∀ scope, scope ≠ b.scope →
    x'.session.published? scope = x.session.published? scope
  responses : x'.session.responses = x.session.responses
  permissions : x'.session.permissions = x.session.permissions

/-- The bot is not live: no ticket became live, nothing was published, sent or permitted, and the
session is open only if it was, or if it was opened on the way and cannot be closed. -/
structure StayedOut (b : Bot) (x : Exchange) (e : BotError) (x' : Exchange) : Prop where
  reason : FirstFailure b x.session e
  live : x'.live = x.live
  published : ∀ scope, x'.session.published? scope = x.session.published? scope
  publishCount : x'.session.publishCount = x.session.publishCount
  responses : x'.session.responses = x.session.responses
  permissions : x'.session.permissions = x.session.permissions
  isOpen : x'.session.isOpen = true ↔
    x.session.isOpen = true ∨ (∃ s, x.session.open = .ok s) ∧ x.session.faults.closing ≠ none

/-- Giving up on the opened session leaves it open only if it cannot be closed. -/
theorem stayedOut_abandon (hfault : x.session.faults.opening = none)
    (hclosed : x.session.isOpen = false) {e : BotError} (hreason : FirstFailure b x.session e) :
    StayedOut b x e (b.opened x).abandon := by
  have hopen : ∃ s, x.session.open = .ok s := ⟨_, Session.open_eq_ok_iff.mpr ⟨hfault, hclosed, rfl⟩⟩
  have hopened : (b.opened x).session.isOpen = true := rfl
  have hfaults : (b.opened x).session.faults = x.session.faults := rfl
  cases hclosing : x.session.faults.closing with
  | none =>
    rw [Exchange.abandon_of_closable hopened (hfaults ▸ hclosing)]
    exact ⟨hreason, rfl, fun _ => rfl, rfl, rfl, rfl, by simp [hclosed, hclosing]⟩
  | some e' =>
    rw [Exchange.abandon_of_fault (hfaults ▸ hclosing)]
    exact ⟨hreason, rfl, fun _ => rfl, rfl, rfl, rfl, by simp [hopen, hclosing, hopened]⟩

/-- A bot that does not go live leaves nothing behind. -/
theorem Attempt.stayedOut {result : Except BotError LiveBot × Exchange} {e : BotError}
    (h : Attempt b x result) (he : result.1 = .error e) : StayedOut b x e result.2 := by
  have hopen : ∀ {s : Session}, s.faults.opening = none → s.isOpen = false →
      s.open = .ok { s with isOpen := true } := fun hfault hclosed =>
    Session.open_eq_ok_iff.mpr ⟨hfault, hclosed, rfl⟩
  cases h with
  | openFailed hfailed =>
    cases he
    refine ⟨.openFailed hfailed, rfl, fun _ => rfl, rfl, rfl, rfl, ?_⟩
    simp [prepared, Exchange.install, Exchange.issue, Session.install, hfailed]
  | applicationUnknown hfault hclosed hid =>
    cases he
    refine stayedOut_abandon hfault hclosed (.applicationUnknown (hopen hfault hclosed) ?_)
    exact (Session.application?_of_isOpen rfl).trans (if_pos hid)
  | publishFailed hfault hclosed hid hreject =>
    cases he
    refine stayedOut_abandon hfault hclosed (.publishFailed (hopen hfault hclosed)
      ((Session.application?_of_isOpen rfl).trans (if_neg (ne_true_of_eq_false hid))) ?_)
    exact Session.publish_of_rejection rfl hreject
  | live => cases he

/-- A bot that goes live has its router installed and its commands published, and nothing else
is. -/
theorem wentLive_lively (b : Bot) (x : Exchange) :
    WentLive b x ⟨x.issue.1, b.scope, b.router, b.stored x⟩ (b.lively x) where
  router := rfl
  scope := rfl
  ticket := rfl
  installed := rfl
  isLive := rfl
  isOpen := rfl
  publishCount := rfl
  published := by simp [lively, Session.published?, Exchange.enliven]
  length := List.length_mapIdx
  stored n c hc := by
    show (b.stored x)[n]? = _
    rw [Bot.stored, List.getElem?_mapIdx, hc, ← Decimal.text_natCast]
    rfl
  elsewhere scope hne := by
    have hkey : (scope == b.scope) = false := by simpa using hne
    show ((b.scope, b.stored x) :: x.session.publications).lookup scope = _
    rw [List.lookup_cons, hkey]
    rfl
  responses := rfl
  permissions := rfl

/-- A bot goes live in one piece or not at all. It goes live exactly if the session is closed and
neither opening it, nor asking it for its application, nor publishing is made to fail. -/
theorem serve_all_or_nothing (b : Bot) (x : Exchange) :
    ((∃ live, (b.serve x).1 = .ok live) ↔
      x.session.isOpen = false ∧ x.session.faults.opening = none ∧
        x.session.faults.application = false ∧ x.session.publishRejection = none) ∧
    (∀ live, (b.serve x).1 = .ok live → WentLive b x live (b.serve x).2) ∧
    ∀ e, (b.serve x).1 = .error e → StayedOut b x e (b.serve x).2 := by
  have hattempt := attempt_serve b x
  generalize b.serve x = result at hattempt
  refine ⟨?_, ?_, fun e => hattempt.stayedOut⟩
  · cases hattempt with
    | openFailed hfailed =>
      refine ⟨by simp, ?_⟩
      rintro ⟨hclosed, hfault, -⟩
      cases hfailed.symm.trans (Session.open_eq_ok_iff.mpr ⟨hfault, hclosed, rfl⟩)
    | applicationUnknown hfault hclosed hid => simp [hid]
    | publishFailed hfault hclosed hid hreject => simp [hreject]
    | live hfault hclosed hid hreject => simp [hfault, hclosed, hid, hreject]
  · rintro live hlive
    cases hattempt with
    | live =>
      cases hlive
      exact wentLive_lively b x
    | _ => cases hlive

/-- A session that hides its application and cannot be closed is left open. -/
theorem serve_left_open :
    (serve {}
      { session :=
          { applicationId := "app"
            faults :=
              { application := true, closing := some (.other "stuck") } } }).2.session.isOpen =
      true := by
  have hserve := serve_all_or_nothing {}
    { session :=
        { applicationId := "app"
          faults := { application := true, closing := some (.other "stuck") } } }
  exact (hserve.2.2 .applicationUnknown rfl).isOpen.mpr (Or.inr ⟨⟨_, rfl⟩, by simp⟩)

end Bot

end CommandRouter
