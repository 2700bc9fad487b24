import CommandRouter.Calculator.Replay
import CommandRouter.Proofs.Declarations
import CommandRouter.Proofs.Delivery
import CommandRouter.Proofs.GoingLive
import CommandRouter.Proofs.InputLines
import CommandRouter.Proofs.Steps

/-!
# Replaying line by line

The calculator keeps nothing from one line to the next: its session stays open, its router stays
live, and no response is left over. So each line is replied to as if it were the only one, and no
line that can be read, whatever is on it, ends the replay. A line that cannot be read does: the
lines before it have been replied to, and those behind it are not looked at.
-/

namespace CommandRouter

namespace Calculator

variable {r : Router} {view : SessionView} {x : Exchange} {line : String} {i : Interaction}

/-! ## One line -/

/-- The interaction on a line that is not blank and can be read. -/
def interaction? (line : String) : Option Interaction :=
  if Text.isBlankText line.toList then none else (Interaction.decode.ofText line).toOption

/-- The responses that a router sends to the interaction on a line. -/
def answers (r : Router) (view : SessionView) (line : String) : List (String × Response) :=
  ((interaction? line).map fun i => (r.dispatch view i).2.filterMap Entry.response?).getD []

/-- Between two lines the session is open and no call on it fails, the router alone receives
interactions, the session answers as it did in the beginning, and no response is left over. -/
structure Ready (r : Router) (view : SessionView) (x : Exchange) : Prop where
  isOpen : x.session.isOpen = true
  faults : x.session.faults = {}
  callbacks : ∃ ticket ∈ x.live, x.session.callbacks = [.router ticket r]
  view : x.session.view = view
  responses : x.session.responses = []

theorem answers_of_interaction? (h : interaction? line = some i) :
    answers r view line = (r.dispatch view i).2.filterMap Entry.response? := by
  rw [answers, h]
  rfl

theorem interaction?_eq_some_iff : interaction? line = some i ↔
    Text.isBlankText line.toList = false ∧ Interaction.decode.ofText line = .ok i := by
  unfold interaction?
  cases Text.isBlankText line.toList with
  | true => simp
  | false => cases Interaction.decode.ofText line <;> simp [Except.toOption]

/-- Delivering an interaction to the router alone sends what the router sends. -/
theorem Ready.deliver (h : Ready r view x) (i : Interaction) :
    ∃ x', x.deliver i = .ok x' ∧
      x'.session.takeResponses.1 = (r.dispatch view i).2.filterMap Entry.response? ∧
      Ready r view { x' with session := x'.session.takeResponses.2 } := by
  obtain ⟨ticket, hlive, hcallbacks⟩ := h.callbacks
  have hdoings : x.session.callbacks.flatMap (x.doings i) = (r.dispatch view i).2 := by
    rw [hcallbacks, List.flatMap_singleton, Exchange.doings, if_pos hlive, h.view]
  refine ⟨_, x.deliver_of_isOpen h.isOpen i, ?_, ?_⟩
  · have hresponding : x.session.faults.responding = none := by rw [h.faults]
    rw [Session.takeResponses, Exchange.responses_record hresponding, h.responses, hdoings]
    rfl
  · refine ⟨?_, ?_, ⟨ticket, hlive, ?_⟩, ?_, rfl⟩
    · exact (Exchange.isOpen_record x _).trans h.isOpen
    · exact (Exchange.faults_record x _).trans h.faults
    · exact (Exchange.callbacks_record x _).trans hcallbacks
    · exact (Exchange.view_record x _).trans h.view

/-- An event changes nothing that the replay of a line depends on. -/
theorem Ready.report (h : Ready r view x) (e : Event) : Ready r view (x.report e) :=
  ⟨h.isOpen, h.faults, h.callbacks, h.view, h.responses⟩

/-- A line is answered by the router, and leaves nothing behind. -/
theorem Ready.replayLine (h : Ready r view x) (line : String) :
    ∃ x', replayLine line x = .ok (answers r view line, x') ∧ Ready r view x' := by
  cases hline : interaction? line with
  | none =>
    -- Such a line is passed over before the session hears of it.
    rw [answers, hline, Calculator.replayLine]
    unfold interaction? at hline
    split
    · exact ⟨x, rfl, h⟩
    · rename_i hblank
      rw [if_neg hblank] at hline
      cases hread : Interaction.decode.ofText line with
      | error e => exact ⟨_, rfl, h.report .lineSkipped⟩
      | ok i => simp [hread, Except.toOption] at hline
  | some i =>
    obtain ⟨hblank, hread⟩ := interaction?_eq_some_iff.mp hline
    obtain ⟨x', hdeliver, htaken, hready⟩ := h.deliver i
    refine ⟨_, ?_, hready⟩
    rw [answers_of_interaction? hline, ← htaken, Calculator.replayLine, hblank,
      if_neg Bool.false_ne_true, hread]
    simp only [hdeliver]
    rfl

/-! ## All lines -/

/-- The replies to lines, all of which can be read. -/
def replies (x : Exchange) (lines : List String) : List (String × Response) :=
  (replay (lines.map .ok) x).1

/-- The replies are the answers to each line up to one that cannot be read, and at the end nothing
is left behind. -/
theorem Ready.replay (h : Ready r view x) (lines : List (Except String String)) :
    (replay lines x).1 = (readable lines).flatMap (answers r view) ∧
      Ready r view (replay lines x).2 := by
  induction lines generalizing x with
  | nil => exact ⟨rfl, h⟩
  | cons line lines ih =>
    cases line with
    | error reason => exact ⟨rfl, h.report (.inputUnreadable reason)⟩
    | ok line =>
      obtain ⟨x', hline, hready⟩ := h.replayLine line
      obtain ⟨hreplies, hend⟩ := ih hready
      simp only [Calculator.replay, hline, readable, List.flatMap_cons]
      exact ⟨congrArg _ hreplies, hend⟩

/-- The session on which the calculator goes live. -/
def fresh (a : Arguments) : Exchange := { session := { applicationId := a.applicationId } }

/-- The exchange with the bot live, in which the replay begins. -/
def begun (a : Arguments) (b : Bot) : Exchange :=
  (b.lively (fresh a)).report (.running (b.stored (fresh a)).length b.scope)

/-- Between two lines the live bot can be stopped. -/
theorem Ready.close (h : Ready r view x) (live : LiveBot) :
    ∃ x', live.close x = (.ok (), x') := by
  have hclosing : (x.withdraw live.ticket).session.faults.closing = none := by
    show x.session.faults.closing = none
    rw [h.faults]
  have hclose := Exchange.close_eq_ok_iff.mpr ⟨hclosing, h.isOpen, rfl⟩
  exact ⟨_, LiveBot.close_of_ok hclose⟩

/-- What is printed for lines: the commands, if they are asked for, and what each line yields when
it is replayed alone, one after another. -/
def printed (a : Arguments) (b : Bot) (lines : List String) : String :=
  (if a.printsCommands then commandLines (b.stored (fresh a)) else "") ++
    String.join (lines.flatMap fun line => (replies (begun a b) [line]).map replyLine)

end Calculator

end CommandRouter
