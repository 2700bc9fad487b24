import CommandRouter.Proofs.Declarations
import CommandRouter.Proofs.Liveness

/-!
# Three ways into a router

An interaction can be routed to a bot before it goes live, to the live bot, or by a delivery to the
session, which calls the router through the callback that was installed. From the same session all
three do the same: a delivery only adds what the other callbacks note.
-/

namespace CommandRouter

/-- A live bot has the router of the bot that went live. -/
theorem Bot.router_of_serve {b : Bot} {x x' : Exchange} {live : LiveBot}
    (h : b.serve x = (.ok live, x')) : live.router = b.router := by
  have hattempt := b.attempt_serve x
  rw [h] at hattempt
  cases hattempt
  rfl

theorem Callback.response?_of_mem_remarks {cs : List Callback} {i : Interaction} :
    ∀ entry ∈ cs.flatMap (remarks i), entry.response? = none := by
  intro entry hentry
  obtain ⟨c, -, hentry⟩ := List.mem_flatMap.mp hentry
  obtain ⟨tag, rfl⟩ := eq_of_mem_remarks hentry
  rfl

/-- What decides about deliveries is the same: which tickets are live, whether the session is open
and what is installed. Responses, permissions, faults and what was published may differ. -/
structure Exchange.SameRouting (x y : Exchange) : Prop where
  live : y.live = x.live
  isOpen : y.session.isOpen = x.session.isOpen
  callbacks : y.session.callbacks = x.session.callbacks

theorem Exchange.SameRouting.liveRouters {x y : Exchange} (h : x.SameRouting y) :
    y.liveRouters = x.liveRouters := by
  have hlive : y.liveRouter? = x.liveRouter? := by
    funext c
    rw [liveRouter?, h.live, liveRouter?]
  rw [Exchange.liveRouters, hlive, h.callbacks, Exchange.liveRouters]

/-- If one installed router is live, a delivery leaves what routing the interaction to it leaves,
but for the journal: there the delivery is reported first, and around the entries of the router
stand those of the callbacks that were installed before and after it. -/
theorem Exchange.deliver_eq_dispatch {x : Exchange} {ticket : Nat} {r : Router}
    (hopen : x.session.isOpen = true) (hlive : x.liveRouters = [(ticket, r)]) (i : Interaction) :
    ∃ front back entries, x.session.callbacks = front ++ .router ticket r :: back ∧
      (x.dispatch r i).2.journal = x.journal ++ entries ∧
      x.deliver i = .ok
        { (x.dispatch r i).2 with
          journal := x.journal ++ .event (.delivering i.id x.session.callbacks.length) none ::
            (front.flatMap (Callback.remarks i) ++ entries ++
              back.flatMap (Callback.remarks i)) } := by
  obtain ⟨front, back, hsplit, hdeliver⟩ := deliver_around hopen hlive i
  let entries := (r.dispatch x.session.view i).2
  let begun : Entry := .event (.delivering i.id x.session.callbacks.length) none
  let all := begun :: front.flatMap (Callback.remarks i) ++ entries ++
    back.flatMap (Callback.remarks i)
  -- Only the entries of the router can reach the session.
  have hsession : (x.record all).session = (x.record entries).session :=
    session_record_around x entries
      (List.forall_mem_cons.mpr ⟨rfl, Callback.response?_of_mem_remarks⟩)
      Callback.response?_of_mem_remarks
  refine ⟨front, back, entries, hsplit, rfl, hdeliver.trans (congrArg Except.ok ?_)⟩
  show { x with session := (x.record all).session, journal := x.journal ++ all } =
    { x with session := (x.record entries).session, journal := x.journal ++ all }
  rw [hsession]

theorem Exchange.mem_liveRouters_iff {x : Exchange} {ticket : Nat} {r : Router} :
    (ticket, r) ∈ x.liveRouters ↔
      ticket ∈ x.live ∧ .router ticket r ∈ x.session.callbacks := by
  rw [Exchange.liveRouters, List.mem_filterMap]
  constructor
  · rintro ⟨c, hc, hrouter⟩
    cases c with
    | router ticket' r' =>
      obtain ⟨heq, hlive⟩ := Option.filter_eq_some_iff.mp hrouter
      cases heq
      exact ⟨of_decide_eq_true hlive, hc⟩
    | observer tag => cases hrouter
  · rintro ⟨hlive, hinstalled⟩
    exact ⟨_, hinstalled, by simp [liveRouter?, Callback.router?, hlive]⟩

namespace Scenario.Host

/-- The router of a bot as it goes live and that of the live bot route an interaction alike, with
the same answer. Wherever a scenario is interrupted while the bot is live and its router installed,
a delivery succeeds and leaves the same as they do, whatever responses, permissions and faults the
session has. Only the journal has more: around what the router does stand the report of the delivery
and the notes of the other callbacks. -/
theorem entrances_agree {b : Bot} {live : LiveBot} {x x' : Exchange}
    (hserve : b.serve x = (.ok live, x')) :
    (∀ (y : Exchange) i, y.dispatch live.router i = y.dispatch b.router i) ∧
    ∀ {application : String} {permissions : List ((String × String) × Permissions)}
      {script : List Step} {log : List Happening} {h : Host} {y : Exchange},
      (initial application permissions).Visits script log h → live.ticket ∈ h.exchange.live →
      .router live.ticket live.router ∈ h.exchange.session.callbacks →
      h.exchange.SameRouting y → ∀ i,
      ∃ front back entries, y.session.callbacks = front ++ .router live.ticket b.router :: back ∧
        (y.dispatch b.router i).2.journal = y.journal ++ entries ∧
        y.deliver i = .ok
          { (y.dispatch b.router i).2 with
            journal := y.journal ++ .event (.delivering i.id y.session.callbacks.length) none ::
              (front.flatMap (Callback.remarks i) ++ entries ++
                back.flatMap (Callback.remarks i)) } := by
  rw [Bot.router_of_serve hserve]
  refine ⟨fun _ _ => rfl, ?_⟩
  intro application permissions script log h y hvisits hlive hinstalled hsame i
  have htracked : Tracked log h.exchange := .of_visits hvisits
  have hstanding : Standing log live.ticket b.router := by
    rw [← mem_standing_iff, ← htracked.standing]
    exact Exchange.mem_liveRouters_iff.mpr ⟨hlive, hinstalled⟩
  obtain ⟨hopen, hrouters⟩ := htracked.liveRouters_of_standing hstanding
  rw [← hsame.isOpen] at hopen
  rw [← hsame.liveRouters] at hrouters
  exact Exchange.deliver_eq_dispatch hopen hrouters i

/-- A bot beside an observer, on a session that has come to refuse responses. -/
theorem entrances_agree_beside_observer :
    let ping : Handler := .reply (fun _ => .ofMessage "pong") Handler.noteFailure
    let script : List Step :=
      [.begin "a" .everywhere, .handle "a" "/ping" ping, .observe "o", .serve "a"]
    let h := ((initial "app" []).steps script).2
    let x := h.exchange
    let y := { x with session := { x.session with faults := { responding := some .notConnected } } }
    let b := Bot.ofScript .everywhere [.handle "/ping" ping]
    let i := Interaction.ofCommand "1" (.ofOptions "ping" [])
    (y.dispatch b.router i).1 = true ∧
      ∃ front back entries, y.session.callbacks = front ++ .router 0 b.router :: back ∧
        (y.dispatch b.router i).2.journal = y.journal ++ entries ∧
        y.deliver i = .ok
          { (y.dispatch b.router i).2 with
            journal := y.journal ++ .event (.delivering i.id y.session.callbacks.length) none ::
              (front.flatMap (Callback.remarks i) ++ entries ++
                back.flatMap (Callback.remarks i)) } := by
  intro ping script h x y b i
  have hvisits : (initial "app" []).Visits script [.served 0 b.router] h :=
    (initial "app" []).visits_steps script
  have hserve : b.serve (initial "app" []).exchange =
      (.ok ⟨0, .everywhere, b.router, b.stored (initial "app" []).exchange⟩, _) := rfl
  -- From here on the host is known by what happened on it.
  clear_value h
  have hrouters : x.liveRouters = [(0, b.router)] := (Tracked.of_visits hvisits).standing
  have hrouter : (0, b.router) ∈ x.liveRouters := hrouters ▸ List.mem_singleton_self _
  obtain ⟨hlive, hinstalled⟩ := Exchange.mem_liveRouters_iff.mp hrouter
  have hsame : x.SameRouting y := ⟨rfl, rfl, rfl⟩
  obtain ⟨-, hagree⟩ := entrances_agree hserve
  exact ⟨rfl, hagree hvisits hlive hinstalled hsame i⟩

end Scenario.Host

end CommandRouter
