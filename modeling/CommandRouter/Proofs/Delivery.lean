import CommandRouter.Proofs.Exchanges
import Mathlib.Data.List.Basic

/-!
# Deliveries

A delivery calls the installed callbacks one after another. What a callback does depends on the
session only through what it answers to handlers and through the tickets that are live, and no
callback changes either. So a delivery does what its callbacks do, each by itself, and it enters the
routers that are installed and live when it begins.
-/

namespace CommandRouter

/-- The router of a callback that is one, with its ticket. -/
def Callback.router? : Callback → Option (Nat × Router)
  | .router ticket r => some (ticket, r)
  | .observer _ => none

/-- The ticket of a callback that is a router. -/
def Callback.ticket? (c : Callback) : Option Nat := c.router?.map (·.1)

/-- What a callback does with an interaction if it is no live router. -/
def Callback.remarks (i : Interaction) : Callback → List Entry
  | .router _ _ => []
  | .observer tag => [.note (.observed tag i.id)]

theorem Callback.eq_of_mem_remarks {c : Callback} {i : Interaction} {entry : Entry}
    (h : entry ∈ c.remarks i) : ∃ tag, entry = .note (.observed tag i.id) := by
  cases c with
  | router ticket r => cases h
  | observer tag => exact ⟨tag, List.mem_singleton.mp h⟩

namespace Exchange

variable {x : Exchange} {i : Interaction} {c : Callback} {cs : List Callback}

/-! ## Routers -/

/-- The installed routers with their tickets, in the order of installation. -/
def routers (x : Exchange) : List (Nat × Router) := x.session.callbacks.filterMap Callback.router?

/-- The router of a callback, if it is one and its ticket is live. -/
def liveRouter? (x : Exchange) (c : Callback) : Option (Nat × Router) :=
  c.router?.filter fun r => decide (r.1 ∈ x.live)

/-- The installed routers whose tickets are live. -/
def liveRouters (x : Exchange) : List (Nat × Router) := x.session.callbacks.filterMap x.liveRouter?

/-- The routers that are entered while the callbacks are called: a router is entered if its ticket
is live when its turn comes. -/
def enteredFrom (i : Interaction) : Exchange → List Callback → List (Nat × Router)
  | _, [] => []
  | x, c :: cs => (x.liveRouter? c).toList ++ enteredFrom i (call i x c) cs

/-- The routers that a delivery of the interaction enters. -/
def entered (x : Exchange) (i : Interaction) : List (Nat × Router) :=
  if x.session.isOpen then
    enteredFrom i (x.report (.delivering i.id x.session.callbacks.length)) x.session.callbacks
  else []

theorem liveRouters_eq_filter (x : Exchange) :
    x.liveRouters = x.routers.filter fun r => decide (r.1 ∈ x.live) := by
  rw [routers, List.filter_filterMap]
  rfl

theorem routers_install (x : Exchange) (ticket : Nat) (r : Router) :
    (x.install (.router ticket r)).routers = x.routers ++ [(ticket, r)] := by
  rw [routers, install, Session.install, List.filterMap_append]
  rfl

/-! ## Callbacks -/

/-- What a callback does with an interaction. -/
def doings (x : Exchange) (i : Interaction) : Callback → List Entry
  | .router ticket r => if ticket ∈ x.live then (r.dispatch x.session.view i).2 else []
  | .observer tag => [.note (.observed tag i.id)]

theorem doings_record (x : Exchange) (entries : List Entry) (i : Interaction) :
    (x.record entries).doings i = x.doings i := by
  funext c
  cases c with
  | router ticket r => simp [doings]
  | observer tag => rfl

theorem call_eq_record (x : Exchange) (i : Interaction) (c : Callback) :
    call i x c = x.record (x.doings i c) := by
  cases c with
  | router ticket r =>
    rw [call, doings]
    split
    · rfl
    · exact (record_nil x).symm
  | observer tag => rfl

/-- Callbacks that are called one after another do what each does by itself. -/
theorem foldl_call (cs : List Callback) (x : Exchange) (i : Interaction) :
    cs.foldl (call i) x = x.record (cs.flatMap (x.doings i)) := by
  induction cs generalizing x with
  | nil => exact (record_nil x).symm
  | cons c cs ih =>
    rw [List.foldl_cons, ih, call_eq_record, doings_record, ← record_append, List.flatMap_cons]

/-- The callbacks enter the routers among them that are live in the beginning. -/
theorem enteredFrom_eq (cs : List Callback) (x : Exchange) (i : Interaction) :
    enteredFrom i x cs = cs.filterMap x.liveRouter? := by
  induction cs generalizing x with
  | nil => rfl
  | cons c cs ih =>
    -- A callback changes no tickets, so those after it are as live as before.
    have hlive : (call i x c).liveRouter? = x.liveRouter? := by
      rw [call_eq_record]
      rfl
    rw [enteredFrom, ih, hlive, List.filterMap_cons]
    cases x.liveRouter? c <;> rfl

/-! ## Deliveries -/

/-- A delivery on an open session does what its callbacks do, in the order of installation. -/
theorem deliver_of_isOpen (hopen : x.session.isOpen = true) (i : Interaction) :
    x.deliver i = .ok (x.record (.event (.delivering i.id x.session.callbacks.length) none ::
      x.session.callbacks.flatMap (x.doings i))) := by
  rw [deliver, if_pos hopen]
  show Except.ok (x.session.callbacks.foldl (call i) (x.report _)) = _
  rw [foldl_call, report, doings_record, ← record_append, List.singleton_append]

/-- A delivery enters the routers that are installed and live, if the session is open. -/
theorem entered_eq (x : Exchange) (i : Interaction) :
    x.entered i = if x.session.isOpen then x.liveRouters else [] := by
  rw [entered, enteredFrom_eq]
  rfl

/-- A callback that is no live router leaves a note or does nothing. -/
theorem doings_of_liveRouter?_eq_none (hc : x.liveRouter? c = none) :
    x.doings i c = c.remarks i := by
  cases c with
  | router ticket r =>
    have hdead : ticket ∉ x.live := by simpa [liveRouter?, Callback.router?] using hc
    rw [doings, if_neg hdead]
    rfl
  | observer tag => rfl

theorem doings_of_liveRouter? {ticket : Nat} {r : Router}
    (hc : x.liveRouter? c = some (ticket, r)) :
    c = .router ticket r ∧ x.doings i c = (r.dispatch x.session.view i).2 := by
  cases c with
  | router ticket' r' =>
    obtain ⟨heq, hmem⟩ := Option.filter_eq_some_iff.mp hc
    cases heq
    exact ⟨rfl, if_pos (of_decide_eq_true hmem)⟩
  | observer tag => cases hc

theorem flatMap_doings_of_none (h : ∀ c ∈ cs, x.liveRouter? c = none) :
    cs.flatMap (x.doings i) = cs.flatMap (Callback.remarks i) :=
  List.flatMap_congr fun c hc => doings_of_liveRouter?_eq_none (h c hc)

/-- If one installed router is live, a delivery enters its table of handlers once, and the other
callbacks do what they do before and after. -/
theorem deliver_around {ticket : Nat} {r : Router} (hopen : x.session.isOpen = true)
    (hlive : x.liveRouters = [(ticket, r)]) (i : Interaction) :
    ∃ front back, x.session.callbacks = front ++ .router ticket r :: back ∧
      x.deliver i = .ok (x.record (.event (.delivering i.id x.session.callbacks.length) none ::
        (front.flatMap (Callback.remarks i) ++ (r.dispatch x.session.view i).2 ++
          back.flatMap (Callback.remarks i)))) := by
  obtain ⟨front, c, back, hsplit, hfront, hc, hback⟩ := List.filterMap_eq_cons_iff.mp hlive
  rw [List.filterMap_eq_nil_iff] at hback
  obtain ⟨rfl, hdoings⟩ := doings_of_liveRouter? (i := i) hc
  refine ⟨front, back, hsplit, ?_⟩
  rw [deliver_of_isOpen hopen, ← flatMap_doings_of_none hfront, ← flatMap_doings_of_none hback,
    ← hdoings]
  simp [hsplit]

/-- If one installed router is live, a delivery enters its table of handlers once, and the other
callbacks leave notes before and after. -/
theorem deliver_of_liveRouters {ticket : Nat} {r : Router} (hopen : x.session.isOpen = true)
    (hlive : x.liveRouters = [(ticket, r)]) (i : Interaction) :
    ∃ before after, (∀ entry ∈ before ++ after, ∃ tag, entry = .note (.observed tag i.id)) ∧
      x.deliver i = .ok (x.record (.event (.delivering i.id x.session.callbacks.length) none ::
        (before ++ (r.dispatch x.session.view i).2 ++ after))) := by
  obtain ⟨front, back, -, hdeliver⟩ := deliver_around hopen hlive i
  refine ⟨_, _, fun entry hentry => ?_, hdeliver⟩
  rw [← List.flatMap_append, List.mem_flatMap] at hentry
  obtain ⟨c, -, hentry⟩ := hentry
  exact Callback.eq_of_mem_remarks hentry

/-- If no installed router is live, a delivery does nothing but what the observers note. -/
theorem deliver_of_liveRouters_eq_nil (hopen : x.session.isOpen = true)
    (hnone : x.liveRouters = []) (i : Interaction) :
    x.deliver i = .ok (x.record (.event (.delivering i.id x.session.callbacks.length) none ::
      x.session.callbacks.flatMap (Callback.remarks i))) := by
  rw [deliver_of_isOpen hopen, flatMap_doings_of_none (List.filterMap_eq_nil_iff.mp hnone)]

theorem deliver_of_closed (hclosed : x.session.isOpen = false) (i : Interaction) :
    x.deliver i = .error .notConnected := by
  rw [deliver, hclosed, if_neg Bool.false_ne_true]

/-- A callback whose ticket is not live does nothing. -/
theorem doings_of_not_mem_live {ticket : Nat} (hdead : ticket ∉ x.live)
    (hc : c.ticket? = some ticket) : x.doings i c = [] := by
  cases c with
  | router ticket' r =>
    obtain rfl : ticket' = ticket := Option.some.inj hc
    exact if_neg hdead
  | observer tag => cases hc

/-- If a ticket is not live, a delivery does what the other callbacks do. -/
theorem deliver_of_not_mem_live {ticket : Nat} (hopen : x.session.isOpen = true)
    (hdead : ticket ∉ x.live) (i : Interaction) :
    x.deliver i = .ok (x.record (.event (.delivering i.id x.session.callbacks.length) none ::
      (x.session.callbacks.filter fun c => c.ticket? != some ticket).flatMap (x.doings i))) := by
  have hothers (cs : List Callback) : cs.flatMap (x.doings i) =
      (cs.filter fun c => c.ticket? != some ticket).flatMap (x.doings i) := by
    induction cs with
    | nil => rfl
    | cons c cs ih =>
      by_cases hc : c.ticket? = some ticket
      · simp [hc, doings_of_not_mem_live hdead hc, ih]
      · simp [hc, ih]
  rw [deliver_of_isOpen hopen, hothers]

end Exchange

end CommandRouter
