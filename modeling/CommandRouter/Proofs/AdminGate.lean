import CommandRouter.Proofs.Plans
import Mathlib.Data.Nat.Bitwise

/-!
# The gate for administrators

The middleware `requireAdmin` decides each time it is reached, from what it is given then: the
interaction, and what the session answers about the permissions of the invoking user in the channel.
It admits the interaction to the rest of the chain, denies it with a reply, or can decide nothing
and sends nothing. What stands before the gate in a chain, and what stands behind it, has no part in
this.
-/

namespace CommandRouter

/-- The user invoked the interaction: as the member of a guild or, without a member's user, in a
direct message. -/
def Interaction.InvokedBy (i : Interaction) (u : User) : Prop :=
  (∃ m, i.member = some m ∧ m.user = some u) ∨
    (∀ m, i.member = some m → m.user = none) ∧ i.user = some u

theorem Interaction.invoker?_eq_some_iff {i : Interaction} {u : User} :
    i.invoker? = some u ↔ i.InvokedBy u := by
  unfold invoker? InvokedBy
  cases hm : i.member with
  | none => simp
  | some m => cases hu : m.user <;> simp [hu]

/-- The set has the bit of the permission that stands above all others. -/
def Permissions.HasAdministrator (p : Permissions) : Prop := p.bits.toNat.testBit 3 = true

instance (p : Permissions) : Decidable p.HasAdministrator := inferInstanceAs (Decidable (_ = true))

theorem Permissions.contains_administrator_iff {p : Permissions} :
    p.contains .administrator = true ↔ p.HasAdministrator := by
  have hand : p.bits.toNat &&& 2 ^ 3 = (p.bits.toNat.testBit 3).toNat * 2 ^ 3 := Nat.and_two_pow _ 3
  rw [contains, HasAdministrator, beq_iff_eq, ← UInt64.toNat_inj, UInt64.toNat_and]
  show p.bits.toNat &&& 2 ^ 3 = 2 ^ 3 ↔ _
  rw [hand]
  cases p.bits.toNat.testBit 3 <;> simp

/-- The responses among the effects, each with the id of its interaction. -/
def responsesIn (es : List Effect) : List (String × Response) :=
  es.filterMap fun e => (e.entry none).response?

namespace Middleware

variable {view : SessionView} {i : Interaction} {next next' : Handler}

/-! ## What the gate can find -/

/-- This is what the session answers about the invoking user in the channel. -/
def Finds (view : SessionView) (i : Interaction) (answer : Except SessionError Permissions) :
    Prop :=
  ∃ user channel, i.InvokedBy user ∧ i.channelId = some channel ∧
    view.permissions user.id channel = answer

/-- The invoking user is an administrator in the channel. -/
def Admits (view : SessionView) (i : Interaction) : Prop :=
  ∃ p, Finds view i (.ok p) ∧ p.HasAdministrator

/-- The invoking user is known not to be an administrator in the channel. -/
def Denies (view : SessionView) (i : Interaction) : Prop :=
  ∃ p, Finds view i (.ok p) ∧ ¬p.HasAdministrator

/-- The user or the channel is missing, or the permissions cannot be looked up. -/
def Undecided (view : SessionView) (i : Interaction) : Prop :=
  (∀ u, ¬i.InvokedBy u) ∨ i.channelId = none ∨ ∃ e, Finds view i (.error e)

/-- One of the three is the case. -/
theorem admits_or_denies_or_undecided (view : SessionView) (i : Interaction) :
    Admits view i ∨ Denies view i ∨ Undecided view i := by
  cases huser : i.invoker? with
  | none =>
    refine Or.inr (Or.inr (Or.inl fun u hu => ?_))
    rw [Interaction.invoker?_eq_some_iff.mpr hu] at huser
    cases huser
  | some user =>
    have hinvoked := Interaction.invoker?_eq_some_iff.mp huser
    cases hchannel : i.channelId with
    | none => exact Or.inr (Or.inr (Or.inr (Or.inl hchannel)))
    | some channel =>
      cases hanswer : view.permissions user.id channel with
      | error e =>
        exact Or.inr (Or.inr (Or.inr (Or.inr ⟨e, user, channel, hinvoked, hchannel, hanswer⟩)))
      | ok p =>
        by_cases hp : p.HasAdministrator
        · exact Or.inl ⟨p, ⟨user, channel, hinvoked, hchannel, hanswer⟩, hp⟩
        · exact Or.inr (Or.inl ⟨p, ⟨user, channel, hinvoked, hchannel, hanswer⟩, hp⟩)

/-! ## What the gate does -/

/-- An interaction that is admitted goes on as it is. -/
theorem requireAdmin_of_admits (h : Admits view i) : requireAdmin next view i = next view i := by
  obtain ⟨p, ⟨user, channel, huser, hchannel, hanswer⟩, hp⟩ := h
  rw [← Interaction.invoker?_eq_some_iff] at huser
  rw [← Permissions.contains_administrator_iff] at hp
  simp [requireAdmin, huser, hchannel, hanswer, hp]

/-- The reply to an interaction that is denied is all that is attempted, and its failure is only
reported. -/
theorem requireAdmin_of_denies (h : Denies view i) :
    ∃ user channel, ∀ next, requireAdmin next view i = .event (.permissionDenied user channel) ::
      view.respond i (.ofMessage permissionDenied) fun e => [.event (.denialFailed e)] := by
  obtain ⟨p, ⟨user, channel, huser, hchannel, hanswer⟩, hp⟩ := h
  rw [← Interaction.invoker?_eq_some_iff] at huser
  rw [← Permissions.contains_administrator_iff] at hp
  exact ⟨user.id, channel, fun next => by simp [requireAdmin, huser, hchannel, hanswer, hp]⟩

/-- Where nothing can be decided, this is reported. -/
theorem requireAdmin_of_undecided (h : Undecided view i) :
    ∃ e, ∀ next, requireAdmin next view i = [.event e] := by
  rcases h with hnone | hnone | ⟨e, user, channel, huser, hchannel, hanswer⟩
  · refine ⟨.invokerUnknown i.id, fun next => ?_⟩
    have huser : i.invoker? = none := by
      cases hu : i.invoker? with
      | none => rfl
      | some u => exact absurd (Interaction.invoker?_eq_some_iff.mp hu) (hnone u)
    simp [requireAdmin, huser]
  · refine ⟨.invokerUnknown i.id, fun next => ?_⟩
    cases huser : i.invoker? <;> simp [requireAdmin, hnone, huser]
  · rw [← Interaction.invoker?_eq_some_iff] at huser
    exact ⟨.lookupFailed user.id e, fun next => by simp [requireAdmin, huser, hchannel, hanswer]⟩

/-- What the middleware does with this interaction depends on what is next: it enters it. -/
def Enters (m : Middleware) (view : SessionView) (i : Interaction) : Prop :=
  ∃ next next' : Handler, m next view i ≠ m next' view i

/-- Without admission nothing of the rest of the chain is done. -/
theorem requireAdmin_eq_of_not_admits (h : ¬Admits view i) :
    requireAdmin next view i = requireAdmin next' view i := by
  rcases admits_or_denies_or_undecided view i with hadmits | hdenies | hundecided
  · exact absurd hadmits h
  · obtain ⟨user, channel, hdenied⟩ := requireAdmin_of_denies hdenies
    rw [hdenied next, hdenied next']
  · obtain ⟨e, he⟩ := requireAdmin_of_undecided hundecided
    rw [he next, he next']

theorem enters_requireAdmin_iff : Enters requireAdmin view i ↔ Admits view i := by
  constructor
  · rintro ⟨next, next', hne⟩
    by_contra h
    exact hne (requireAdmin_eq_of_not_admits h)
  · intro h
    refine ⟨fun _ _ => [], fun _ _ => [.event .handlerMissing], ?_⟩
    rw [requireAdmin_of_admits h, requireAdmin_of_admits h]
    exact List.cons_ne_nil _ _ |>.symm

/-- The gate has a plan: it runs the rest of the chain exactly where it admits. -/
theorem planned_requireAdmin : requireAdmin.Planned := by
  classical
  refine ⟨fun view i => if Admits view i then .run view i fun _ => .done ()
    else .acts (requireAdmin (fun _ _ => []) view i) (.done ()), fun view i next => ?_⟩
  by_cases h : Admits view i
  · simp [h, Plan.effects, requireAdmin_of_admits h]
  · simpa [h, Plan.effects] using requireAdmin_eq_of_not_admits h

/-! ## What is attempted -/

theorem responsesIn_of_denies (h : Denies view i) :
    responsesIn (requireAdmin next view i) = [(i.id, .ofMessage permissionDenied)] := by
  obtain ⟨user, channel, hdenied⟩ := requireAdmin_of_denies h
  rw [hdenied, SessionView.respond]
  cases view.respondFault <;> rfl

theorem responsesIn_of_undecided (h : Undecided view i) :
    responsesIn (requireAdmin next view i) = [] := by
  obtain ⟨e, he⟩ := requireAdmin_of_undecided h
  rw [he]
  rfl

theorem not_admits_of_denies (h : Denies view i) : ¬Admits view i := by
  intro hadmits
  have hresponses : responsesIn (requireAdmin (fun _ _ => []) view i) = _ :=
    responsesIn_of_denies h
  rw [requireAdmin_of_admits hadmits] at hresponses
  exact List.cons_ne_nil _ _ hresponses.symm

theorem not_admits_of_undecided (h : Undecided view i) : ¬Admits view i := by
  intro hadmits
  obtain ⟨e, he⟩ := requireAdmin_of_undecided h
  have hevent := he fun _ _ => []
  rw [requireAdmin_of_admits hadmits] at hevent
  exact List.cons_ne_nil _ _ hevent.symm

/-! ## The gate in a chain -/

/-- What the gate does on one occasion on which it is reached. -/
structure Gates (rest : Handler) (view : SessionView) (i : Interaction) : Prop where
  /-- It admits, denies or cannot decide. -/
  decided : Admits view i ∨ Denies view i ∨ Undecided view i
  /-- It enters the rest of the chain exactly if it admits. -/
  enters_iff : Enters requireAdmin view i ↔ Admits view i
  /-- What it admits runs through the rest of the chain once, as it is. -/
  admitted : Admits view i → requireAdmin rest view i = rest view i
  /-- What it denies is replied to once. -/
  denied : Denies view i → ¬Admits view i ∧
    responsesIn (requireAdmin rest view i) = [(i.id, .ofMessage permissionDenied)]
  /-- What it cannot decide is not replied to. -/
  undecided : Undecided view i → ¬Admits view i ∧ responsesIn (requireAdmin rest view i) = []

/-- The gate for administrators cannot be bypassed. On every occasion on which it is reached, it
decides from what it is given then, and what it does is over when the middlewares before it go on:
rings do their last things, and plans are gone through to their ends, whether its reply arrives or
not. If it admits on none of the occasions on which the middlewares before it reach it, the chain
does the same whatever stands behind the gate. -/
theorem requireAdmin_gates (outer inner : List Middleware) (h : Handler) :
    chain (outer ++ requireAdmin :: inner) h = chain outer (requireAdmin (chain inner h)) ∧
    (∀ view i, Gates (chain inner h) view i) ∧
    (∀ view i rings, List.Forall₂ (Surrounds view i) outer rings → (∀ r ∈ rings, r.times ≠ 0) →
      requireAdmin (chain inner h) view i ++ rings.reverse.flatMap Ring.after <:+
        chain (outer ++ requireAdmin :: inner) h view i) ∧
    ((∀ m ∈ outer, m.Planned) → ∀ view i, ∃ plan, Follows view i (chain outer) plan) ∧
    ∀ view i plan, Follows view i (chain outer) plan →
      chain (outer ++ requireAdmin :: inner) h view i =
        plan.effects (requireAdmin (chain inner h)) ∧
      ((∀ c ∈ plan.calls (requireAdmin (chain inner h)), ¬Admits c.1 c.2) →
        ∀ inner' h', chain (outer ++ requireAdmin :: inner') h' view i =
          chain (outer ++ requireAdmin :: inner) h view i) := by
  have hchain : ∀ (inner : List Middleware) (h : Handler),
      chain (outer ++ requireAdmin :: inner) h = chain outer (requireAdmin (chain inner h)) :=
    fun inner h => chain_append outer (requireAdmin :: inner) h
  refine ⟨hchain inner h, fun view i => ?_, fun view i rings hrings htimes => ?_,
    fun hplanned view i => ?_, fun view i plan hplan => ⟨?_, fun hnone inner' h' => ?_⟩⟩
  · exact ⟨admits_or_denies_or_undecided view i, enters_requireAdmin_iff, requireAdmin_of_admits,
      fun hdenies => ⟨not_admits_of_denies hdenies, responsesIn_of_denies hdenies⟩,
      fun hundecided => ⟨not_admits_of_undecided hundecided, responsesIn_of_undecided hundecided⟩⟩
  · rw [hchain, chain_eq_onion hrings]
    exact suffix_onion htimes
  · obtain ⟨plans, hplans⟩ := planned_chain hplanned
    exact ⟨plans view i, hplans view i⟩
  · rw [hchain, hplan]
  · rw [hchain, hchain, hplan, hplan]
    exact Plan.effects_congr fun c hc => requireAdmin_eq_of_not_admits (hnone c hc)

/-- A member who is no administrator is refused twice and replied to in vain. Other gates may stand
before the gate. -/
theorem requireAdmin_gates_moderator :
    let view : SessionView := ⟨some .notConnected, fun _ _ => .ok .manageGuild⟩
    let i : Interaction := { Interaction.ofCommand "7" (.ofOptions "ban" []) with
      channelId := some "chan", member := some { user := some { id := "mod" } } }
    Denies view i ∧
      responsesIn (requireAdmin (chain [] (.record "ban")) view i) =
        [("7", .ofMessage permissionDenied)] ∧
      [.event (.permissionDenied "mod" "chan"), .respond "7" (.ofMessage permissionDenied),
          .event (.denialFailed .notConnected), .note (.text "twice-after")] <:+
        chain [bracket "twice" 2, requireAdmin] (.record "ban") view i ∧
      (∀ inner h, chain ([bracket "twice" 2] ++ requireAdmin :: inner) h view i =
        chain ([bracket "twice" 2] ++ requireAdmin :: []) (.record "ban") view i) ∧
      ∃ plan, Follows view i (chain [logger, requireAdmin]) plan := by
  intro view i
  have hdenies : Denies view i :=
    ⟨.manageGuild, ⟨{ id := "mod" }, "chan", Or.inl ⟨_, rfl, rfl⟩, rfl, rfl⟩, by decide⟩
  obtain ⟨-, hgates, hrings, -, hplan⟩ :=
    requireAdmin_gates [bracket "twice" 2] [] (.record "ban")
  have hbracket : Surrounds view i (bracket "twice" 2) _ := surrounds_bracket "twice" 2
  refine ⟨hdenies, ((hgates view i).denied hdenies).2, ?_, fun inner h => ?_, ?_⟩
  · exact hrings view i _ (.cons hbracket .nil) (by simp)
  · refine (hplan view i _ hbracket.follows).2 (fun c hc => ?_) inner h
    rw [Ring.eq_of_mem_calls hc]
    exact not_admits_of_denies hdenies
  · obtain ⟨-, -, -, hplanned, -⟩ := requireAdmin_gates [logger, requireAdmin] [] (.record "ban")
    exact hplanned (by simp [planned_logger, planned_requireAdmin]) view i

end Middleware

end CommandRouter
