import CommandRouter.Router.Instruments
import CommandRouter.Router.Table
import Mathlib.Data.List.Forall2

/-!
# Chains of middlewares

Most middlewares do something, run the rest of the chain a number of times and do something again.
In a chain of these each surrounds those behind it, like the skins of an onion: what is done is read
off by a recursion on the middlewares, from the innermost to the first.
-/

namespace CommandRouter

namespace Middleware

/-! ## Rings -/

/-- What a middleware does around the rest of the chain. -/
structure Ring where
  /-- What it does first. -/
  before : List Effect
  /-- How many times it runs the rest of the chain. -/
  times : Nat
  /-- What it does last. -/
  after : List Effect

/-- What is done by rings around a core, the first of which is outermost. -/
def onion : List Ring → List Effect → List Effect
  | [], core => core
  | r :: rings, core => r.before ++ (List.replicate r.times (onion rings core)).flatten ++ r.after

/-- For this interaction the middleware surrounds what is next with the ring, whatever that is. -/
def Surrounds (view : SessionView) (i : Interaction) (m : Middleware) (r : Ring) : Prop :=
  ∀ next : Handler,
    m next view i = r.before ++ (List.replicate r.times (next view i)).flatten ++ r.after

variable {rings outer inner : List Ring} {stop : Ring} {core : List Effect}

theorem onion_append (outer inner : List Ring) (core : List Effect) :
    onion (outer ++ inner) core = onion outer (onion inner core) := by
  induction outer with
  | nil => rfl
  | cons r outer ih => rw [List.cons_append, onion, onion, ih]

/-- Rings that run the rest once do first things from the outside in, and last things back. -/
theorem onion_of_once (h : ∀ r ∈ rings, r.times = 1) :
    onion rings core = rings.flatMap Ring.before ++ core ++ rings.reverse.flatMap Ring.after := by
  induction rings with
  | nil => simp [onion]
  | cons r rings ih =>
    obtain ⟨hr, hrings⟩ := List.forall_mem_cons.mp h
    rw [onion, hr, ih hrings]
    simp

/-- A ring that does not run the rest hides it. -/
theorem onion_of_stop (h : stop.times = 0) :
    onion (outer ++ stop :: inner) core = onion outer (stop.before ++ stop.after) := by
  rw [onion_append, onion, h]
  simp

/-- If all rings run the rest, the core is done, and then all do their last things. -/
theorem suffix_onion (h : ∀ r ∈ rings, r.times ≠ 0) :
    core ++ rings.reverse.flatMap Ring.after <:+ onion rings core := by
  induction rings with
  | nil => simp [onion]
  | cons r rings ih =>
    obtain ⟨hr, hrings⟩ := List.forall_mem_cons.mp h
    obtain ⟨before, hbefore⟩ := ih hrings
    obtain ⟨k, hk⟩ := Nat.exists_eq_succ_of_ne_zero hr
    -- The last of the runs ends as the induction hypothesis says.
    refine ⟨r.before ++ (List.replicate k (onion rings core)).flatten ++ before, ?_⟩
    rw [onion, hk, List.replicate_succ', List.flatten_append, List.flatten_singleton, ← hbefore]
    simp

/-! ## Chains -/

variable {ms : List Middleware} {h : Handler} {view : SessionView} {i : Interaction}

theorem chain_append (outer inner : List Middleware) (h : Handler) :
    chain (outer ++ inner) h = chain outer (chain inner h) := List.foldr_append

/-- A chain of middlewares that are rings does what the rings do around the handler. -/
theorem chain_eq_onion (hrings : List.Forall₂ (Surrounds view i) ms rings) :
    chain ms h view i = onion rings (h view i) := by
  induction hrings with
  | nil => rfl
  | @cons m r ms rings hm _ ih =>
    have hchain : chain (m :: ms) h = m (chain ms h) := rfl
    rw [hchain, hm, ih, onion]

/-- Chains compose. A chain of middlewares that surround the rest does what their rings do, in a
router too. If each runs the rest once, they begin in order and end in the opposite order. If one
does not run it, neither what is inside nor the handler leaves a trace, while it and all that
surround it do their last things. -/
theorem chain_nested (ms ns : List Middleware) (h : Handler) :
    chain (ms ++ ns) h = chain ms (chain ns h) ∧ chain [] h = h ∧
    ∀ view i rings, List.Forall₂ (Surrounds view i) ms rings →
      chain ms h view i = onion rings (h view i) ∧
      (∀ (r : Router) d, r.middlewares = ms → i.command? = some d → r.handler? d.key = some h →
        r.dispatch view i =
          (true, (onion rings (h view i)).map (Effect.entry (some d.key)))) ∧
      ((∀ r ∈ rings, r.times = 1) → chain ms h view i =
        rings.flatMap Ring.before ++ h view i ++ rings.reverse.flatMap Ring.after) ∧
      ∀ outer stop inner, rings = outer ++ stop :: inner → (∀ r ∈ outer, r.times ≠ 0) →
        stop.times = 0 →
        chain ms h view i = onion outer (stop.before ++ stop.after) ∧
        stop.before ++ stop.after ++ outer.reverse.flatMap Ring.after <:+ chain ms h view i := by
  refine ⟨chain_append ms ns h, rfl, fun view i rings hrings => ?_⟩
  rw [chain_eq_onion hrings]
  refine ⟨rfl, fun r d hmiddlewares hcommand hh => ?_, onion_of_once, ?_⟩
  · rw [Router.dispatch, hcommand]
    simp only [hh]
    rw [hmiddlewares, chain_eq_onion hrings]
  · rintro outer stop inner rfl houter hstop
    rw [onion_of_stop hstop]
    exact ⟨rfl, suffix_onion houter⟩

theorem surrounds_bracket (name : String) (times : Nat) :
    Surrounds view i (bracket name times)
      ⟨[.note (.text s!"{name}-before")], times, [.note (.text s!"{name}-after")]⟩ := by
  intro next
  rw [bracket, List.singleton_append, List.cons_append]

/-- The second of two middlewares runs the rest twice; the third does not run it. -/
theorem chain_nested_of_brackets :
    let view : SessionView := ⟨none, fun _ _ => .error .notConnected⟩
    let i := Interaction.ofCommand "1" (.ofOptions "ping" [])
    chain [bracket "a" 1, bracket "b" 2] (.record "h") view i =
        [.note (.text "a-before"), .note (.text "b-before"), .note (.handled "h" "1"),
          .note (.handled "h" "1"), .note (.text "b-after"), .note (.text "a-after")] ∧
      [.note (.text "c-before"), .note (.text "c-after"), .note (.text "b-after"),
          .note (.text "a-after")] <:+
        chain [bracket "a" 1, bracket "b" 2, bracket "c" 0] (.record "h") view i := by
  intro view i
  obtain ⟨-, -, htwo⟩ := chain_nested [bracket "a" 1, bracket "b" 2] [] (.record "h")
  obtain ⟨-, -, hthree⟩ :=
    chain_nested [bracket "a" 1, bracket "b" 2, bracket "c" 0] [] (.record "h")
  obtain ⟨hall, -⟩ :=
    htwo view i _ (.cons (surrounds_bracket "a" 1) (.cons (surrounds_bracket "b" 2) .nil))
  refine ⟨hall, ?_⟩
  obtain ⟨-, -, -, hstop⟩ := hthree view i _ (.cons (surrounds_bracket "a" 1)
    (.cons (surrounds_bracket "b" 2) (.cons (surrounds_bracket "c" 0) .nil)))
  exact (hstop [_, _] _ [] rfl (by simp) rfl).2

end Middleware

end CommandRouter
