import CommandRouter.Bot.Basic
import CommandRouter.Proofs.CommandShape
import CommandRouter.Proofs.DispatchKeys
import CommandRouter.Proofs.PatternRoundTrip
import CommandRouter.Proofs.Registration

/-!
# Declaring routes

A script declares routes and middlewares in any order, and some of its routes may be refused. The
bot that results keeps in step: its handlers stand under the keys of the patterns whose commands its
registry has, and its middlewares are all that the script declares.
-/

namespace CommandRouter

/-- What a bot is told before it goes live. -/
inductive Declaration where
  /-- A route for the text of a pattern. -/
  | handle (line : String) (h : Handler)
  /-- Middlewares. -/
  | use (ms : List Middleware)

/-- The middlewares that a declaration adds. -/
def Declaration.middlewares : Declaration → List Middleware
  | handle _ _ => []
  | use ms => ms

namespace Bot

/-- Makes a declaration. A route that is refused changes nothing. -/
def declare (b : Bot) : Declaration → Bot
  | .handle line h =>
    match b.handle line h with
    | .ok (_, b) => b
    | .error _ => b
  | .use ms => b.use ms

/-- The bot of a script. -/
def ofScript (scope : Scope) (script : List Declaration) : Bot := script.foldl declare { scope }

/-- The declaration at the position is a route that the bot accepts when its turn comes. -/
def RouteAt (scope : Scope) (script : List Declaration) (n : Nat) (p : Pattern) (h : Handler) :
    Prop :=
  ∃ line b, script[n]? = some (.handle line h) ∧ Pattern.parse line = .ok p ∧
    (ofScript scope (script.take n)).handle line h = .ok (p.key, b)

/-- The bot has these routes: their commands are in its registry and their handlers in its
router. -/
structure Serves (b : Bot) (routes : List (Pattern × Handler)) : Prop where
  sound : CommandRegistry.History.Sound ⟨b.registry, routes.map Prod.fst⟩
  wellFormed : ∀ r ∈ routes, r.1.WellFormed
  handlers : b.router.handlers = routes.map fun r => (r.1.key, r.2)

variable {b b' : Bot} {p : Pattern} {h : Handler} {line : String} {key : DispatchKey}
  {routes : List (Pattern × Handler)} {scope : Scope} {script : List Declaration} {n : Nat}

/-! ## One declaration -/

/-- A route is accepted if its key is free and its pattern can be registered. -/
theorem route_eq_ok_iff :
    b.route p h = .ok b' ↔ b.router.handler? p.key = none ∧
      ∃ r, b.registry.register p = .ok r ∧
        b' = { b with
          registry := r
          router := { b.router with handlers := b.router.handlers ++ [(p.key, h)] } } := by
  unfold route
  cases hkey : b.router.handler? p.key with
  | some h' => simp
  | none =>
    cases hreg : b.registry.register p with
    | error e => simp [Except.map]
    | ok r => simp [Except.map, eq_comm]

/-- A route is declared for the pattern that its text is read as. -/
theorem handle_eq_ok_iff :
    b.handle line h = .ok (key, b') ↔
      ∃ p, Pattern.parse line = .ok p ∧ b.route p h = .ok b' ∧ key = p.key := by
  unfold handle
  cases hparse : Pattern.parse line with
  | error e => simp [Except.mapError, bind, Except.bind]
  | ok p =>
    cases hroute : b.route p h with
    | error e => simp [Except.mapError, hroute, bind, Except.bind]
    | ok b'' =>
      simp [Except.mapError, hroute, bind, Except.bind, pure, Except.pure, eq_comm, and_comm]

/-- An accepted route is one more route of the bot. -/
theorem Serves.route (hb : b.Serves routes) (hp : p.WellFormed) (hroute : b.route p h = .ok b') :
    b'.Serves (routes ++ [(p, h)]) := by
  obtain ⟨-, r, hreg, rfl⟩ := route_eq_ok_iff.mp hroute
  have hsound := hb.sound.offer fun o ho => (hp.options o ho).kind
  rw [CommandRegistry.History.offer, hreg] at hsound
  refine ⟨?_, ?_, ?_⟩
  · rw [List.map_append]
    exact hsound
  · intro route hmem
    rcases List.mem_append.mp hmem with hmem | hmem
    · exact hb.wellFormed route hmem
    · rwa [List.mem_singleton.mp hmem]
  · rw [List.map_append, ← hb.handlers]
    rfl

/-! ## Scripts -/

theorem ofScript_append_singleton (d : Declaration) :
    ofScript scope (script ++ [d]) = (ofScript scope script).declare d := by
  rw [ofScript, List.foldl_append]
  rfl

/-- One more declaration may be one more route. -/
theorem routeAt_append_singleton (d : Declaration) :
    RouteAt scope (script ++ [d]) n p h ↔ RouteAt scope script n p h ∨
      n = script.length ∧ ∃ line b, d = .handle line h ∧ Pattern.parse line = .ok p ∧
        (ofScript scope script).handle line h = .ok (p.key, b) := by
  unfold RouteAt
  rcases Nat.lt_trichotomy n script.length with hn | rfl | hn
  · rw [List.getElem?_append_left hn, List.take_append_of_le_length (Nat.le_of_lt hn)]
    have hne : n ≠ script.length := by omega
    simp [hne]
  · rw [List.getElem?_append_right (Nat.le_refl _), List.take_left]
    simp
  · have hlen : (script ++ [d]).length ≤ n := by
      rw [List.length_append, List.length_singleton]
      omega
    have hne : n ≠ script.length := by omega
    rw [List.getElem?_eq_none hlen, List.getElem?_eq_none (Nat.le_of_lt hn)]
    simp [hne]

/-- The bot of a script has exactly the routes that it accepted. -/
theorem exists_serves (scope : Scope) (script : List Declaration) :
    ∃ routes, (ofScript scope script).Serves routes ∧
      ∀ p h, (p, h) ∈ routes ↔ ∃ n, RouteAt scope script n p h := by
  induction script using List.reverseRecOn with
  | nil =>
    refine ⟨[], ⟨⟨rfl, .nil, by simp, by simp⟩, by simp, rfl⟩, ?_⟩
    simp [RouteAt]
  | append_singleton script d ih =>
    obtain ⟨routes, hb, hroutes⟩ := ih
    rw [ofScript_append_singleton]
    simp only [routeAt_append_singleton, exists_or, exists_eq_left, ← hroutes]
    cases d with
    | use ms => exact ⟨routes, ⟨hb.sound, hb.wellFormed, hb.handlers⟩, by simp⟩
    | handle line h =>
      cases hhandle : (ofScript scope script).handle line h with
      | error e =>
        have hsame : (ofScript scope script).declare (.handle line h) = ofScript scope script := by
          rw [declare, hhandle]
        rw [hsame]
        refine ⟨routes, hb, fun p h' => ?_⟩
        simp only [Declaration.handle.injEq, iff_self_or]
        rintro ⟨line', b, ⟨rfl, rfl⟩, -, hok⟩
        rw [hhandle] at hok
        cases hok
      | ok result =>
        obtain ⟨key, b'⟩ := result
        obtain ⟨p, hparse, hroute, rfl⟩ := handle_eq_ok_iff.mp hhandle
        have hnext : (ofScript scope script).declare (.handle line h) = b' := by
          rw [declare, hhandle]
        rw [hnext]
        refine ⟨_, hb.route (Pattern.parse_eq_ok_iff.mp hparse).2 hroute, fun p' h' => ?_⟩
        rw [List.mem_append, List.mem_singleton, Prod.mk.injEq]
        refine or_congr_right ⟨?_, ?_⟩
        · rintro ⟨rfl, rfl⟩
          exact ⟨line, b', rfl, hparse, hhandle⟩
        · rintro ⟨line', b, heq, hparse', -⟩
          obtain ⟨rfl, rfl⟩ := Declaration.handle.inj heq
          rw [hparse] at hparse'
          exact ⟨(Except.ok.inj hparse').symm, rfl⟩

/-- The bot of a script has all middlewares of the script, in order. -/
theorem middlewares_ofScript (scope : Scope) (script : List Declaration) :
    (ofScript scope script).router.middlewares = script.flatMap Declaration.middlewares := by
  induction script using List.reverseRecOn with
  | nil => rfl
  | append_singleton script d ih =>
    rw [ofScript_append_singleton, List.flatMap_append, ← ih]
    cases d with
    | use ms => simp [declare, use, Declaration.middlewares]
    | handle line h =>
      rw [declare]
      split
      · rename_i key b' hhandle
        obtain ⟨p, -, hroute, -⟩ := handle_eq_ok_iff.mp hhandle
        obtain ⟨-, r, -, rfl⟩ := route_eq_ok_iff.mp hroute
        simp [Declaration.middlewares]
      · simp [Declaration.middlewares]

/-! ## Routes and keys -/

theorem key_eq_of_segments {p q : Pattern} (h : p.segments = q.segments) : p.key = q.key := by
  obtain ⟨hname, hpath⟩ := List.cons.inj h
  rw [Pattern.key, hname, hpath]
  rfl

/-- The names of a well-formed pattern can be read off from its key. -/
theorem segments_eq_of_key {p : Pattern} {name : String} {path : List String} (hp : p.WellFormed)
    (hnames : ∀ s ∈ name :: path, Pattern.IsName s) (h : p.key = .ofPath name path) :
    p.segments = name :: path :=
  DispatchKey.ofPath_injective (List.forall_mem_cons.mpr ⟨hp.name, hp.path⟩) hnames h

/-- No handler stands under a key that no route has. -/
theorem Serves.handler?_eq_none_iff (hb : b.Serves routes) :
    b.router.handler? key = none ↔ ∀ r ∈ routes, r.1.key ≠ key := by
  rw [Router.handler?, hb.handlers, List.lookup_eq_none_iff, List.forall_mem_map]
  refine forall₂_congr fun r _ => ?_
  rw [bne_iff_ne, ne_comm]

/-- A handler that stands under a key is that of a route with the key. -/
theorem Serves.mem_of_handler? (hb : b.Serves routes) (hh : b.router.handler? key = some h) :
    ∃ p, (p, h) ∈ routes ∧ p.key = key := by
  rw [Router.handler?, hb.handlers, List.lookup_eq_some_iff] at hh
  obtain ⟨before, after, hsplit, -⟩ := hh
  have hmem : (key, h) ∈ routes.map fun r => (r.1.key, r.2) := by
    rw [hsplit]
    simp
  obtain ⟨⟨p, h'⟩, hr, heq⟩ := List.mem_map.mp hmem
  obtain ⟨rfl, rfl⟩ := Prod.mk.inj heq
  exact ⟨p, hr, rfl⟩

/-- A route that was accepted stands in the way of a later one with the same names. -/
theorem RouteAt.not_lt {m : Nat} {p' : Pattern} {h' : Handler} (hn : RouteAt scope script n p h)
    (hm : RouteAt scope script m p' h') (hsegments : p.segments = p'.segments) : ¬n < m := by
  intro hlt
  obtain ⟨line, b, hline, hparse, hhandle⟩ := hn
  obtain ⟨line', b', -, hparse', hhandle'⟩ := hm
  have hbefore : RouteAt scope (script.take m) n p h := by
    refine ⟨line, b, ?_, hparse, ?_⟩
    · rw [List.getElem?_take_of_lt hlt]
      exact hline
    · rw [List.take_take, Nat.min_eq_left (Nat.le_of_lt hlt)]
      exact hhandle
  obtain ⟨routes, hserves, hroutes⟩ := exists_serves scope (script.take m)
  obtain ⟨q, -, hroute, hkey⟩ := handle_eq_ok_iff.mp hhandle'
  obtain ⟨hfree, -⟩ := route_eq_ok_iff.mp hroute
  rw [← hkey] at hfree
  exact hserves.handler?_eq_none_iff.mp hfree (p, h) ((hroutes p h).mpr ⟨n, hbefore⟩)
    (key_eq_of_segments hsegments)

/-- Two accepted routes with the same names are one. -/
theorem RouteAt.unique {m : Nat} {p' : Pattern} {h' : Handler} (hn : RouteAt scope script n p h)
    (hm : RouteAt scope script m p' h') (hsegments : p.segments = p'.segments) : n = m := by
  have hle := hn.not_lt hm hsegments
  have hge := hm.not_lt hn hsegments.symm
  omega

/-- The leaves of the tree are those of the routes, perhaps in another order. -/
theorem Serves.leaves_perm (hb : b.Serves routes) :
    b.registry.leaves.Perm (routes.map fun r => r.1.leaf) := by
  have hperm := Leaf.leaves_commandsOf hb.sound.tidy (CommandRegistry.History.names_ne_nil _)
  rwa [← hb.sound.tree, List.map_map] at hperm

/-- A leaf of the tree is that of a route. -/
theorem Serves.mem_leaves_iff (hb : b.Serves routes) {l : Leaf} :
    l ∈ b.registry.leaves ↔ ∃ r ∈ routes, r.1.leaf = l := by
  rw [hb.leaves_perm.mem_iff, List.mem_map]

end Bot

end CommandRouter
