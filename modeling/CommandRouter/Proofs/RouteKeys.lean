import CommandRouter.Proofs.Declarations
import CommandRouter.Proofs.KeyOrder
import CommandRouter.Scenario.Host

/-!
# Handlers and leaves

A bot keeps each route twice, as a handler under its key and as a leaf of the tree of commands. The
two never part: the keys in the table of handlers are those of the leaves, each once. It follows
that the check for a free key, which comes before the pattern is registered, never decides anything.
Where it fails, registering would have failed with the same error.
-/

namespace CommandRouter

/-- The dispatch key of a leaf. -/
def Leaf.key (l : Leaf) : DispatchKey := .ofPath (l.names.headD "") l.names.tail

theorem Pattern.key_leaf (p : Pattern) : p.leaf.key = p.key := rfl

namespace Bot

variable {b : Bot} {p : Pattern} {h : Handler} {line : String} {key : DispatchKey}
  {routes : List (Pattern × Handler)} {scope : Scope} {script : List Declaration}

/-- The bot declares no route for the line: it cannot be read as a pattern, or its pattern cannot be
registered. -/
inductive Declines (b : Bot) (line : String) : BotError → Prop where
  | pattern {fault : Pattern.Error} (hparse : Pattern.parse line = .error fault) :
      Declines b line (.pattern fault)
  | registry {p : Pattern} {e : CommandRegistry.Error} (hparse : Pattern.parse line = .ok p)
      (hregister : b.registry.register p = .error e) : Declines b line (.registry e)

/-! ## Keys -/

/-- A handler stands under a key exactly if a route has the key. -/
theorem Serves.isSome_handler?_iff (hb : b.Serves routes) :
    (b.router.handler? key).isSome = true ↔ ∃ r ∈ routes, r.1.key = key := by
  rw [Option.isSome_iff_ne_none, ne_eq, hb.handler?_eq_none_iff]
  push Not
  rfl

/-- No key stands twice in the table of handlers. -/
theorem Serves.nodup_keys (hb : b.Serves routes) : (b.router.handlers.map Prod.fst).Nodup := by
  have happart : routes.Pairwise fun r s => Leaf.Apart r.1.segments s.1.segments := by
    have htidy := hb.sound.tidy.apart
    rwa [List.pairwise_map, List.pairwise_map] at htidy
  rw [hb.handlers, List.map_map, List.Nodup, List.pairwise_map]
  refine happart.imp_of_mem ?_
  intro r s hr hs hrs hkey
  exact hrs.ne ((Pattern.key_eq_key_iff (hb.wellFormed r hr) (hb.wellFormed s hs)).mp hkey)

/-- The keys of the leaves are those in the table of handlers, perhaps in another order. -/
theorem Serves.keys_perm (hb : b.Serves routes) :
    (b.registry.leaves.map Leaf.key).Perm (b.router.handlers.map Prod.fst) := by
  have hperm := hb.leaves_perm.map Leaf.key
  rw [List.map_map] at hperm
  rwa [hb.handlers, List.map_map]

/-! ## Routes that are declined -/

/-- A pattern whose key is taken is a duplicate for the registry as well. -/
theorem Serves.register_of_taken (hb : b.Serves routes) (hp : p.WellFormed)
    (htaken : (b.router.handler? p.key).isSome = true) :
    b.registry.register p = .error (.duplicate p.key) := by
  obtain ⟨r, hr, hkey⟩ := hb.isSome_handler?_iff.mp htaken
  have hsegments : r.1.segments = p.segments :=
    (Pattern.key_eq_key_iff (hb.wellFormed r hr) hp).mp hkey
  have hmem : r.1 ∈ routes.map Prod.fst := List.mem_map_of_mem hr
  have hverdict := hb.sound.verdict p
  rw [CommandRegistry.register]
  generalize b.registry.refusal p = refusal at hverdict
  -- Of the verdicts on the pattern only one is possible: the others deny that its names are taken.
  cases hverdict with
  | accepted hdepth hapart => exact absurd hsegments (hapart r.1 hmem).ne
  | tooDeep hdeep => exact absurd hp.depth (Nat.not_le.mpr hdeep)
  | duplicate hdepth hapart hold => rfl
  | conflict clash hdepth hapart hpath hnew => exact absurd hsegments (hnew r.1 hmem)

/-- A route is declined exactly if its pattern cannot be registered, and with the same error. -/
theorem Serves.route_eq_error_iff (hb : b.Serves routes) (hp : p.WellFormed)
    {e : CommandRegistry.Error} : b.route p h = .error e ↔ b.registry.register p = .error e := by
  rw [Bot.route]
  split
  · rename_i htaken
    rw [hb.register_of_taken hp htaken]
    simp
  · cases b.registry.register p <;> simp [Except.map]

/-- A line is declined where it is read or where its pattern is made a route. -/
theorem handle_eq_error_iff {e : BotError} :
    b.handle line h = .error e ↔
      (∃ fault, Pattern.parse line = .error fault ∧ e = .pattern fault) ∨
      ∃ p refusal, Pattern.parse line = .ok p ∧ b.route p h = .error refusal ∧
        e = .registry refusal := by
  rw [Bot.handle]
  cases hparse : Pattern.parse line with
  | error fault => simp [Except.mapError, bind, Except.bind, eq_comm]
  | ok p =>
    cases hroute : b.route p h <;>
      simp [Except.mapError, hroute, bind, Except.bind, pure, Except.pure, eq_comm]

/-- A line is declined exactly if it cannot be read or its pattern cannot be registered. -/
theorem Serves.handle_eq_error_iff_declines (hb : b.Serves routes) {e : BotError} :
    b.handle line h = .error e ↔ b.Declines line e := by
  rw [handle_eq_error_iff]
  constructor
  · rintro (⟨fault, hparse, rfl⟩ | ⟨p, refusal, hparse, hroute, rfl⟩)
    · exact .pattern hparse
    · have hp := (Pattern.parse_eq_ok_iff.mp hparse).2
      exact .registry hparse ((hb.route_eq_error_iff hp).mp hroute)
  · rintro (⟨hparse⟩ | ⟨hparse, hregister⟩)
    · exact Or.inl ⟨_, hparse, rfl⟩
    · have hp := (Pattern.parse_eq_ok_iff.mp hparse).2
      exact Or.inr ⟨_, _, hparse, (hb.route_eq_error_iff hp).mpr hregister, rfl⟩

/-! ## The two stores -/

/-- The handlers and the tree of commands keep in step. After any script the keys in the table of
handlers are those of the leaves, each once, so there are as many handlers as leaves. A line is
declined exactly if it cannot be read or its pattern cannot be registered, and then all is left as
it was. Where the key of a pattern is taken, the registry refuses the pattern as a duplicate. -/
theorem handlers_iff_leaves (scope : Scope) (script : List Declaration) :
    (∀ key, ((ofScript scope script).router.handler? key).isSome = true ↔
      ∃ l ∈ (ofScript scope script).registry.leaves, l.key = key) ∧
    ((ofScript scope script).router.handlers.map Prod.fst).Nodup ∧
    (ofScript scope script).routeCount = (ofScript scope script).registry.leaves.length ∧
    (∀ line h e, (ofScript scope script).handle line h = .error e ↔
      (ofScript scope script).Declines line e) ∧
    (∀ line h e, (ofScript scope script).handle line h = .error e →
      ofScript scope (script ++ [.handle line h]) = ofScript scope script ∧
      ∀ (host : Scenario.Host) name, host.building.lookup name = some (ofScript scope script) →
        host.handle name line h = (.botError e, host)) ∧
    ∀ line p, Pattern.parse line = .ok p →
      ((ofScript scope script).router.handler? p.key).isSome = true →
      (ofScript scope script).registry.register p = .error (.duplicate p.key) := by
  obtain ⟨routes, hb, -⟩ := exists_serves scope script
  refine ⟨fun key => ?_, hb.nodup_keys, ?_, fun line h e => hb.handle_eq_error_iff_declines,
    fun line h e hhandle => ⟨?_, fun host name hname => ?_⟩, fun line p hparse htaken => ?_⟩
  · rw [hb.isSome_handler?_iff]
    constructor
    · rintro ⟨r, hr, rfl⟩
      exact ⟨r.1.leaf, hb.mem_leaves_iff.mpr ⟨r, hr, rfl⟩, r.1.key_leaf⟩
    · rintro ⟨l, hl, rfl⟩
      obtain ⟨r, hr, rfl⟩ := hb.mem_leaves_iff.mp hl
      exact ⟨r, hr, rfl⟩
  · have hlength := hb.keys_perm.length_eq
    rwa [List.length_map, List.length_map, eq_comm] at hlength
  · rw [ofScript_append_singleton, declare, hhandle]
  · rw [Scenario.Host.handle, hname]
    simp only [hhandle]
  · exact hb.register_of_taken (Pattern.parse_eq_ok_iff.mp hparse).2 htaken

/-- A line whose route is there already is declined by the registry as well. -/
theorem handlers_iff_leaves_taken :
    (ofScript .everywhere [.handle "/a g s" (.record "first"), .handle "/a g" (.record "second"),
      .use [.rename "z"]]).registry.register ⟨"a", ["g", "s"], [⟨"y", .integer, true, []⟩]⟩ =
        .error (.duplicate ⟨"/a g s"⟩) := by
  have hstores := handlers_iff_leaves .everywhere [.handle "/a g s" (.record "first"),
    .handle "/a g" (.record "second"), .use [.rename "z"]]
  exact hstores.2.2.2.2.2 "/a g s y:integer" _ (by decide) (by decide)

end Bot

end CommandRouter
