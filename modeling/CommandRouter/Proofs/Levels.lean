import CommandRouter.Proofs.FieldByField

/-!
# How many levels it takes

A decoder stops where it runs out of levels, and this is all that they are for: what was read with
some levels is read as well with more, and with as many as the document is deep. So the levels make
no difference for a document at hand.
-/

namespace CommandRouter

variable {α β γ : Type}

namespace Decoder

/-- What the decoder reads with fewer levels than the given number, it reads with any levels that
are not less, and with any that suffice for the depth of the document. -/
def SteadyBelow (k : Nat) (d : Decoder α) : Prop :=
  ∀ n < k, ∀ doc x, d n doc = .ok x → ∀ m, min n doc.depth ≤ m → d m doc = .ok x

variable {k n : Nat} {d : Decoder α} {doc : Document} {x : α}

/-- A document at hand decodes if it does with any levels. -/
theorem run_eq_ok_iff (hd : ∀ k, d.SteadyBelow k) : d.run doc = .ok x ↔ ∃ n, d n doc = .ok x :=
  ⟨fun h => ⟨doc.depth, h⟩, fun ⟨n, h⟩ =>
    hd (n + 1) n (Nat.lt_succ_self n) doc x h doc.depth (Nat.min_le_right n doc.depth)⟩

theorem steadyBelow_zero : d.SteadyBelow 0 := fun n hn => absurd hn (Nat.not_lt_zero n)

theorem SteadyBelow.mono {j : Nat} (h : d.SteadyBelow k) (hj : j ≤ k) : d.SteadyBelow j :=
  fun n hn => h n (hn.trans_le hj)

/-! ## Scalars -/

theorem steadyBelow_of_eq (h : ∀ n m doc, d n doc = d m doc) : d.SteadyBelow k :=
  fun n _ doc _ hread m _ => (h m n doc).trans hread

theorem steadyBelow_string : string.SteadyBelow k :=
  steadyBelow_of_eq fun _ _ doc => by cases doc <;> rfl

theorem steadyBelow_bool : bool.SteadyBelow k :=
  steadyBelow_of_eq fun _ _ doc => by cases doc <;> rfl

theorem steadyBelow_integer (fits : Int → Bool) : (integer fits).SteadyBelow k :=
  steadyBelow_of_eq fun _ _ doc => by
    cases doc with
    | number n => cases n <;> rfl
    | _ => rfl

theorem SteadyBelow.andThen (h : d.SteadyBelow k) (f : α → Except DecodeError β) :
    (d.andThen f).SteadyBelow k := by
  intro n hn doc y hread m hm
  obtain ⟨x, hx, hy⟩ := andThen_eq_ok_iff.mp hread
  exact andThen_eq_ok_iff.mpr ⟨x, h n hn doc x hx m hm, hy⟩

theorem steadyBelow_coded (kind : CodedKind) (ofCode? : Nat → Option α) :
    (coded kind ofCode?).SteadyBelow k := (steadyBelow_integer _).andThen _

theorem SteadyBelow.optional (h : d.SteadyBelow k) : (optional d).SteadyBelow k := by
  intro n hn doc x hread m hm
  by_cases hnull : doc = .null
  · subst hnull
    exact hread
  · rw [optional.eq_2 _ _ _ hnull, map_eq_ok_iff] at hread ⊢
    obtain ⟨y, hy, rfl⟩ := hread
    exact ⟨y, h n hn doc y hy m hm, rfl⟩

/-! ## Containers -/

theorem SteadyBelow.list (h : d.SteadyBelow k) : (list d).SteadyBelow k := by
  intro n hn doc xs hread m hm
  unfold Decoder.list at hread
  split at hread
  · cases hread
  · rename_i n items
    rw [Document.depth] at hm
    obtain ⟨m, rfl⟩ := Nat.exists_eq_succ_of_ne_zero (n := m) (by omega)
    refine mapM_eq_ok_of_forall (fun item hitem x hx => ?_) hread
    have hdepth := Document.depthOfItems_le_iff.mp (Nat.le_refl _) item hitem
    exact h n (by omega) item x hx m (by omega)
  · cases hread

theorem memberValues_eq_ok_of_forall {m : Nat} {members : List (Option String × Document)}
    {ms : List (String × Json)}
    (h : ∀ member ∈ members, ∀ j, value n member.2 = .ok j → value m member.2 = .ok j)
    (hread : memberValues n members = .ok ms) : memberValues m members = .ok ms := by
  induction members generalizing ms with
  | nil =>
    cases hread
    rfl
  | cons member members ih =>
    obtain ⟨name, part⟩ := member
    obtain ⟨hpart, hmembers⟩ := List.forall_mem_cons.mp h
    cases name with
    | none => cases hread
    | some name =>
      simp only [memberValues, bind_eq_ok_iff, pure_eq_ok_iff] at hread ⊢
      obtain ⟨j, hj, ms, hms, rfl⟩ := hread
      exact ⟨j, hpart j hj, ms, ih hmembers hms, rfl⟩

theorem steadyBelow_value : value.SteadyBelow k := by
  intro n _ doc j hread m hm
  induction n using Nat.strongRecOn generalizing doc j m with
  | ind n ih =>
    cases doc with
    | array items =>
      cases n with
      | zero => cases hread
      | succ n =>
        rw [Document.depth] at hm
        obtain ⟨m, rfl⟩ := Nat.exists_eq_succ_of_ne_zero (n := m) (by omega)
        rw [value, map_eq_ok_iff, values_eq_mapM] at hread ⊢
        obtain ⟨js, hjs, rfl⟩ := hread
        refine ⟨js, mapM_eq_ok_of_forall (fun item hitem j hj => ?_) hjs, rfl⟩
        have hdepth := Document.depthOfItems_le_iff.mp (Nat.le_refl _) item hitem
        exact ih n (Nat.lt_succ_self n) (by omega) item j hj m (by omega)
    | object members =>
      cases n with
      | zero => cases hread
      | succ n =>
        rw [Document.depth] at hm
        obtain ⟨m, rfl⟩ := Nat.exists_eq_succ_of_ne_zero (n := m) (by omega)
        rw [value, map_eq_ok_iff] at hread ⊢
        obtain ⟨ms, hms, rfl⟩ := hread
        refine ⟨ms, memberValues_eq_ok_of_forall (fun member hmember j hj => ?_) hms, rfl⟩
        have hdepth := Document.depthOfMembers_le_iff.mp (Nat.le_refl _) member hmember
        exact ih n (Nat.lt_succ_self n) (by omega) member.2 j hj m (by omega)
    | _ =>
      rw [value] at hread ⊢
      exact hread

end Decoder

/-! ## Records -/

namespace Fields

/-- The fields are read by decoders for which the levels below the given number do not matter. -/
def SteadyBelow (k : Nat) : {γ : Type} → Fields γ → Prop
  | _, nil => True
  | _, cons f rest => f.codec.decode.SteadyBelow k ∧ rest.SteadyBelow k

variable {fs : Fields γ} {f : Field α} {i k m n : Nat} {xs : γ}
  {parts : Nat → String → List Document}

theorem HasAt.steadyBelow (hf : fs.HasAt i f) (h : fs.SteadyBelow k) :
    f.codec.decode.SteadyBelow k := by
  induction hf with
  | head => exact h.1
  | tail _ ih => exact ih h.2

/-- The fields keep their values when the levels still suffice for all their parts. -/
theorem SteadyBelow.holds (h : fs.SteadyBelow k) (hn : n < k)
    (hdepth : ∀ i name, ∀ part ∈ parts i name, min n part.depth ≤ m)
    (hxs : fs.Holds n parts xs) : fs.Holds m parts xs := by
  induction fs generalizing parts with
  | nil => trivial
  | cons f rest ih =>
    obtain ⟨hx, hxs⟩ := hxs
    refine ⟨?_, ih h.2 (fun i => hdepth (i + 1)) hxs⟩
    have hparts := hdepth 0 f.name
    match parts 0 f.name, hparts, hx with
    | [], _, hx => exact hx
    | [part], hpart, hx => exact h.1 n hn part _ hx m (hpart part (List.mem_singleton_self part))
    | _ :: _ :: _, _, hx => exact hx.elim

/-- The fields of a record lie one level down. -/
theorem SteadyBelow.decode (h : fs.SteadyBelow k) (hnames : fs.names.Nodup) :
    fs.decode.SteadyBelow (k + 1) := by
  intro n hn doc xs hread m hm
  cases n with
  | zero => exact absurd hread decode_zero_ne_ok
  | succ n =>
    obtain ⟨hrecord, hxs⟩ := (decode_eq_ok_iff hnames).mp hread
    have hpos : 0 < doc.depth := by
      cases doc with
      | object _ | array _ => exact Nat.succ_pos _
      | _ => exact hrecord.elim
    obtain ⟨m, rfl⟩ := Nat.exists_eq_succ_of_ne_zero (n := m) (by omega)
    refine (decode_eq_ok_iff hnames).mpr ⟨hrecord, h.holds (Nat.lt_of_succ_lt_succ hn) ?_ hxs⟩
    intro i name part hpart
    have := Document.depth_lt_of_mem_partsFor hpart
    omega

end Fields

end CommandRouter
