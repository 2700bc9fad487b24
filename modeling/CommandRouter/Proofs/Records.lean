import CommandRouter.Json.Record
import CommandRouter.Proofs.FreeData

/-!
# Reading what was written

A codec restores a value if it reads it back from what it writes for it, given levels enough. For a
record it is enough that its fields have distinct names and that each field is restored: by its
codec if the field is written, and by its default if it is left out.
-/

namespace CommandRouter

variable {α β γ : Type}

/-! ## Codecs -/

namespace Codec

/-- The value is read back from what is written for it. -/
def Restores (c : Codec α) (x : α) : Prop :=
  ∀ n, (c.encode x).document.depth ≤ n → c.decode n (c.encode x).document = .ok x

variable {c : Codec α} {x : α}

theorem Restores.ofJson (h : c.Restores x) : c.decode.ofJson (c.encode x) = .ok x :=
  h _ (Nat.le_refl _)

theorem restores_string (s : String) : string.Restores s := fun _ _ => rfl

theorem restores_bool (b : Bool) : bool.Restores b := fun _ _ => rfl

theorem restores_json {j : Json} (h : j.Canonical) : json.Restores j := fun _ =>
  Decoder.value_document h

/-- Data that is written as a byte is restored if the byte stands for it. -/
theorem restores_coded {kind : CodedKind} {code : α → Nat} {ofCode? : Nat → Option α}
    (hbyte : code x ≤ 255) (hcode : ofCode? (code x) = some x) :
    (coded kind code ofCode?).Restores x := by
  intro n _
  have hfits : (decide ((0 : Int) ≤ code x) && decide ((code x : Int) ≤ 255)) = true := by
    simp; omega
  show (Decoder.integer _).andThen _ n (.number (.integer (code x))) = _
  rw [Decoder.andThen, Decoder.integer, if_pos hfits]
  simp [bind, Except.bind, hcode]

theorem mapM_document {d : Document → Except DecodeError α} {encode : α → Json} {xs : List α}
    (h : ∀ x ∈ xs, d (encode x).document = .ok x) :
    (Json.documents (xs.map encode)).mapM d = .ok xs := by
  induction xs with
  | nil => rfl
  | cons x xs ih =>
    obtain ⟨hx, hxs⟩ := List.forall_mem_cons.mp h
    rw [List.map_cons, Json.documents, List.mapM_cons, hx, ih hxs]
    rfl

/-- A list is restored if its items are. -/
theorem restores_list {xs : List α} (h : ∀ x ∈ xs, c.Restores x) : c.list.Restores xs := by
  intro n hdepth
  cases n with
  | zero => cases hdepth
  | succ n =>
    have hitems := Json.depth_array_le_iff.mp hdepth
    exact mapM_document fun x hx => h x hx n (hitems _ (List.mem_map_of_mem hx))

/-- A value that is not written as null is restored as one that may be absent. -/
theorem restores_nullable_some (hnull : (c.encode x).document ≠ .null) (h : c.Restores x) :
    c.nullable.Restores (some x) := by
  intro n hdepth
  show Decoder.optional c.decode n (c.encode x).document = _
  rw [Decoder.optional.eq_2 _ _ _ hnull, h n hdepth]
  rfl

/-- A codec of data that holds further data of its kind two levels down: it restores a value if
reading one level does, wherever what lies below is restored. -/
theorem restores_of_descent {decode : Decoder α} {encode : α → Json}
    (read : Decoder α → Decoder α) {below : α → List α} {P : α → Prop}
    (hlow : ∀ n doc, n < 2 → decode n doc = read (fun _ _ => .error .unreadable) n doc)
    (hlevels : ∀ n doc, decode (n + 2) doc = read (fun _ doc => decode n doc) (n + 2) doc)
    (hdepth : ∀ x n, (encode x).document.depth ≤ n →
      ∀ y ∈ below x, (encode y).document.depth + 2 ≤ n)
    (hbelow : ∀ x, P x → ∀ y ∈ below x, P y)
    (hread : ∀ x, P x → ∀ d : Decoder α, (∀ y ∈ below x, (Codec.mk d encode).Restores y) →
      (Codec.mk (read d) encode).Restores x)
    (hx : P x) : (Codec.mk decode encode).Restores x := by
  intro n hn
  change (encode x).document.depth ≤ n at hn
  show decode n (encode x).document = .ok x
  induction n using Nat.strongRecOn generalizing x with
  | ind n ih =>
    match n with
    | n + 2 =>
      rw [hlevels]
      refine hread x hx _ (fun y hy m _ => ?_) (n + 2) hn
      have hlevel := hdepth x (n + 2) hn y hy
      exact ih n (by omega) (hbelow x hx y hy) (by omega)
    | 0 | 1 =>
      -- So few levels suffice only where nothing lies below.
      rw [hlow _ _ (by decide)]
      refine hread x hx _ (fun y hy => ?_) _ hn
      have := hdepth x _ hn y hy
      omega

end Codec

/-! ## Fields -/

namespace Field

/-- The field is restored: by its default if it is left out, and else by its codec. -/
def Restores (f : Field α) (x : α) : Prop :=
  if f.isOmitted x then f.default? = some x else f.codec.Restores x

variable {name : String} {c : Codec α} {x : α}

theorem restores_required (h : c.Restores x) : (required name c).Restores x := h

theorem restores_withDefault {default : α} (h : c.Restores x) :
    (withDefault name c default).Restores x := h

theorem restores_optional {x : Option α}
    (h : ∀ y, x = some y → (c.encode y).document ≠ .null ∧ c.Restores y) :
    (optional name c).Restores x := by
  cases x with
  | none => rfl
  | some y => exact Codec.restores_nullable_some (h y rfl).1 (h y rfl).2

theorem restores_list {xs : List α} (h : ∀ x ∈ xs, c.Restores x) : (list name c).Restores xs := by
  cases xs with
  | nil => rfl
  | cons x xs => exact Codec.restores_list h

theorem restores_flag (b : Bool) : (flag name).Restores b := by
  cases b with
  | false => rfl
  | true => exact Codec.restores_bool true

end Field

/-! ## Records -/

namespace Fields

/-- The names of the fields. -/
def names : {γ : Type} → Fields γ → List String
  | _, nil => []
  | _, cons f rest => f.name :: rest.names

/-- All fields are restored. -/
def Restores : {γ : Type} → Fields γ → γ → Prop
  | _, nil, _ => True
  | _, cons f rest, (x, xs) => f.Restores x ∧ rest.Restores xs

/-- The slots of a record, that of the first field before the others. -/
def consSlots {f : Field α} {rest : Fields β} (slot : Option α) (others : rest.Slots) :
    (cons f rest).Slots := (slot, others)

/-- The slots after what was written has been read. -/
def filledSlots : {γ : Type} → (fs : Fields γ) → γ → fs.Slots
  | _, nil, _ => ()
  | _, cons f rest, (x, xs) =>
    consSlots (if f.isOmitted x then none else some x) (rest.filledSlots xs)

variable {f : Field α} {rest : Fields β} {n : Nat} {slot : Option α} {others : rest.Slots}

theorem name_mem_of_mem_members (fs : Fields γ) (xs : γ) :
    ∀ m ∈ fs.members xs, m.1 ∈ fs.names := by
  induction fs with
  | nil => exact fun m hm => nomatch hm
  | cons f rest ih =>
    obtain ⟨x, xs⟩ := xs
    intro m hm
    rw [members] at hm
    split at hm
    · exact List.mem_cons_of_mem _ (ih xs m hm)
    · rcases List.mem_cons.mp hm with rfl | hm
      · exact List.mem_cons_self
      · exact List.mem_cons_of_mem _ (ih xs m hm)

theorem mem_members_of_written {x : α} {xs : β} (hwritten : f.isOmitted x = false) :
    (f.name, f.codec.encode x) ∈ (cons f rest).members (x, xs) := by
  rw [members, if_neg (ne_true_of_eq_false hwritten)]
  exact List.mem_cons_self

theorem mem_members_of_mem {x : α} {xs : β} {m : String × Json} (hm : m ∈ rest.members xs) :
    m ∈ (cons f rest).members (x, xs) := by
  rw [members]
  split
  · exact hm
  · exact List.mem_cons_of_mem _ hm

/-- The items of an array that is written for a field lie two levels down. -/
theorem depth_of_mem_items {fs : Fields γ} {xs : γ} {name : String} {items : List Json} {j : Json}
    (hwritten : (name, .array items) ∈ fs.members xs) (hj : j ∈ items)
    (hdepth : (fs.encode xs).document.depth ≤ n) : j.document.depth + 2 ≤ n := by
  match n, hdepth with
  | m + 1, hdepth =>
    have hlist := Json.depth_object_le_iff.mp hdepth _ hwritten
    match m, hlist with
    | m + 1, hlist =>
      have := Json.depth_array_le_iff.mp hlist j hj
      omega

theorem close_consSlots :
    (cons f rest).close (consSlots slot others) =
      match slot.or f.default? with
      | some x => (rest.close others).map fun xs => (x, xs)
      | none => .error (.missing f.name) := rfl

/-- What was left out is given by its default. -/
theorem close_filledSlots (fs : Fields γ) (xs : γ) (h : fs.Restores xs) :
    fs.close (fs.filledSlots xs) = .ok xs := by
  induction fs with
  | nil => rfl
  | cons f rest ih =>
    obtain ⟨x, xs⟩ := xs
    obtain ⟨hf, hrest⟩ := h
    -- A slot is empty only where the value is the default.
    have hslot : (if f.isOmitted x then none else some x).or f.default? = some x := by
      rw [Field.Restores] at hf
      split at hf
      · rename_i homitted
        rw [if_pos homitted, Option.none_or, hf]
      · rename_i hwritten
        rw [if_neg hwritten, Option.some_or]
    rw [filledSlots, close_consSlots, hslot, ih xs hrest]
    rfl

theorem visit_cons_self {doc : Document} :
    (cons f rest).visit n (consSlots none others) (some f.name, doc) =
      (f.codec.decode n doc).map fun x => consSlots (some x) others := by
  have hput : (cons f rest).put n f.name doc (consSlots none others) =
      some ((f.codec.decode n doc).map fun x => consSlots (some x) others) := if_pos rfl
  rw [visit, hput]
  rfl

/-- A member that is not called like the first field is read into the slots of the others. -/
theorem visit_cons_of_ne {name : String} {doc : Document} (hne : name ≠ f.name) :
    (cons f rest).visit n (consSlots slot others) (some name, doc) =
      (rest.visit n others (some name, doc)).map (consSlots slot) := by
  have hput : (cons f rest).put n name doc (consSlots slot others) =
      (rest.put n name doc others).map (Except.map (consSlots slot)) := if_neg hne
  rw [visit, visit, hput]
  cases rest.put n name doc others <;> rfl

theorem foldlM_visit_cons_of_ne {ms : List (String × Json)} (hne : ∀ m ∈ ms, m.1 ≠ f.name) :
    (Json.memberDocuments ms).foldlM ((cons f rest).visit n) (consSlots slot others) =
      ((Json.memberDocuments ms).foldlM (rest.visit n) others).map (consSlots slot) := by
  induction ms generalizing others with
  | nil => rfl
  | cons m ms ih =>
    obtain ⟨hm, hms⟩ := List.forall_mem_cons.mp hne
    rw [Json.memberDocuments, List.foldlM_cons, List.foldlM_cons, visit_cons_of_ne hm]
    cases rest.visit n others (some m.1, m.2.document) with
    | error e => rfl
    | ok others => exact ih hms

/-- Reading what was written fills the slots. -/
theorem foldlM_visit_members (fs : Fields γ) (xs : γ) (hnames : fs.names.Nodup)
    (h : fs.Restores xs) (hdepth : ∀ m ∈ fs.members xs, m.2.document.depth ≤ n) :
    (Json.memberDocuments (fs.members xs)).foldlM (fs.visit n) fs.noSlots =
      .ok (fs.filledSlots xs) := by
  induction fs with
  | nil => rfl
  | cons f rest ih =>
    obtain ⟨x, xs⟩ := xs
    obtain ⟨hf, hrest⟩ := h
    obtain ⟨hname, hnames⟩ := List.nodup_cons.mp hnames
    have hothers : ∀ m ∈ rest.members xs, m.1 ≠ f.name := fun m hm heq =>
      hname (heq ▸ name_mem_of_mem_members rest xs m hm)
    have hempty : (cons f rest).noSlots = consSlots none rest.noSlots := rfl
    -- The first slot stays empty or is filled at once; then the members of the other fields pass it
    -- by, and the induction hypothesis speaks of them.
    rw [Field.Restores] at hf
    rw [members] at hdepth ⊢
    rw [filledSlots, hempty]
    split at hf
    · rename_i homitted
      rw [if_pos homitted] at hdepth ⊢
      rw [foldlM_visit_cons_of_ne hothers, ih xs hnames hrest hdepth, if_pos homitted]
      rfl
    · rename_i hwritten
      rw [if_neg hwritten] at hdepth ⊢
      obtain ⟨hx, hxs⟩ := List.forall_mem_cons.mp hdepth
      rw [Json.memberDocuments, List.foldlM_cons, visit_cons_self, hf n hx]
      show List.foldlM _ (consSlots (some x) rest.noSlots) _ = _
      rw [foldlM_visit_cons_of_ne hothers, ih xs hnames hrest hxs, if_neg hwritten]
      rfl

/-- A record is read back from what is written for it. -/
theorem decode_encode {fs : Fields γ} {xs : γ} (hnames : fs.names.Nodup) (h : fs.Restores xs)
    (hdepth : (fs.encode xs).document.depth ≤ n) :
    fs.decode n (fs.encode xs).document = .ok xs := by
  cases n with
  | zero => cases hdepth
  | succ n =>
    have hread := foldlM_visit_members fs xs hnames h (Json.depth_object_le_iff.mp hdepth)
    rw [encode, Json.document, decode, hread]
    exact close_filledSlots fs xs h

/-- Data that is written as a record is restored if its fields are. -/
theorem restores_record {fs : Fields γ} {xs : γ} {x : α} {f : γ → Except DecodeError α}
    {encode : α → Json} (hnames : fs.names.Nodup) (hwritten : encode x = fs.encode xs)
    (hgiven : f xs = .ok x) (h : fs.Restores xs) :
    (Codec.mk (fs.decode.andThen f) encode).Restores x := by
  intro n hdepth
  change (encode x).document.depth ≤ n at hdepth
  show fs.decode.andThen f n (encode x).document = .ok x
  rw [hwritten] at hdepth ⊢
  rw [Decoder.andThen, decode_encode hnames h hdepth]
  exact hgiven

end Fields

end CommandRouter
