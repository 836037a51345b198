import RenderGraph.Action
import Mathlib.Data.List.Forall2

/-!
# How actions end

An action succeeds from every state that satisfies a condition, and its result
and the state it leaves are known; or it may fail, and that is known, too. How
actions end in sequence, over a list or as a fold is put together from how each
of them ends.
-/

namespace RenderGraph.Action

variable {σ ε ε' α β : Type}

/-- From every state that satisfies a condition the action gives a result, and result and state
afterwards are as stated. -/
def Succeeds (action : Action σ ε α) (before : σ → Prop) (after : α → σ → Prop) : Prop :=
  ∀ state, before state → ∃ a, (action state).result = .ok a ∧ after a (action state).state

/-- From every state that satisfies a condition the action ends as stated: its result and the state
afterwards are of one kind, or its failure and that state are of another. -/
def Ends (action : Action σ ε α) (before : σ → Prop) (after : α → σ → Prop)
    (failed : ε → σ → Prop) : Prop :=
  ∀ state, before state → (∀ a, (action state).result = .ok a → after a (action state).state) ∧
    ∀ e, (action state).result = .error e → failed e (action state).state

section Sequence

variable {action : Action σ ε α} {state : σ}

/-- After a result the second of two actions decides. -/
theorem bind_of_ok {a : α} (h : (action state).result = .ok a) (next : α → Action σ ε β) :
    ((action >>= next) state).result = (next a (action state).state).result ∧
      ((action >>= next) state).state = (next a (action state).state).state := by
  simp [Bind.bind, bind, h]

/-- A failure is the failure of the whole sequence. -/
theorem bind_of_error {e : ε} (h : (action state).result = .error e)
    (next : α → Action σ ε β) :
    ((action >>= next) state).result = .error e := by
  simp [Bind.bind, bind, h]

/-- Nothing is done after a failure. -/
theorem state_of_error {e : ε} (h : (action state).result = .error e)
    (next : α → Action σ ε β) :
    ((action >>= next) state).state = (action state).state := by
  simp [Bind.bind, bind, h]

/-- A sequence has a result when its first part has one and the second part has one for it. -/
theorem bind_eq_ok_iff {next : α → Action σ ε β} {b : β} :
    ((action >>= next) state).result = .ok b ↔
      ∃ a, (action state).result = .ok a ∧ (next a (action state).state).result = .ok b := by
  cases h : (action state).result with
  | error e => simp [bind_of_error h next]
  | ok a => simp [(bind_of_ok h next).1]

/-- A result does not depend on the form of the failures. -/
theorem mapError_eq_ok_iff {f : ε → ε'} {a : α} :
    (action.mapError f state).result = .ok a ↔ (action state).result = .ok a := by
  simp only [mapError]
  cases (action state).result <;> simp [Except.mapError]

/-- A function that is applied to the result of an action changes nothing else. -/
theorem map_eq (f : α → β) (action : Action σ ε α) (state : σ) :
    ((f <$> action) state).result = (action state).result.map f ∧
      ((f <$> action) state).state = (action state).state := by
  simp only [map_eq_pure_bind]
  cases h : (action state).result with
  | error e => simp [Bind.bind, bind, h, Except.map]
  | ok a => exact ⟨(bind_of_ok h _).1, (bind_of_ok h _).2⟩

/-- Actions over a list give a result for each of its members. -/
theorem length_of_mapM {f : α → Action σ ε β} {list : List α} {results : List β} {state : σ}
    (h : (list.mapM f state).result = .ok results) : results.length = list.length := by
  induction list generalizing results state with
  | nil =>
    obtain rfl := Except.ok.inj h
    rfl
  | cons a more ih =>
    rw [List.mapM_cons] at h
    obtain ⟨b, -, h⟩ := bind_eq_ok_iff.mp h
    obtain ⟨bs, hbs, h⟩ := bind_eq_ok_iff.mp h
    obtain rfl := Except.ok.inj h
    rw [List.length_cons, List.length_cons, ih hbs]

end Sequence

section Endings

/-- Where the result is known, that is what is asked of. -/
theorem ends_of_ok {P : α → Prop} {F : ε → Prop} {a : α} (h : P a) :
    (∀ b, (Except.ok a : Except ε α) = .ok b → P b) ∧
      ∀ e, (Except.ok a : Except ε α) = .error e → F e :=
  ⟨fun _ hb => Except.ok.inj hb ▸ h, nofun⟩

/-- Where the failure is known, that is what is asked of. -/
theorem ends_of_error {P : α → Prop} {F : ε → Prop} {e : ε} (h : F e) :
    (∀ a, (Except.error e : Except ε α) = .ok a → P a) ∧
      ∀ d, (Except.error e : Except ε α) = .error d → F d :=
  ⟨nofun, fun _ hd => Except.error.inj hd ▸ h⟩

variable {action : Action σ ε α} {before : σ → Prop} {after : α → σ → Prop}
  {failed : ε → σ → Prop}

/-- A result that is there already is given in any state. -/
theorem Ends.pure {a : α} (h : ∀ state, before state → after a state) :
    Ends (Pure.pure a : Action σ ε α) before after failed :=
  fun state hb => ends_of_ok (h state hb)

/-- Two actions in a row end as the second one does, or fail as the first one does. -/
theorem Ends.bind {next : α → Action σ ε β} {last : β → σ → Prop}
    (h : Ends action before after failed) (k : ∀ a, Ends (next a) (after a) last failed) :
    Ends (action >>= next) before last failed := by
  intro state hb
  cases hr : (action state).result with
  | ok a =>
    obtain ⟨hres, hst⟩ := bind_of_ok hr next
    rw [hres, hst]
    exact k a _ ((h state hb).1 a hr)
  | error e =>
    rw [bind_of_error hr next, state_of_error hr next]
    exact ends_of_error ((h state hb).2 e hr)

/-- What holds afterwards can be weakened. -/
theorem Ends.imp {weaker : α → σ → Prop} {worse : ε → σ → Prop}
    (h : Ends action before after failed) (hw : ∀ a state, after a state → weaker a state)
    (hf : ∀ e state, failed e state → worse e state) : Ends action before weaker worse :=
  fun state hb => ⟨fun a ha => hw a _ ((h state hb).1 a ha),
    fun e he => hf e _ ((h state hb).2 e he)⟩

/-- The failures of an action can be put into another form. -/
theorem Ends.mapError {f : ε → ε'} {failed : ε' → σ → Prop}
    (h : Ends action before after fun e state => failed (f e) state) :
    Ends (action.mapError f) before after failed := by
  intro state hb
  obtain ⟨hok, herror⟩ := h state hb
  simp only [Action.mapError]
  cases hr : (action state).result with
  | ok a => exact ends_of_ok (hok a hr)
  | error e => exact ends_of_error (herror e hr)

/-- Actions over a list end as stated if each does after those before it, and their results are
related to the list. -/
theorem Ends.mapM {f : α → Action σ ε β} {list : List α} {R : α → β → Prop}
    {I : List β → σ → Prop}
    (h : ∀ done, ∀ a ∈ list, Ends (f a) (I done) (fun b s => I (done ++ [b]) s ∧ R a b) failed)
    (done : List β) : Ends (list.mapM f) (I done)
      (fun results s => I (done ++ results) s ∧ List.Forall₂ R list results) failed := by
  induction list generalizing done with
  | nil =>
    rw [List.mapM_nil]
    exact .pure fun state hb => ⟨by rwa [List.append_nil], .nil⟩
  | cons a rest ih =>
    rw [List.mapM_cons]
    have hrest := ih fun done x hx => h done x (List.mem_cons_of_mem a hx)
    refine (h done a List.mem_cons_self).bind fun b => ?_
    -- The relation of the first result does not depend on the state, so it outlasts the rest.
    by_cases hab : R a b
    · have hfirst : Ends (rest.mapM f) (fun s => I (done ++ [b]) s ∧ R a b)
          (fun results s => I (done ++ [b] ++ results) s ∧ List.Forall₂ R rest results) failed :=
        fun state hb => hrest (done ++ [b]) state hb.1
      refine hfirst.bind fun results => .pure fun state hs => ?_
      rw [List.append_assoc, List.singleton_append] at hs
      exact ⟨hs.1, .cons hab hs.2⟩
    · exact fun state hb => absurd hb.2 hab

/-- A fold of actions ends as stated if each of them does after those before it. -/
theorem Ends.foldlM {f : β → α → Action σ ε β} {list : List α}
    {I : List α → β → σ → Prop}
    (h : ∀ done b, ∀ a ∈ list, Ends (f b a) (I done b) (I (done ++ [a])) failed)
    (done : List α) (b : β) :
    Ends (list.foldlM f b) (I done b) (I (done ++ list)) failed := by
  induction list generalizing done b with
  | nil =>
    rw [List.foldlM_nil]
    exact .pure fun state hb => by rwa [List.append_nil]
  | cons a rest ih =>
    rw [List.foldlM_cons]
    have hrest := ih fun done b x hx => h done b x (List.mem_cons_of_mem a hx)
    refine (h done b a List.mem_cons_self).bind fun b' => ?_
    simpa using hrest (done ++ [a]) b'

/-- A loop ends as stated if each round keeps an invariant and brings a number down. -/
theorem Ends.repeatWhile {more : α → Bool} {body : α → Action σ ε α} {I : α → σ → Prop}
    {size : α → Nat} (h : ∀ a, more a = true →
      Ends (body a) (I a) (fun b state => I b state ∧ size b < size a) failed) (a : α) :
    Ends (Action.repeatWhile more body a) (I a) (fun b state => I b state ∧ more b = false)
      failed := by
  intro state hi
  rw [Action.repeatWhile]
  -- The events pile up from round to round, so they are left open in the induction.
  generalize ([] : List Event) = events
  induction hn : size a using Nat.strongRecOn generalizing a state events with
  | ind n ih =>
    rw [loop]
    cases hm : more a with
    | false =>
      simp only [hm, Bool.false_eq_true, if_false]
      exact ends_of_ok ⟨hi, hm⟩
    | true =>
      obtain ⟨hok, herror⟩ := h a hm state hi
      simp only [hm, if_true]
      cases hbody : (body a state).result with
      | error e =>
        rw [loop]
        exact ends_of_error (herror e hbody)
      | ok b =>
        obtain ⟨hb, hsize⟩ := hok b hbody
        exact ih (size b) (hn ▸ hsize) b _ hb _ rfl

end Endings

section Rules

variable {action : Action σ ε α} {before : σ → Prop} {after : α → σ → Prop}

/-- An action succeeds when it ends as stated and never with a failure. -/
theorem succeeds_iff : Succeeds action before after ↔
    Ends action before after fun _ _ => False := by
  constructor
  · intro h state hb
    obtain ⟨a, ha, hs⟩ := h state hb
    exact ⟨fun b hb => Except.ok.inj (ha.symm.trans hb) ▸ hs,
      fun e he => by rw [ha] at he; cases he⟩
  · intro h state hb
    cases hr : (action state).result with
    | ok a => exact ⟨a, rfl, (h state hb).1 a hr⟩
    | error e => exact ((h state hb).2 e hr).elim

/-- A result that is there already is given in any state. -/
theorem Succeeds.pure {a : α} (h : ∀ state, before state → after a state) :
    Succeeds (Pure.pure a : Action σ ε α) before after :=
  succeeds_iff.mpr (.pure h)

/-- Two actions in a row succeed if each does where it is run. -/
theorem Succeeds.bind {next : α → Action σ ε β} {last : β → σ → Prop}
    (h : Succeeds action before after) (k : ∀ a, Succeeds (next a) (after a) last) :
    Succeeds (action >>= next) before last :=
  succeeds_iff.mpr ((succeeds_iff.mp h).bind fun a => succeeds_iff.mp (k a))

/-- What holds afterwards can be weakened. -/
theorem Succeeds.imp {weaker : α → σ → Prop} (h : Succeeds action before after)
    (hw : ∀ a state, after a state → weaker a state) : Succeeds action before weaker :=
  succeeds_iff.mpr ((succeeds_iff.mp h).imp hw fun _ _ => id)

/-- An action that succeeds does not depend on the form of its failures. -/
theorem Succeeds.mapError (h : Succeeds action before after) (f : ε → ε') :
    Succeeds (action.mapError f) before after :=
  succeeds_iff.mpr (.mapError (succeeds_iff.mp h))

/-- Actions over a list succeed if each does after those before it, and their results are related
to the list. -/
theorem Succeeds.mapM {f : α → Action σ ε β} {list : List α} {R : α → β → Prop}
    {I : List β → σ → Prop}
    (h : ∀ done, ∀ a ∈ list, Succeeds (f a) (I done) fun b s => I (done ++ [b]) s ∧ R a b)
    (done : List β) : Succeeds (list.mapM f) (I done)
      fun results s => I (done ++ results) s ∧ List.Forall₂ R list results :=
  succeeds_iff.mpr (.mapM (fun done a ha => succeeds_iff.mp (h done a ha)) done)

/-- A fold of actions succeeds if each of them does after those before it. -/
theorem Succeeds.foldlM {f : β → α → Action σ ε β} {list : List α}
    {I : List α → β → σ → Prop}
    (h : ∀ done b, ∀ a ∈ list, Succeeds (f b a) (I done b) (I (done ++ [a])))
    (done : List α) (b : β) :
    Succeeds (list.foldlM f b) (I done b) (I (done ++ list)) :=
  succeeds_iff.mpr (.foldlM (fun done b a ha => succeeds_iff.mp (h done b a ha)) done b)

/-- A loop succeeds if each round does, keeps an invariant and brings a number down. -/
theorem Succeeds.repeatWhile {more : α → Bool} {body : α → Action σ ε α} {I : α → σ → Prop}
    {size : α → Nat} (h : ∀ a, more a = true →
      Succeeds (body a) (I a) fun b state => I b state ∧ size b < size a) (a : α) :
    Succeeds (Action.repeatWhile more body a) (I a) fun b state => I b state ∧ more b = false :=
  succeeds_iff.mpr (.repeatWhile (fun a hm => succeeds_iff.mp (h a hm)) a)

end Rules

/-- Whatever becomes of the action, what holds of the state before it holds of the state that it
leaves. -/
def Keeps (action : Action σ ε α) (I : σ → Prop) : Prop :=
  ∀ state, I state → I (action state).state

section Invariants

variable {action : Action σ ε α} {I : σ → Prop}

/-- An action that leaves the state alone keeps everything. -/
theorem Keeps.of_state_eq (h : ∀ state, (action state).state = state) : Keeps action I :=
  fun state hi => (h state).symm ▸ hi

/-- Two actions in a row keep what each of them keeps. -/
theorem Keeps.bind {next : α → Action σ ε β} (h : Keeps action I)
    (k : ∀ a, Keeps (next a) I) : Keeps (action >>= next) I := by
  intro state hi
  cases hr : (action state).result with
  | ok a =>
    rw [(bind_of_ok hr next).2]
    exact k a _ (h state hi)
  | error e => exact state_of_error hr next ▸ h state hi

/-- Keeping a property is ending with it, with a result or without. -/
theorem keeps_iff : Keeps action I ↔ Ends action I (fun _ => I) fun _ => I := by
  refine ⟨fun h state hi => ⟨fun _ _ => h state hi, fun _ _ => h state hi⟩, fun h state hi => ?_⟩
  cases hr : (action state).result with
  | ok a => exact (h state hi).1 a hr
  | error e => exact (h state hi).2 e hr

/-- What is kept does not depend on the form of the failures. -/
theorem Keeps.mapError (h : Keeps action I) (f : ε → ε') : Keeps (action.mapError f) I := h

/-- Actions that give a result for each member of a list keep what each of them keeps. -/
theorem Keeps.mapM {f : α → Action σ ε β} (h : ∀ a, Keeps (f a) I) (list : List α) :
    Keeps (list.mapM f) I := by
  have hends : Ends (list.mapM f) I
      (fun results state => I state ∧ List.Forall₂ (fun _ _ => True) list results) fun _ => I :=
    .mapM (I := fun _ => I) (fun _ a _ => (keeps_iff.mp (h a)).imp
      (fun _ _ hi => ⟨hi, trivial⟩) fun _ _ => id) []
  exact keeps_iff.mpr (hends.imp (fun _ _ => And.left) fun _ _ => id)

/-- A loop keeps what each round keeps, if each round brings a number down. -/
theorem Keeps.repeatWhile {more : α → Bool} {body : α → Action σ ε α} (size : α → Nat)
    (h : ∀ a, Keeps (body a) I) (hs : ∀ a state b, more a = true →
      (body a state).result = .ok b → size b < size a) (a : α) :
    Keeps (Action.repeatWhile more body a) I := by
  have round : ∀ a, more a = true →
      Ends (body a) I (fun b state => I state ∧ size b < size a) fun _ => I :=
    fun a hm state hi =>
      ⟨fun b hb => ⟨h a state hi, hs a state b hm hb⟩, fun _ _ => h a state hi⟩
  exact keeps_iff.mpr ((Ends.repeatWhile (I := fun _ => I) round a).imp (fun _ _ => And.left)
    fun _ _ => id)

/-- A fold of actions keeps what each of them keeps. -/
theorem Keeps.foldlM {f : β → α → Action σ ε β} (h : ∀ b a, Keeps (f b a) I) (list : List α)
    (b : β) : Keeps (list.foldlM f b) I :=
  keeps_iff.mpr (.foldlM (I := fun _ _ => I) (fun _ b a _ => keeps_iff.mp (h b a)) [] b)

/-- Actions over a list keep what each of them keeps. -/
theorem Keeps.forM {f : α → Action σ ε PUnit} (h : ∀ a, Keeps (f a) I) (list : List α) :
    Keeps (list.forM f) I := by
  induction list with
  | nil => exact .of_state_eq fun _ => rfl
  | cons a rest ih => exact (h a).bind fun _ => ih

end Invariants

end RenderGraph.Action
