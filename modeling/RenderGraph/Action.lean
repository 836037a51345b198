import RenderGraph.Event

/-!
# Actions on a state

An action reads and changes a state, reports events, and either gives a result
or fails. A failure keeps the changes and the events that came before it.
-/

namespace RenderGraph

/-- What an action leaves behind. -/
structure Reply (σ ε α : Type) where
  /-- The state after the action. -/
  state : σ
  /-- What was reported, in order. -/
  events : List Event
  /-- The result, or why there is none. -/
  result : Except ε α

/-- A computation on a state that may fail. -/
def Action (σ ε α : Type) : Type := σ → Reply σ ε α

namespace Action

variable {σ τ ε ε' α β : Type}

/-- Runs an action on a state. -/
def run (action : Action σ ε α) (state : σ) : Reply σ ε α :=
  action state

/-- Gives a result and does nothing else. -/
def pure (a : α) : Action σ ε α := fun state => ⟨state, [], .ok a⟩

/-- Runs an action, then one that depends on its result. -/
def bind (action : Action σ ε α) (next : α → Action σ ε β) : Action σ ε β := fun state =>
  let first := action state
  match first.result with
  | .error e => ⟨first.state, first.events, .error e⟩
  | .ok a =>
    let second := next a first.state
    ⟨second.state, first.events ++ second.events, second.result⟩

instance : Monad (Action σ ε) where
  pure := pure
  bind := bind

/-- Applying nothing to a result changes nothing. -/
theorem id_map_action (action : Action σ ε α) : id <$> action = action := by
  funext state
  simp only [Functor.map, bind, Function.comp, pure]
  rcases h : action state with ⟨s, events, _ | a⟩ <;> simp

/-- A result that is there already is handed on. -/
theorem pure_bind_action (a : α) (next : α → Action σ ε β) :
    (Pure.pure a : Action σ ε α) >>= next = next a := by
  funext state
  simp [Bind.bind, Pure.pure, bind, pure]

/-- Actions in a row can be grouped either way. -/
theorem bind_assoc_action {γ : Type} (action : Action σ ε α) (next : α → Action σ ε β)
    (last : β → Action σ ε γ) :
    action >>= next >>= last = action >>= fun a => next a >>= last := by
  funext state
  simp only [Bind.bind, bind]
  rcases action state with ⟨s, events, _ | a⟩
  · rfl
  · rcases h : next a s with ⟨s', events', _ | b⟩ <;> simp [h]

instance : LawfulMonad (Action σ ε) :=
  LawfulMonad.mk' _ id_map_action pure_bind_action bind_assoc_action

/-- The current state. -/
def get : Action σ ε σ := fun state => ⟨state, [], .ok state⟩

/-- Changes the state. -/
def modify (f : σ → σ) : Action σ ε Unit := fun state => ⟨f state, [], .ok ()⟩

/-- Reports events. -/
def report (events : List Event) : Action σ ε Unit := fun state => ⟨state, events, .ok ()⟩

/-- Fails. -/
def fail (e : ε) : Action σ ε α := fun state => ⟨state, [], .error e⟩

/-- Gives a result that is there already, or fails as it does. -/
def ofExcept (result : Except ε α) : Action σ ε α := fun state => ⟨state, [], result⟩

/-- Turns the failure of an action into another one. -/
def mapError (f : ε → ε') (action : Action σ ε α) : Action σ ε' α := fun state =>
  let reply := action state
  ⟨reply.state, reply.events, reply.result.mapError f⟩

/-- Runs an action and gives its failure as a result. -/
def attempt (action : Action σ ε α) : Action σ ε' (Except ε α) := fun state =>
  let reply := action state
  ⟨reply.state, reply.events, .ok reply.result⟩

section

variable (more : α → Bool) (body : α → Action σ ε α)

/-- Goes on from a reply: an action is repeated on the latest result for as long as a condition
holds of it. Nothing is known of a loop but this equation, so nothing of one that never ends. -/
def loop (reply : Reply σ ε α) : Reply σ ε α :=
  match reply.result with
  | .error _ => reply
  | .ok a =>
    if more a then
      let round := body a reply.state
      -- Unlike a call, the tactic leaves no position of the source text in the definition.
      by apply loop; exact ⟨round.state, reply.events ++ round.events, round.result⟩
    else reply
partial_fixpoint

/-- Repeats an action on its latest result for as long as a condition holds of it. -/
def repeatWhile (a : α) : Action σ ε α := fun state =>
  loop more body ⟨state, [], .ok a⟩

end

/-- Runs an action on a part of a larger state. -/
def zoom (part : τ → σ) (put : σ → τ → τ) (action : Action σ ε α) : Action τ ε α := fun whole =>
  let reply := action (part whole)
  ⟨put reply.state whole, reply.events, reply.result⟩

end Action

end RenderGraph
