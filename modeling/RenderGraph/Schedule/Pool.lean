import RenderGraph.Schedule.Basic

/-!
# The pool of render targets

A filter takes the first free target of its format that has enough attachments
for its outputs; failing that the first free target of its format, which grows;
failing that a new one.
-/

namespace RenderGraph.Schedule

variable {φ : Type} [DecidableEq φ]

/-- Whether a target of a format can be given to another filter. -/
def Lease.isFree (lease : Lease φ) (format : φ) : Bool :=
  lease.readers = 0 && lease.format = format

/-- The free targets of a format with their numbers. -/
def freeLeases (leases : List (Lease φ)) (format : φ) : List (Lease φ × Nat) :=
  leases.zipIdx.filter fun entry => entry.1.isFree format

/-- The free target that a filter with so many outputs takes. -/
def freeTarget? (leases : List (Lease φ)) (format : φ) (outputs : Nat) : Option Nat :=
  let free := freeLeases leases format
  match free.find? fun entry => outputs ≤ entry.1.attachments with
  | some entry => some entry.2
  | none => free.head?.map Prod.snd

/-- The pool after a filter took a target, the number of that target, and what is reported. -/
structure Placement (φ : Type) where
  /-- The pool. -/
  leases : List (Lease φ)
  /-- The number of the target. -/
  target : Nat
  /-- What is reported. -/
  events : List Event

/-- A target in the hands of its next user. -/
def Lease.renew (lease : Lease φ) (outputs user readers : Nat) : Lease φ :=
  { lease with
    attachments := max lease.attachments outputs
    users := lease.users ++ [user]
    readers }

/-- What is reported when a target is given to a filter with so many outputs. -/
def growth (target : Nat) (attachments outputs : Nat) : List Event :=
  if attachments < outputs then [.growingTarget target attachments outputs] else []

/-- Gives a filter a target. -/
def place (formatText : φ → String) (leases : List (Lease φ)) (user : Nat) (task : Task φ)
    (readers : Nat) : Placement φ :=
  let outputs := task.outputs.size
  match freeTarget? leases task.format outputs with
  | some target =>
    { leases := leases.modify target fun lease => lease.renew outputs user readers
      target
      events := leases[target]?.elim [] fun lease => growth target lease.attachments outputs }
  | none =>
    { leases := leases ++ [⟨⟨task.format, outputs, [user]⟩, readers⟩]
      target := leases.length
      events := [.planningTarget leases.length (formatText task.format) outputs] }

/-- The pool after a texture has been read. -/
def release (leases : List (Lease φ)) : Binding → List (Lease φ)
  | .input _ => leases
  | .attachment target _ =>
    leases.modify target fun lease => { lease with readers := lease.readers - 1 }

end RenderGraph.Schedule
