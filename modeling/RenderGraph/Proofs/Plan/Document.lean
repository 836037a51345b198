import RenderGraph.Plan.Document
import RenderGraph.Proofs.Json.RoundTrip
import RenderGraph.Proofs.Wiring

/-!
# The document of a plan loses nothing

The document of a plan is read back from its text, and every part of the plan has its
place in it, so two plans with the same text are the same plan.
-/

namespace RenderGraph

open Json (Plain)
open Schedule (Binding)

section Parts

variable (names : AnchorNames)

/-- Ends of connections with the same document are the same. -/
theorem Anchor.toJson_injective : Function.Injective (Anchor.toJson names) := by
  intro a b h
  cases a <;> cases b <;> simp_all [Anchor.toJson]

/-- So are connections. -/
theorem Connection.toJson_injective : Function.Injective (Connection.toJson names) := by
  intro c d h
  simp only [toJson, Json.object.injEq, List.cons.injEq, Prod.mk.injEq, Json.natural.injEq,
    true_and, and_true] at h
  obtain ⟨hsource, hsourcePort, hdestination, hdestinationPort⟩ := h
  have hs := Anchor.toJson_injective names hsource
  have hd := Anchor.toJson_injective names hdestination
  exact Connection.ext_ends (Prod.ext hs hsourcePort) (Prod.ext hd hdestinationPort)

/-- So are bindings, whose documents name their kinds. -/
theorem Schedule.Binding.toJson_injective : Function.Injective Binding.toJson := by
  intro a b h
  cases a <;> cases b <;> simp_all [Binding.toJson]

/-- So are planned filters. -/
theorem PlannedFilter.toJson_injective : Function.Injective PlannedFilter.toJson := by
  rintro ⟨index, path, typeName, target, inputs⟩ ⟨index', path', typeName', target', inputs'⟩ h
  simp only [toJson, Json.object.injEq, List.cons.injEq, Prod.mk.injEq, Json.natural.injEq,
    Json.text.injEq, Json.array.injEq, true_and, and_true] at h
  obtain ⟨rfl, rfl, rfl, rfl, hinputs⟩ := h
  rw [List.map_injective_iff.mpr Binding.toJson_injective hinputs]

/-- Lists of numbers with the same document are the same. -/
theorem Json.naturals_injective : Function.Injective Json.naturals := by
  intro a b h
  exact List.map_injective_iff.mpr (fun _ _ => Json.natural.inj) (Json.array.inj h)

/-- So are lists of texts. -/
theorem Json.texts_injective : Function.Injective Json.texts := by
  intro a b h
  exact List.map_injective_iff.mpr (fun _ _ => Json.text.inj) (Json.array.inj h)

/-- So are planned targets. -/
theorem PlannedTarget.toJson_injective : Function.Injective PlannedTarget.toJson := by
  rintro ⟨id, format, attachments, users⟩ ⟨id', format', attachments', users'⟩ h
  simp only [toJson, Json.object.injEq, List.cons.injEq, Prod.mk.injEq, Json.natural.injEq,
    Json.text.injEq, true_and, and_true] at h
  obtain ⟨rfl, rfl, rfl, husers⟩ := h
  rw [Json.naturals_injective husers]

/-- So are planned outputs. -/
theorem PlannedOutput.toJson_injective : Function.Injective PlannedOutput.toJson := by
  rintro ⟨name, binding⟩ ⟨name', binding'⟩ h
  simp only [toJson, Json.object.injEq, List.cons.injEq, Prod.mk.injEq, Json.text.injEq,
    true_and, and_true] at h
  obtain ⟨rfl, hbinding⟩ := h
  rw [Schedule.Binding.toJson_injective hbinding]

end Parts

/-- Plans with the same document are the same. -/
theorem Plan.toJson_injective : Function.Injective Plan.toJson := by
  rintro ⟨name, filters, schedule, targets, connections, inputs, outputs⟩
    ⟨name', filters', schedule', targets', connections', inputs', outputs'⟩ h
  simp only [toJson, Json.object.injEq, List.cons.injEq, Prod.mk.injEq, Json.text.injEq,
    Json.array.injEq, true_and, and_true] at h
  obtain ⟨rfl, hfilters, hschedule, htargets, hconnections, hinputs, houtputs⟩ := h
  rw [List.map_injective_iff.mpr PlannedFilter.toJson_injective hfilters,
    Json.naturals_injective hschedule,
    List.map_injective_iff.mpr PlannedTarget.toJson_injective htargets,
    List.map_injective_iff.mpr (Connection.toJson_injective anchorNames) hconnections,
    Json.texts_injective hinputs,
    List.map_injective_iff.mpr PlannedOutput.toJson_injective houtputs]

section Reading

/-- The document of an end of a connection is plain. -/
theorem Anchor.toJson_plain (names : AnchorNames) (anchor : Anchor) :
    (anchor.toJson names).Plain := by
  cases anchor with
  | boundary => exact .text _
  | member index => exact .cons (.natural index) .empty

/-- So is that of a connection. -/
theorem Connection.toJson_plain (names : AnchorNames) (c : Connection Anchor) :
    (c.toJson names).Plain :=
  .cons (c.source.toJson_plain names) <| .cons (.natural _) <|
    .cons (c.destination.toJson_plain names) <| .cons (.natural _) .empty

/-- So is that of a binding. -/
theorem Schedule.Binding.toJson_plain (binding : Binding) : binding.toJson.Plain := by
  cases binding with
  | input port => exact .cons (.text _) <| .cons (.natural port) .empty
  | attachment target index =>
    exact .cons (.text _) <| .cons (.natural target) <| .cons (.natural index) .empty

/-- So is that of a planned filter. -/
theorem PlannedFilter.toJson_plain (filter : PlannedFilter) : filter.toJson.Plain :=
  .cons (.natural _) <| .cons (.text _) <| .cons (.text _) <| .cons (.natural _) <|
    .cons (.map fun binding _ => binding.toJson_plain) .empty

/-- So is that of a planned target. -/
theorem PlannedTarget.toJson_plain (target : PlannedTarget) : target.toJson.Plain :=
  .cons (.natural _) <| .cons (.text _) <| .cons (.natural _) <|
    .cons (.map fun user _ => .natural user) .empty

/-- So is that of a planned output. -/
theorem PlannedOutput.toJson_plain (output : PlannedOutput) : output.toJson.Plain :=
  .cons (.text _) <| .cons output.binding.toJson_plain .empty

/-- So is that of a plan. -/
theorem Plan.toJson_plain (plan : Plan) : plan.toJson.Plain :=
  .cons (.text _) <| .cons (.map fun filter _ => filter.toJson_plain) <|
    .cons (.map fun i _ => .natural i) <| .cons (.map fun target _ => target.toJson_plain) <|
    .cons (.map fun c _ => c.toJson_plain anchorNames) <| .cons (.map fun name _ => .text name) <|
    .cons (.map fun output _ => output.toJson_plain) .empty

end Reading

/-- The text of a plan loses nothing, whatever names, paths and formats there are in it: the
document of the plan is read back from the text, and two plans have the same text only if they are
the same in every part. -/
theorem Plan.text_eq_iff (a b : Plan) :
    Json.ofText? a.text = some a.toJson ∧ (a.text = b.text ↔ a = b) := by
  have hread : ∀ plan : Plan, Json.ofText? plan.text = some plan.toJson :=
    fun plan => plan.toJson_plain.ofText?_render (some 0)
  refine ⟨hread a, fun h => ?_, congrArg Plan.text⟩
  have hdocument : some a.toJson = some b.toJson := by rw [← hread a, ← hread b, h]
  exact Plan.toJson_injective (Option.some.inj hdocument)

end RenderGraph
