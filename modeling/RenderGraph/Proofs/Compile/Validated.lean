import RenderGraph.Proofs.Compile.Buildable
import RenderGraph.Proofs.Layout.Checked

/-!
# Layouts that pass the check

The check and the compiler look at different graphs: the check goes through the
layout level by level, the compiler validates the flattened graph. They agree on
all connections. The compiler refuses one more thing, a filter without outputs,
which has nothing to render to.
-/

namespace RenderGraph

/-- Every filter has an output, at every level. -/
def Layout.Renders {δ : Type} (layout : Layout δ) : Prop :=
  ∀ address spec, layout.at? address = some (.filter spec) → spec.outputs.size ≠ 0

section Agreement

variable {δ : Type} {layout : Layout δ}

/-- A nested layout has, seen from outside, the ports that it has seen from inside. -/
theorem Layout.hasPort_nested {index : Nat} {placed : Placed δ} {nested : Layout δ}
    (hp : layout.elements[index]? = some placed) (he : placed.element = .pipeline nested)
    (port : Nat) :
    (layout.HasPort (.member index) .input port ↔ nested.HasPort .boundary .output port) ∧
      (layout.HasPort (.member index) .output port ↔ nested.HasPort .boundary .input port) := by
  rw [hasPort_member_input, hasPort_member_output, hasPort_boundary_input,
    hasPort_boundary_output, hp]
  simp only [Option.some.injEq, exists_eq_left', he, Element.inputs, Element.outputs, and_self]

/-- Where all ports are connected at every level, those of nested layouts are on both sides. -/
theorem Layout.Constructed.matched_of_used (constructed : layout.Constructed)
    (used : ∀ address nested, layout.at? address = some (.pipeline nested) → nested.Used) :
    layout.Matched := by
  intro address outer index placed nested ha hp he port
  have hn := Layout.at?_concat.mpr ⟨outer, placed, ha, hp, he⟩
  have around := used address outer ha
  have inside := used (address ++ [index]) nested hn
  have houter := (constructed.at? ha).wired
  have hinner := (constructed.at? hn).wired
  have hsame := Layout.hasPort_nested hp he port
  rw [around.fed_iff houter, around.read_iff houter, inside.fed_iff hinner,
    inside.read_iff hinner]
  exact ⟨hsame.1, hsame.2.symm⟩

/-- A layout on which nothing is found is complete as soon as all filters have outputs. -/
theorem Layout.Constructed.complete_of_check (constructed : layout.Constructed)
    (checked : layout.check false = .ok []) (renders : layout.Renders) : layout.Complete := by
  have used := Layout.check_eq_ok_nil_iff.mp checked
  constructor
  case matched => exact constructed.matched_of_used used
  case fed =>
    intro address outer index placed spec ha hp he port hport
    refine (used address outer ha).fed (.member index) port ?_
    exact Layout.hasPort_member_input.mpr ⟨placed, hp, he ▸ hport⟩
  case renders => exact renders
  case read =>
    intro address outer index placed spec ha hp he port hport
    refine (used address outer ha).read (.member index) port ?_
    exact Layout.hasPort_member_output.mpr ⟨placed, hp, he ▸ hport⟩
  case resolved =>
    intro port hport
    exact (used [] layout rfl).fed .boundary port (Layout.hasPort_boundary_input.mpr hport)

end Agreement

namespace Compile

variable {B : Backend}

/-- A layout on which the check finds nothing and in which no filter depends on itself is built on
every device that does what it is told, provided that all filters have outputs. -/
theorem checked_builds_iff (layout : Layout B.Descriptor) (constructed : layout.Constructed)
    (checked : layout.check false = .ok []) (acyclic : layout.Acyclic) {good : B.State → Prop}
    (reliable : B.Reliable good) (name : String) (state : B.State) (hs : good state) :
    (∃ pipeline, (Pipeline.build name layout state).result = .ok pipeline) ↔ layout.Renders := by
  rcases compile_cases constructed reliable hs with
    ⟨complete, -, compiled, hc⟩ | ⟨hn, e, he, -⟩
  · have hok : ∃ pipeline, (Pipeline.build name layout state).result = .ok pipeline :=
      ⟨_, (Action.bind_of_ok hc _).1⟩
    exact iff_of_true hok complete.renders
  · have hfail : (Pipeline.build name layout state).result = .error e := Action.bind_of_error he _
    have hrenders : ¬ layout.Renders := fun renders =>
      hn ⟨constructed.complete_of_check checked renders, acyclic⟩
    refine iff_of_false ?_ hrenders
    intro h
    obtain ⟨pipeline, hok⟩ := h
    rw [hfail] at hok
    cases hok

section Pictures

open Device (Memory TermDescriptor)

/-- The picture passes the check, and its filter has an output. -/
theorem picture_checked : (Flat.picture plain).check false = .ok [] ∧
    (Flat.picture plain).Renders ∧ ∃ pipeline : Pipeline Device.memory,
      (Pipeline.build "picture" (Flat.picture plain) (Memory.fresh none)).result = .ok pipeline :=
  have checked : (Flat.picture plain).check false = .ok [] := rfl
  have renders : (Flat.picture plain).Renders := (picture_complete plain).renders
  ⟨checked, renders, (checked_builds_iff (B := Device.memory) (Flat.picture plain)
    (Flat.picture_constructed plain) checked (picture_acyclic plain) memory_reliable "picture"
    (Memory.fresh none) rfl).mpr renders⟩

/-- A layout that only shows its input: its filter has no output. -/
def screen : Layout TermDescriptor where
  typeName := "Show"
  inputs := ⟨["in"]⟩
  outputs := ⟨[]⟩
  elements := [⟨"screen", .filter ⟨"Screen", ⟨["in"]⟩, ⟨[]⟩, plain⟩⟩]
  connections := [⟨.boundary, 0, .member 0, 0⟩]

/-- The screen passes the check and its filter does not depend on itself, but it is not built. -/
theorem screen_refused : screen.Constructed ∧ screen.check false = .ok [] ∧ screen.Acyclic ∧
    Device.memory.Reliable (fun device => device.failCreate = none) ∧
    (Memory.fresh none).failCreate = none ∧
    (Pipeline.build (B := Device.memory) "show" screen (Memory.fresh none)).result =
      .error ⟨.noOutputPort "screen", [.scheduling "show"]⟩ := by
  refine ⟨?constructed, rfl, ?acyclic, memory_reliable, rfl, by cbv⟩
  case constructed =>
    have hf : FilterSpec.Constructed (⟨"Screen", ⟨["in"]⟩, ⟨[]⟩, plain⟩ : FilterSpec _) :=
      .addInput (.empty "Screen" plain) (show FilterSpec.addInput _ "in" = .ok _ from rfl)
    have hp : Layout.Constructed (⟨"Show", ⟨["in"]⟩, ⟨[]⟩, [], []⟩ : Layout TermDescriptor) :=
      .addInput (.empty "Show") (show Layout.addInput _ "in" = .ok _ from rfl)
    have he := hp.addFilter hf (show Layout.add _ "screen" _ = .ok _ from rfl)
    exact he.connectToInput (show Layout.connectToInput _ 0 0 0 = .ok _ from rfl)
  case acyclic =>
    have hf : Flat.flatten screen = .ok ⟨[⟨"screen", ⟨"Screen", ⟨["in"]⟩, ⟨[]⟩, plain⟩⟩],
        [⟨.boundary, 0, .member 0, 0⟩]⟩ := by cbv
    intro graph hg i hi
    obtain rfl := Except.ok.inj (hf.symm.trans hg)
    obtain ⟨j, ⟨c, hc, hs, -⟩, -⟩ := Relation.TransGen.head'_iff.mp hi
    rw [List.mem_singleton.mp hc] at hs
    cases hs

end Pictures

end Compile

end RenderGraph
