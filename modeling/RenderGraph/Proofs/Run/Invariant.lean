import RenderGraph.Proofs.Layout.Evaluation
import RenderGraph.Proofs.Run.Reachable
import RenderGraph.Proofs.Run.Rendering

/-!
# What holds in the middle of a run

Each filter that was rendered has its terms in its target until the target passes
to another filter. Since that happens only after all its readers were rendered,
every filter finds the terms of its inputs, and every output is still there at
the end.
-/

namespace RenderGraph.Device

open Schedule (Solution State Finished Resolves)
open Flat (placeIn)

/-- The labels of the filters of a pipeline, by address. -/
def labels (pipeline : Pipeline memory) (address : List Nat) : Option String :=
  ((Flat.filterAddresses pipeline.layout).idxOf? address).bind fun index =>
    pipeline.filters[index]?.bind TermFilter.label

/-- The texts of the textures that are bound to a pipeline. -/
def given (running : Running memory) : List String :=
  running.pipeline.inputs.map running.device.contents

/-- A text that passes a node of the flattened graph when the layout of a pipeline is evaluated. -/
def Passes (layout : Layout TermDescriptor) (start : Running memory) (way : Passage)
    (anchor : Anchor) (port : Nat) (text : String) : Prop :=
  layout.Denotes (labels start.pipeline) (given start) way (placeIn layout anchor) port text

/-- The target of a filter holds what leaves its outputs. -/
def Holds (layout : Layout TermDescriptor) (graph : Flat.Graph TermDescriptor)
    (schedule : Solution String) (start : Running memory) (device : Memory) (i : Nat) : Prop :=
  ∀ flat (target : Nat), graph.filters[i]? = some flat → schedule.assignments[i]? = some target →
    ∀ port < flat.spec.outputs.size, ∃ texture,
      start.pipeline.attachment target port = .ok texture ∧
        Passes layout start .leaves (.member i) port (device.contents texture)

/-- Two filters differ in nothing but the textures bound to them. -/
def Rebound (filter after : TermFilter MemoryTexture) : Prop :=
  ∃ inputs : List (Option MemoryTexture), inputs.length = filter.inputs.length ∧
    after = { filter with inputs }

/-- A texture is no attachment of a pipeline. -/
def Foreign (pipeline : Pipeline memory) (texture : MemoryTexture) : Prop :=
  ∀ target ∈ pipeline.targets, ∀ attachment ∈ target.attachments, texture.cell ≠ attachment.cell

/-- What holds in a run after some filters were rendered. -/
structure Midway (layout : Layout TermDescriptor) (graph : Flat.Graph TermDescriptor)
    (schedule : Solution String) (start : Running memory) (done : List Nat)
    (progress : Progress memory) : Prop where
  /-- The filters differ from those at the start in nothing but bound textures. -/
  rebound : List.Forall₂ Rebound start.pipeline.filters progress.filters
  /-- The device refuses the same filters. -/
  failRender : progress.device.failRender = start.device.failRender
  /-- It has the same cells. -/
  cells : progress.device.cells.length = start.device.cells.length
  /-- Textures of others are as they were. -/
  untouched : ∀ texture, Foreign start.pipeline texture →
    progress.device.contents texture = start.device.contents texture
  /-- Unless its target has passed to another filter, what a rendered filter wrote is there. -/
  holds : ∀ i ∈ done, (∀ j, Before done i j → schedule.assignments[j]? ≠ schedule.assignments[i]?) →
    Holds layout graph schedule start progress.device i

section Plan

variable {layout : Layout TermDescriptor} {graph : Flat.Graph TermDescriptor}
  {schedule : Solution String} {start : Running memory}

/-- A run goes through the filters in the order of the schedule. -/
theorem Intact.order (intact : Intact layout graph schedule start) :
    start.pipeline.plan.schedule = schedule.order := by
  obtain ⟨name, hplan⟩ := intact.plan
  rw [hplan]
  rfl

/-- The plan of a filter has the target and the bindings of the schedule. -/
theorem Intact.exists_planned (intact : Intact layout graph schedule start) {i target : Nat}
    {flat : Flat.Filter TermDescriptor} {bindings : List Schedule.Binding}
    (hflat : graph.filters[i]? = some flat) (htarget : schedule.assignments[i]? = some target)
    (hbindings : schedule.bindings[i]? = some bindings) :
    ∃ planned, start.pipeline.plan.filters[i]? = some planned ∧ planned.target = target ∧
      planned.inputs = bindings := by
  obtain ⟨name, hplan⟩ := intact.plan
  rw [hplan]
  refine ⟨_, Compile.getElem?_planned.mpr ⟨flat, hflat, rfl⟩, ?_, ?_⟩
  · rw [htarget, Option.getD_some]
  · rw [hbindings, Option.getD_some]

/-- An attachment of a pipeline is one of a target. -/
theorem attachment_eq_ok_iff {pipeline : Pipeline memory} {target index : Nat}
    {texture : MemoryTexture} :
    pipeline.attachment target index = .ok texture ↔ ∃ found : TermTarget MemoryTexture,
      pipeline.targets[target]? = some found ∧ found.attachments[index]? = some texture := by
  simp only [Pipeline.attachment]
  cases hf : pipeline.targets[target]? with
  | none => simp
  | some found =>
    cases ha : found.attachments[index]? with
    | none => simp [ha]
    | some attachment => simp [ha]

/-- A binding to an attachment leads to that attachment. -/
theorem boundTexture_attachment {pipeline : Pipeline memory} {target index : Nat}
    {texture : MemoryTexture} (h : pipeline.attachment target index = .ok texture) :
    pipeline.boundTexture (.attachment target index) = .ok texture := by
  obtain ⟨found, hfound, ha⟩ := attachment_eq_ok_iff.mp h
  simp only [Pipeline.boundTexture, hfound, ha]

end Plan

/-- A schedule together with the state that it was read off. -/
structure Arranged (layout : Layout TermDescriptor) (graph : Flat.Graph TermDescriptor)
    (schedule : Solution String) (final : State String) : Prop where
  /-- The layout can be constructed. -/
  constructed : layout.Constructed
  /-- The graph is the flattened layout. -/
  flattened : Flat.Flattened layout graph
  /-- The state is complete. -/
  complete : final.Complete (problemOf graph)
  /-- The schedule was read off the state. -/
  finished : Finished (problemOf graph) layout.outputs final schedule

section Arrangement

variable {layout : Layout TermDescriptor} {graph : Flat.Graph TermDescriptor}
  {schedule : Solution String} {final : State String} {start : Running memory}

/-- What is planned for a layout was read off some state. -/
theorem Planned.exists_arranged (planned : Planned layout graph schedule)
    (constructed : layout.Constructed) : ∃ final, Arranged layout graph schedule final := by
  have wf := problemOf_wellFormed constructed planned.flattened
  obtain ⟨final, complete, hf⟩ := wf.exists_finish planned.solved
  exact ⟨final, constructed, planned.flattened, complete, Schedule.State.finish_eq_ok hf⟩

/-- The scheduling problem is one that the scheduler is made for. -/
theorem Arranged.wellFormed (arranged : Arranged layout graph schedule final) :
    (problemOf graph).WellFormed layout.outputs :=
  problemOf_wellFormed arranged.constructed arranged.flattened

/-- A filter that is scheduled is a filter of the graph and has a target and bindings. -/
theorem Arranged.exists_filter (arranged : Arranged layout graph schedule final) {i : Nat}
    (hi : i ∈ schedule.order) : ∃ flat target bindings, graph.filters[i]? = some flat ∧
      schedule.assignments[i]? = some target ∧ schedule.bindings[i]? = some bindings ∧
      (problemOf graph).Bound final.assignments i
        (Compile.taskOf (B := memory) flat (.ofSpec flat.spec)) bindings := by
  have sound := arranged.complete.sound
  have finished := arranged.finished
  rw [finished.order] at hi
  have ht := List.getElem?_eq_getElem (sound.range i hi)
  obtain ⟨flat, filter, hflat, hfilter, htask⟩ := Compile.getElem?_tasks.mp ht
  rw [List.getElem?_map, hflat, Option.map_some, Option.some.injEq] at hfilter
  subst hfilter
  obtain ⟨target, htarget⟩ := (sound.assigned i).mp hi
  obtain ⟨bindings, hb, bound⟩ := sound.bound i hi _ ht
  rw [htask] at bound
  exact ⟨flat, target, bindings, hflat, finished.assigned.mpr htarget,
    by rw [finished.bindings, hb], bound⟩

/-- Before the target of a filter passes to another one, all readers of the filter had their
turn. -/
theorem Arranged.released (arranged : Arranged layout graph schedule final) {i j : Nat}
    (hb : Before schedule.order i j) (he : schedule.assignments[j]? = schedule.assignments[i]?)
    {c : Connection Anchor} (hc : c ∈ graph.connections) (hs : c.source = .member i) :
    ∃ k, c.destination = .member k ∧ Before schedule.order k j := by
  have finished := arranged.finished
  have hi := hb.left_mem
  rw [finished.order] at hb hi ⊢
  obtain ⟨target, htarget⟩ := (arranged.complete.sound.assigned i).mp hi
  have hit := finished.assigned.mpr htarget
  have hjt := finished.assigned.mp (he.trans hit)
  exact arranged.complete.sound.released i j target htarget hjt hb c hc hs

/-- The order of a schedule has no repetitions. -/
theorem Arranged.nodup (arranged : Arranged layout graph schedule final) :
    schedule.order.Nodup := by
  rw [arranged.finished.order]
  exact arranged.complete.sound.nodup

/-- When it is the turn of a reader, the filter that it reads was rendered and still has its
target. -/
theorem Arranged.exists_before (arranged : Arranged layout graph schedule final)
    {done rest : List Nat} {i j : Nat} (ho : schedule.order = done ++ i :: rest)
    {c : Connection Anchor} (hc : c ∈ graph.connections) (hs : c.source = .member j)
    (hd : c.destination = .member i) : j ∈ done ∧
      ∀ k, Before done j k → schedule.assignments[k]? ≠ schedule.assignments[j]? := by
  have hnodup := arranged.nodup
  have hi : i ∈ final.order := by
    rw [← arranged.finished.order, ho]
    exact List.mem_append_right done List.mem_cons_self
  have hji := arranged.complete.sound.topological j i ⟨c, hc, hs, hd⟩ hi
  rw [← arranged.finished.order, ho] at hji
  rw [ho] at hnodup
  refine ⟨Before.mem_front hnodup hji, fun k hk he => ?_⟩
  have hjk := hk.append (i :: rest)
  rw [← ho] at hjk
  obtain ⟨reader, hreader, hbefore⟩ := arranged.released hjk he hc hs
  obtain rfl : reader = i := Anchor.member.inj (hreader.symm.trans hd)
  rw [ho] at hbefore
  exact Before.asymm hnodup hbefore (Before.of_cut hk.right_mem List.mem_cons_self)

/-- A filter that feeds an output of the pipeline keeps its target to the end. -/
theorem Arranged.kept (arranged : Arranged layout graph schedule final) {j : Nat}
    {c : Connection Anchor} (hc : c ∈ graph.connections) (hs : c.source = .member j)
    (hd : c.destination = .boundary) :
    ∀ k, Before schedule.order j k → schedule.assignments[k]? ≠ schedule.assignments[j]? := by
  intro k hk he
  obtain ⟨reader, hreader, -⟩ := arranged.released hk he hc hs
  rw [hd] at hreader
  cases hreader

end Arrangement

section Texts

variable {layout : Layout TermDescriptor} {graph : Flat.Graph TermDescriptor}
  {schedule : Solution String} {final : State String} {start : Running memory}

/-- What leaves from one end of a connection of the flattened graph arrives at its other end. -/
theorem Passes.arrives (flattened : Flat.Flattened layout graph) {c : Connection Anchor}
    (hc : c ∈ graph.connections) {text : String}
    (h : Passes layout start .leaves c.source c.sourcePort text) :
    Passes layout start .arrives c.destination c.destinationPort text := by
  obtain ⟨path, chain⟩ := flattened.sound c hc
  exact chain.walk.denotes h

/-- A connection from the boundary carries the text of the texture that is bound there. -/
theorem exists_input (arranged : Arranged layout graph schedule final)
    (bound : start.pipeline.inputs.length = layout.inputs.size) {c : Connection Anchor}
    (hc : c ∈ graph.connections) (hs : c.source = .boundary) :
    ∃ texture, start.pipeline.inputs[c.sourcePort]? = some texture ∧
      Passes layout start .leaves .boundary c.sourcePort (start.device.contents texture) := by
  have hlt := Compile.input_lt (B := memory) arranged.constructed arranged.flattened hc hs
  rw [← bound] at hlt
  have hg := List.getElem?_eq_getElem hlt
  refine ⟨_, hg, .input ?_⟩
  rw [given, List.getElem?_map, hg, Option.map_some]

/-- The label of a filter is found at its address. -/
theorem labels_eq {i : Nat} {address : List Nat}
    (ha : (Flat.filterAddresses start.pipeline.layout)[i]? = some address)
    {filter : TermFilter MemoryTexture} (hf : start.pipeline.filters[i]? = some filter) :
    labels start.pipeline address = filter.label := by
  obtain ⟨hlt, hget⟩ := List.getElem?_eq_some_iff.mp ha
  have hi : (Flat.filterAddresses start.pipeline.layout).idxOf? address = some i := by
    refine List.idxOf?_eq_some_iff.mpr ⟨hlt, hget, fun j hj he => ?_⟩
    have hji := (Flat.nodup_filterAddresses start.pipeline.layout).getElem_inj_iff.mp
      (he.trans hget.symm)
    omega
  rw [labels, hi, Option.bind_some, hf, Option.bind_some]

/-- A filter applies its name to what arrives at its inputs. -/
theorem Passes.leaves (arranged : Arranged layout graph schedule final)
    (origin : start.pipeline.layout = layout) {i : Nat} {flat : Flat.Filter TermDescriptor}
    (hflat : graph.filters[i]? = some flat) {filter : TermFilter MemoryTexture}
    (hf : start.pipeline.filters[i]? = some filter) {arguments : List String}
    (hl : arguments.length = flat.spec.inputs.size)
    (hargs : ∀ k text, arguments[k]? = some text →
      Passes layout start .arrives (.member i) k text)
    {port : Nat} (hp : port < flat.spec.outputs.size) :
    Passes layout start .leaves (.member i) port
      (spell (filter.label.getD flat.spec.typeName) flat.spec.outputs.size port arguments) := by
  obtain ⟨address, hg⟩ := Compile.Flattened.exists_address (B := memory) arranged.flattened hflat
  have ha : layout.at? address = some (.filter flat.spec) :=
    Flat.mem_filtersIn_iff.mp (List.mem_of_getElem? hg)
  have hplace : placeIn layout (.member i) = ⟨address, .outside⟩ :=
    (Flat.stands_member hg).spotIn_eq
  have haddress : (Flat.filterAddresses start.pipeline.layout)[i]? = some address := by
    rw [origin, Flat.filterAddresses, List.getElem?_map, hg, Option.map_some]
  simp only [Passes, hplace] at hargs ⊢
  rw [← labels_eq haddress hf]
  exact .filter ha hp hl hargs

/-- When it is the turn of a filter, the textures of its bindings have the texts of its inputs. -/
theorem Midway.exists_texture (arranged : Arranged layout graph schedule final)
    (bound : start.pipeline.inputs.length = layout.inputs.size)
    (foreign : ∀ texture ∈ start.pipeline.inputs, Foreign start.pipeline texture)
    {done rest : List Nat} {i : Nat} (ho : schedule.order = done ++ i :: rest)
    {progress : Progress memory} (midway : Midway layout graph schedule start done progress)
    {c : Connection Anchor} (hc : c ∈ graph.connections) (hd : c.destination = .member i)
    {binding : Schedule.Binding} (hr : Resolves final.assignments c binding) :
    ∃ texture, start.pipeline.boundTexture binding = .ok texture ∧
      Passes layout start .arrives (.member i) c.destinationPort
        (progress.device.contents texture) := by
  cases hs : c.source with
  | boundary =>
    rw [Resolves, hs] at hr
    obtain ⟨texture, hg, hp⟩ := exists_input arranged bound hc hs
    refine ⟨texture, by rw [hr, Pipeline.boundTexture, hg], ?_⟩
    rw [midway.untouched texture (foreign texture (List.mem_of_getElem? hg)), ← hd]
    rw [← hs] at hp
    exact hp.arrives arranged.flattened hc
  | member j =>
    rw [Resolves, hs] at hr
    obtain ⟨target, htarget, rfl⟩ := hr
    obtain ⟨hj, hkept⟩ := arranged.exists_before ho hc hs hd
    obtain ⟨task, ht, hlt⟩ := arranged.wellFormed.source c hc j hs
    obtain ⟨flat, filter, hflat, -, rfl⟩ := Compile.getElem?_tasks.mp ht
    obtain ⟨texture, ha, hp⟩ := midway.holds j hj hkept flat target hflat
      (arranged.finished.assigned.mpr htarget) c.sourcePort hlt
    refine ⟨texture, boundTexture_attachment ha, ?_⟩
    rw [← hd]
    rw [← hs] at hp
    exact hp.arrives arranged.flattened hc

end Texts

section Steps

variable {layout : Layout TermDescriptor} {graph : Flat.Graph TermDescriptor}
  {schedule : Solution String} {final : State String} {start : Running memory}

/-- What has to be given for a run to succeed. -/
structure Ready (layout : Layout TermDescriptor) (graph : Flat.Graph TermDescriptor)
    (start : Running memory) : Prop where
  /-- Every input has a texture. -/
  bound : start.pipeline.inputs.length = layout.inputs.size
  /-- No texture is an attachment of the pipeline. -/
  foreign : ∀ texture ∈ start.pipeline.inputs, Foreign start.pipeline texture
  /-- No filter is refused. -/
  allowed : ∀ flat ∈ graph.filters, start.device.failRender ≠ some flat.spec.typeName

/-- A filter whose target is not written holds what it held. -/
theorem Holds.kept (intact : Intact layout graph schedule start) {i j target : Nat}
    (htarget : schedule.assignments[i]? = some target)
    (hne : schedule.assignments[i]? ≠ schedule.assignments[j]?)
    {found : TermTarget MemoryTexture} (hfound : start.pipeline.targets[target]? = some found)
    {texts : List String} {before after : Memory}
    (hw : Written found.attachments 0 texts before after)
    (h : Holds layout graph schedule start before j) :
    Holds layout graph schedule start after j := by
  intro flat other hflat hother port hp
  have htargets : target ≠ other := by
    intro he
    apply hne
    rw [htarget, hother, he]
  obtain ⟨texture, ha, hpass⟩ := h flat other hflat hother port hp
  obtain ⟨held, hheld, hattachment⟩ := attachment_eq_ok_iff.mp ha
  have hsame := hw.kept texture fun k _ attachment hk =>
    intact.housed.apart hfound hheld htargets attachment (List.mem_of_getElem? hk) texture
      (List.mem_of_getElem? hattachment)
  exact ⟨texture, ha, hsame ▸ hpass⟩

/-- A filter that finds the texts of its inputs holds the texts of its outputs when it has written
its terms. -/
theorem Holds.written (arranged : Arranged layout graph schedule final)
    (intact : Intact layout graph schedule start) {i target : Nat}
    {flat : Flat.Filter TermDescriptor} (hflat : graph.filters[i]? = some flat)
    (htarget : schedule.assignments[i]? = some target)
    {filter : TermFilter MemoryTexture} (hf : start.pipeline.filters[i]? = some filter)
    (suits : filter.Suits flat.spec)
    {found : TermTarget MemoryTexture} (hfound : start.pipeline.targets[target]? = some found)
    {texts : List String} (hl : texts.length = flat.spec.inputs.size)
    (hin : ∀ k text, texts[k]? = some text → Passes layout start .arrives (.member i) k text)
    {before after : Memory} (hw : Written found.attachments 0 (filter.terms texts) before after) :
    Holds layout graph schedule start after i := by
  intro flat' target' hflat' htarget' port hp
  obtain rfl : flat = flat' := Option.some.inj (hflat.symm.trans hflat')
  obtain rfl : target = target' := Option.some.inj (htarget.symm.trans htarget')
  have hroom : flat.spec.outputs.size ≤ found.attachments.length := by
    obtain ⟨found', hfound', hroom⟩ := intact.roomy i flat target hflat htarget
    obtain rfl : found = found' := Option.some.inj (hfound.symm.trans hfound')
    exact hroom
  have hg := List.getElem?_eq_getElem (Nat.lt_of_lt_of_le hp hroom)
  refine ⟨_, attachment_eq_ok_iff.mpr ⟨found, hfound, hg⟩, ?_⟩
  have hterm : (filter.terms texts)[port]? =
      some (spell (filter.label.getD flat.spec.typeName) flat.spec.outputs.size port texts) := by
    rw [TermFilter.terms, TermFilter.name, suits.outputs, suits.typeName, List.getElem?_map,
      List.getElem?_range hp, Option.map_some]
  have hread := hw.read port _ _ hterm (by rwa [Nat.zero_add])
  rw [hread]
  exact Passes.leaves arranged intact.origin hflat hf hl hin hp

/-- After a filter was rendered, its target has its terms, and the targets of the others have what
they had. -/
theorem Midway.written (arranged : Arranged layout graph schedule final)
    (intact : Intact layout graph schedule start) {done : List Nat} {i target : Nat}
    {progress : Progress memory} (midway : Midway layout graph schedule start done progress)
    {flat : Flat.Filter TermDescriptor} (hflat : graph.filters[i]? = some flat)
    (htarget : schedule.assignments[i]? = some target)
    {filter : TermFilter MemoryTexture} (hf : start.pipeline.filters[i]? = some filter)
    {found : TermTarget MemoryTexture} (hfound : start.pipeline.targets[target]? = some found)
    {textures : List MemoryTexture} (hl : textures.length = flat.spec.inputs.size)
    (hin : ∀ k texture, textures[k]? = some texture →
      Passes layout start .arrives (.member i) k (progress.device.contents texture))
    {after : Memory} (hw : Written found.attachments 0
      (filter.terms (textures.map progress.device.contents)) progress.device after) :
    Midway layout graph schedule start (done ++ [i])
      ⟨progress.filters.set i { filter with inputs := textures.map some }, after⟩ := by
  obtain ⟨filter', hf', suits⟩ := getElem?_of_forall₂ intact.manned hflat
  obtain rfl : filter = filter' := Option.some.inj (hf.symm.trans hf')
  constructor
  case rebound =>
    refine forall₂_set midway.rebound hf ⟨textures.map some, ?_, rfl⟩
    rw [List.length_map, hl, suits.inputs]
  case failRender => exact hw.failRender.trans midway.failRender
  case cells => exact hw.length.trans midway.cells
  case untouched =>
    intro texture hforeign
    refine (hw.kept texture fun k _ attachment ha => ?_).trans (midway.untouched texture hforeign)
    exact (hforeign found (List.mem_of_getElem? hfound) attachment (List.mem_of_getElem? ha)).symm
  case holds =>
    intro j hj hkept
    rcases List.mem_append.mp hj with hj | hj
    · -- The target of a filter that was rendered before is another one.
      have hne := hkept i (Before.of_cut hj List.mem_cons_self)
      have hbefore := midway.holds j hj fun k hk => hkept k (hk.append [i])
      exact hbefore.kept intact htarget hne hfound hw
    · obtain rfl := List.mem_singleton.mp hj
      have htexts : (textures.map progress.device.contents).length = flat.spec.inputs.size :=
        (List.length_map _).trans hl
      refine .written arranged intact hflat htarget hf suits hfound htexts ?_ hw
      intro k text hk
      rw [List.getElem?_map, Option.map_eq_some_iff] at hk
      obtain ⟨texture, ht, rfl⟩ := hk
      exact hin k texture ht

/-- One step of a run: the next filter finds the terms of its inputs and writes its own. -/
theorem Midway.step (arranged : Arranged layout graph schedule final)
    (intact : Intact layout graph schedule start) (ready : Ready layout graph start)
    {done rest : List Nat} {i : Nat} (ho : schedule.order = done ++ i :: rest) :
    (start.pipeline.renderFilter i).Succeeds (Midway layout graph schedule start done)
      fun samples progress => Midway layout graph schedule start (done ++ [i]) progress ∧
        ∀ sample ∈ samples, sample.filter = i := by
  intro progress midway
  have hi : i ∈ schedule.order := ho ▸ List.mem_append_right done List.mem_cons_self
  obtain ⟨flat, target, bindings, hflat, htarget, hbindings, hbound⟩ := arranged.exists_filter hi
  obtain ⟨planned, hplanned, rfl, rfl⟩ := intact.exists_planned hflat htarget hbindings
  obtain ⟨found, hfound, hroom⟩ := intact.roomy i flat planned.target hflat htarget
  obtain ⟨filter, hf, suits⟩ := getElem?_of_forall₂ intact.manned hflat
  obtain ⟨-, hnow, inputs, hinputs, rfl⟩ := getElem?_of_forall₂ midway.rebound hf
  obtain ⟨textures, harrive, hfind⟩ := exists_forall₂
    (S := fun port texture => Passes layout start .arrives (.member i) port
      (progress.device.contents texture))
    (T := fun binding texture => start.pipeline.boundTexture binding = .ok texture) hbound
    fun port binding ⟨c, hc, hr⟩ => by
      obtain ⟨hm, ht⟩ := sourceOf?_sound hc
      obtain ⟨hd, rfl⟩ := Prod.mk.inj ht
      obtain ⟨texture, hfind, hpass⟩ :=
        midway.exists_texture arranged ready.bound ready.foreign ho hm hd hr
      exact ⟨texture, hpass, hfind⟩
  have hlength : textures.length = flat.spec.inputs.size := by
    rw [← harrive.length_eq, List.length_range]
    rfl
  have hplan : planned.inputs.length = flat.spec.inputs.size := by
    rw [hfind.length_eq, hlength]
  have hallowed : progress.device.failRender ≠ some filter.typeName := by
    rw [midway.failRender, suits.typeName]
    exact ready.allowed flat (List.mem_of_getElem? hflat)
  have hhoused : Housed found.attachments progress.device :=
    (intact.housed.of_mem (List.mem_of_getElem? hfound)).mono (Nat.le_of_eq midway.cells.symm)
  obtain ⟨samples, after, hok, hsamples, hstate, hw⟩ := renderFilter_written hplanned hfind hnow
    (by rw [hplan, hinputs, suits.inputs]) hfound hallowed hhoused
    (by rw [suits.outputs]; exact hroom)
  refine ⟨samples, hok, ?_, hsamples⟩
  rw [hstate]
  refine midway.written arranged intact hflat htarget hf hfound hlength ?_ hw
  intro k texture hk
  obtain ⟨port, hport, hpass⟩ := getElem?_of_forall₂ harrive.flip hk
  obtain ⟨hlt, hget⟩ := List.getElem?_eq_some_iff.mp hport
  rw [List.getElem_range] at hget
  exact hget ▸ hpass

/-- A whole run: once all filters had their turn, each target has the terms of its last user. -/
theorem renderAll_succeeds (arranged : Arranged layout graph schedule final)
    (intact : Intact layout graph schedule start) (ready : Ready layout graph start)
    (rest : List Nat) (done : List Nat) (ho : schedule.order = done ++ rest) :
    (start.pipeline.renderAll rest).Succeeds (Midway layout graph schedule start done)
      fun samples progress => Midway layout graph schedule start schedule.order progress ∧
        ∀ sample ∈ samples, sample.filter ∈ rest := by
  induction rest generalizing done with
  | nil =>
    rw [List.append_nil] at ho
    exact .pure fun progress midway => ⟨ho ▸ midway, by simp⟩
  | cons i rest ih =>
    rw [Pipeline.renderAll]
    refine (Midway.step arranged intact ready ho).bind fun samples progress hrun => ?_
    obtain ⟨midway, hsamples⟩ := hrun
    have hnext := ih (done ++ [i]) (by rw [ho, List.append_assoc, List.singleton_append])
    obtain ⟨more, hok, hlast, hmore⟩ := hnext progress midway
    obtain ⟨hres, hst⟩ := Action.bind_of_ok hok fun more => Pure.pure (samples ++ more)
    refine ⟨samples ++ more, hres, ?_, ?_⟩
    · rw [hst]
      exact hlast
    · intro sample hm
      rcases List.mem_append.mp hm with hm | hm
      · exact hsamples sample hm ▸ List.mem_cons_self
      · exact List.mem_cons_of_mem i (hmore sample hm)

end Steps

end RenderGraph.Device
