import RenderGraph.Proofs.Compile.Built
import RenderGraph.Proofs.Compile.Pool
import RenderGraph.Proofs.Flat.Paths

/-!
# One number for a filter

Flattening numbers the filters of all levels. Behind it, lists are matched by
position: the filters on the device, the assignments and bindings of the schedule, the
filters of the plan. A number therefore means the same filter of the layout in all of
them, and wherever a connection, the schedule or a render target names it.
-/

namespace RenderGraph

open Flat (filtersIn filterAddresses)
open Schedule (Binding State Solution)

variable {B : Backend}

/-- What a plan says about a texture that comes from a place: it is an input of the pipeline, or
an attachment of the target of the filter that has its number from there. -/
inductive Plan.Binds {δ : Type} (plan : Plan) (layout : Layout δ) : Spot → Nat → Binding → Prop
  /-- Textures come from the boundary of the outermost layout. -/
  | input {port : Nat} : Binds plan layout ⟨[], .inside⟩ port (.input port)
  /-- Textures come from a filter, which writes its target. -/
  | attachment {i : Nat} {address : List Nat} {planned : PlannedFilter} {port : Nat} :
    (filterAddresses layout)[i]? = some address → plan.filters[i]? = some planned →
    Binds plan layout ⟨address, .outside⟩ port (.attachment planned.target port)

/-- A plan binds an input at a place to the texture that arrives there. -/
def Plan.Delivers {δ : Type} (plan : Plan) (layout : Layout δ) (spot : Spot) (port : Nat)
    (binding : Binding) : Prop :=
  ∃ path c, layout.Chain path c ∧ c.target = (spot, port) ∧
    plan.Binds layout c.source c.sourcePort binding

namespace Pipeline

/-- What a pipeline has under a number is all about one filter of a layout: the planned filter, and
the filter on the device. -/
structure Denotes (pipeline : Pipeline B) (layout : Layout B.Descriptor) (i : Nat)
    (address : List Nat) (spec : FilterSpec B.Descriptor) (planned : PlannedFilter)
    (filter : B.Filter) : Prop where
  /-- The filter stands at its address. -/
  element : layout.at? address = some (.filter spec)
  /-- It is planned under its number. -/
  listed : pipeline.plan.filters[i]? = some planned
  /-- The plan repeats the number. -/
  index : planned.index = i
  /-- The path joins the names along the address. -/
  path : ∃ names, layout.names? address = some names ∧ planned.path = Path.join names
  /-- The plan tells the type of the filter. -/
  typeName : planned.typeName = spec.typeName
  /-- The filter on the device has the same number. -/
  held : pipeline.filters[i]? = some filter
  /-- It was created for this filter of the layout. -/
  created : ∃ device, (B.createFilter spec device).result = .ok filter
  /-- The filter renders into a target of its format, with an attachment for each output. -/
  target : ∃ target, pipeline.plan.targets[planned.target]? = some target ∧
    target.format = B.formatText (B.outputFormat filter) ∧ spec.outputs.size ≤ target.attachments
  /-- Its inputs are bound to what arrives at them. -/
  inputs : List.Forall₂ (fun port => pipeline.plan.Delivers layout ⟨address, .outside⟩ port)
    (List.range spec.inputs.size) planned.inputs

/-- The numbers of a pipeline are those that the filters of a layout have, everywhere. -/
structure Numbered (pipeline : Pipeline B) (layout : Layout B.Descriptor) : Prop where
  /-- There is a planned filter for each filter of the layout. -/
  planned_length : pipeline.plan.filters.length = (filterAddresses layout).length
  /-- There is a filter on the device for each of them. -/
  filters_length : pipeline.filters.length = (filterAddresses layout).length
  /-- What is found under a number belongs to the filter with that number. -/
  denotes : ∀ (i : Nat) address, (filterAddresses layout)[i]? = some address →
    ∃ spec planned filter, pipeline.Denotes layout i address spec planned filter
  /-- The connections between numbers stand for chains of the layout. -/
  sound : ∀ d ∈ pipeline.plan.connections, ∃ path c, layout.Chain path c ∧
    Flat.Pictures layout (d.map Anchor.node) c
  /-- Every chain is one connection between numbers. -/
  complete : ∀ path c, layout.Chain path c →
    ∃! d, d ∈ pipeline.plan.connections ∧ Flat.Pictures layout (d.map Anchor.node) c
  /-- All numbers are scheduled, each once. -/
  schedule : pipeline.plan.schedule.Perm (List.range (filterAddresses layout).length)
  /-- The number of a filter comes behind those of the filters from which textures arrive. -/
  order : ∀ path c, layout.Chain path c → ∀ i j : Nat, Flat.Stands layout (.filter i) c.source →
    Flat.Stands layout (.filter j) c.destination → Before pipeline.plan.schedule i j
  /-- Targets have their positions as numbers, and their users are the filters that are planned to
  render into them, in the order of the schedule. -/
  users : ∀ (id : Nat) target, pipeline.plan.targets[id]? = some target → target.id = id ∧
    target.users = pipeline.plan.schedule.filter fun i =>
      pipeline.plan.filters[i]?.any fun planned => planned.target = id

/-- A planned filter tells of a filter of the graph what the schedule has under its number. -/
structure Tells (pipeline : Pipeline B) (schedule : Solution B.Format) (i : Nat)
    (flat : Flat.Filter B.Descriptor) (filter : B.Filter) (planned : PlannedFilter) : Prop where
  /-- It stands under this number in the plan. -/
  listed : pipeline.plan.filters[i]? = some planned
  /-- It repeats the number. -/
  index : planned.index = i
  /-- It has the path of the filter. -/
  path : planned.path = flat.path
  /-- It has the type of the filter. -/
  typeName : planned.typeName = flat.spec.typeName
  /-- It renders into what the schedule assigns to the number. -/
  assigned : schedule.assignments[i]? = some planned.target
  /-- It reads what the schedule binds under the number. -/
  bound : schedule.bindings[i]? = some planned.inputs
  /-- The target is of the format of the filter on the device and large enough. -/
  housed : ∃ target, schedule.targets[planned.target]? = some target ∧
    target.format = B.outputFormat filter ∧ flat.spec.outputs.size ≤ target.attachments

variable {name : String} {layout : Layout B.Descriptor} {state : B.State} {pipeline : Pipeline B}
  {graph : Flat.Graph B.Descriptor} {final : State B.Format} {schedule : Solution B.Format}

namespace Built

variable (built : Built name layout state pipeline graph final schedule)
include built

/-- The scheduler was given a problem that it is made for. -/
theorem wellFormed (constructed : layout.Constructed) :
    (Compile.problem graph pipeline.filters).WellFormed layout.outputs :=
  Compile.wellFormed constructed built.flattened built.length_filters

/-- A filter of the layout is in the graph under its number, with its path. -/
theorem exists_flat {i : Nat} {address : List Nat} {spec : FilterSpec B.Descriptor}
    (hi : (filtersIn layout)[i]? = some (address, spec)) :
    ∃ names, layout.names? address = some names ∧
      graph.filters[i]? = some ⟨Path.join names, spec⟩ := by
  rw [Flat.filters_of_flatten built.flatten]
  exact Flat.exists_names_of_getElem? hi

/-- There are as many filters in the graph as in the layout. -/
theorem length_graph : graph.filters.length = (filterAddresses layout).length := by
  rw [Flat.filters_of_flatten built.flatten, (Flat.survey_carries layout).length_eq,
    filterAddresses, List.length_map]

/-- A planned target is one of the schedule, under its number. -/
theorem getElem?_targets {id : Nat} {target : PlannedTarget} :
    pipeline.plan.targets[id]? = some target ↔ ∃ found, schedule.targets[id]? = some found ∧
      target = ⟨id, B.formatText found.format, found.attachments, found.users⟩ := by
  rw [built.plan]
  simp only [Compile.plan, List.getElem?_map, List.getElem?_zipIdx]
  cases schedule.targets[id]? <;> simp [eq_comm]

/-- The filter of the graph under a number has a planned filter that tells of it. -/
theorem exists_planned {i : Nat} {flat : Flat.Filter B.Descriptor}
    (hi : graph.filters[i]? = some flat) {filter : B.Filter}
    (hf : pipeline.filters[i]? = some filter) :
    ∃ planned, pipeline.Tells schedule i flat filter planned := by
  have ht := Compile.getElem?_tasks.mpr ⟨flat, filter, hi, hf, rfl⟩
  obtain ⟨id, target, hid, htarget, hformat, hroom⟩ :=
    built.finished.exists_target built.complete ht
  have hlt : i < schedule.bindings.length := by
    rw [built.finished.bindings, built.complete.sound.bindings_length]
    exact (List.getElem?_eq_some_iff.mp ht).1
  have hbindings := List.getElem?_eq_getElem hlt
  refine ⟨⟨i, flat.path, flat.spec.typeName, id, schedule.bindings[i]⟩, ?_⟩
  constructor
  case listed =>
    rw [built.plan]
    refine Compile.getElem?_planned.mpr ⟨flat, hi, ?_⟩
    simp only [hid, hbindings, Option.getD_some]
  case index => rfl
  case path => rfl
  case typeName => rfl
  case assigned => exact hid
  case bound => exact hbindings
  case housed => exact ⟨target, htarget, hformat, hroom⟩

/-- Every number of the graph is planned. -/
theorem exists_tells {i : Nat} (hi : i < graph.filters.length) :
    ∃ flat filter planned, pipeline.Tells schedule i flat filter planned := by
  have hflat := List.getElem?_eq_getElem hi
  obtain ⟨filter, hfilter, -⟩ := getElem?_of_forall₂ built.created_each hflat
  exact ⟨_, filter, built.exists_planned hflat hfilter⟩

/-- What the schedule assigns to a number is the target of the planned filter. -/
theorem assignments_eq_some_iff {i id : Nat} : schedule.assignments[i]? = some id ↔
    ∃ planned, pipeline.plan.filters[i]? = some planned ∧ planned.target = id := by
  have hlength : schedule.assignments.length = graph.filters.length := by
    have hl := congrArg List.length built.finished.assignments
    rw [built.complete.sound.assignments_length, List.length_map] at hl
    rw [← hl, built.length_tasks]
  constructor
  · intro hid
    have hi := hlength ▸ (List.getElem?_eq_some_iff.mp hid).1
    obtain ⟨_, _, planned, tells⟩ := built.exists_tells hi
    exact ⟨planned, tells.listed, Option.some.inj (tells.assigned.symm.trans hid)⟩
  · rintro ⟨planned, hp, rfl⟩
    have hi := built.length_planned ▸ (List.getElem?_eq_some_iff.mp hp).1
    obtain ⟨_, _, same, tells⟩ := built.exists_tells hi
    rw [Option.some.inj (hp.symm.trans tells.listed)]
    exact tells.assigned

/-- A connection between numbers stands for the chain between the places of its ends. -/
theorem exists_chain {d : Connection Anchor} (hd : d ∈ graph.connections) : ∃ path c,
    layout.Chain path c ∧ Flat.Pictures layout (d.map Anchor.node) c := by
  obtain ⟨path, chain⟩ := built.flattened.sound d hd
  exact ⟨path, _, chain, Flat.stands_placeIn chain.departs, rfl,
    Flat.stands_placeIn chain.arrives, rfl⟩

/-- What the schedule binds to the end of a connection is what the plan says about its source. -/
theorem binds {d : Connection Anchor} {binding : Binding}
    (hb : Schedule.bindingOf? schedule d = some binding) {c : Connection Spot}
    (h : Flat.Pictures layout (d.map Anchor.node) c) :
    pipeline.plan.Binds layout c.source c.sourcePort binding := by
  obtain ⟨hsource, hport, -, -⟩ := h
  obtain ⟨source, sourcePort, destination, destinationPort⟩ := c
  obtain rfl : d.sourcePort = sourcePort := hport
  obtain ⟨anchor, port, target, targetPort⟩ := d
  cases anchor with
  | boundary =>
    obtain rfl := Option.some.inj hb
    cases hsource
    exact .input
  | member producer =>
    obtain ⟨id, hid, rfl⟩ := Option.map_eq_some_iff.mp hb
    obtain ⟨planned, hplanned, rfl⟩ := built.assignments_eq_some_iff.mp hid
    cases hsource with
    | filter haddress => exact .attachment haddress hplanned

/-- The inputs of a planned filter are bound to what arrives at the filter of the layout. -/
theorem delivers (constructed : layout.Constructed) {i : Nat} {address : List Nat}
    {spec : FilterSpec B.Descriptor} (hi : (filtersIn layout)[i]? = some (address, spec))
    {bindings : List Binding} (hb : schedule.bindings[i]? = some bindings) :
    List.Forall₂ (fun port => pipeline.plan.Delivers layout ⟨address, .outside⟩ port)
      (List.range spec.inputs.size) bindings := by
  obtain ⟨names, -, hflat⟩ := built.exists_flat hi
  obtain ⟨filter, ht⟩ := Compile.exists_task built.length_filters hflat
  obtain ⟨found, hfound, hlength, hports⟩ :=
    built.finished.exists_bindings built.complete (built.wellFormed constructed) ht
  obtain rfl := Option.some.inj (hb.symm.trans hfound)
  refine List.forall₂_iff_get.mpr ⟨by rw [List.length_range]; exact hlength.symm, ?_⟩
  intro port hport hlt
  rw [List.length_range] at hport
  rw [List.get_eq_getElem, List.get_eq_getElem, List.getElem_range]
  obtain ⟨d, honly, hbinding⟩ := hports port hport
  obtain ⟨hd, htarget⟩ := (honly d).mpr rfl
  obtain ⟨path, c, chain, hc⟩ := built.exists_chain hd
  refine ⟨path, c, chain, ?_, built.binds ?_ hc⟩
  · obtain ⟨hn, hp⟩ := Prod.mk.inj htarget
    have hstands : Flat.Stands layout (Anchor.node d.destination) c.destination := hc.destination
    rw [hn] at hstands
    have hspot := (Flat.stands_member hi).spotIn_eq.symm.trans hstands.spotIn_eq
    exact Prod.ext hspot.symm (hc.destinationPort.symm.trans hp)
  · exact hbinding.symm.trans (List.getElem?_eq_getElem hlt)

/-- What is found under a number belongs to the filter of the layout with that number. -/
theorem exists_denotes (constructed : layout.Constructed) {i : Nat} {address : List Nat}
    (h : (filterAddresses layout)[i]? = some address) :
    ∃ spec planned filter, pipeline.Denotes layout i address spec planned filter := by
  rw [filterAddresses, List.getElem?_map, Option.map_eq_some_iff] at h
  obtain ⟨⟨address, spec⟩, hi, rfl⟩ := h
  obtain ⟨names, hn, hflat⟩ := built.exists_flat hi
  obtain ⟨filter, hfilter, hcreated⟩ := getElem?_of_forall₂ built.created_each hflat
  obtain ⟨planned, tells⟩ := built.exists_planned hflat hfilter
  obtain ⟨target, htarget, hformat, hroom⟩ := tells.housed
  refine ⟨spec, planned, filter, ?_⟩
  constructor
  case element => exact Flat.mem_filtersIn_iff.mp (List.mem_of_getElem? hi)
  case listed => exact tells.listed
  case index => exact tells.index
  case path => exact ⟨names, hn, tells.path⟩
  case typeName => exact tells.typeName
  case held => exact hfilter
  case created => exact hcreated
  case target =>
    exact ⟨_, built.getElem?_targets.mpr ⟨target, htarget, rfl⟩, congrArg B.formatText hformat,
      hroom⟩
  case inputs => exact built.delivers constructed hi tells.bound

/-- A number means the same filter of the layout everywhere in the pipeline. -/
theorem numbered (constructed : layout.Constructed) : pipeline.Numbered layout := by
  have hconnections : pipeline.plan.connections = graph.connections := by rw [built.plan]; rfl
  have horder : pipeline.plan.schedule = final.order := by
    rw [built.plan]
    exact built.finished.order
  constructor
  case planned_length => exact built.length_planned.trans built.length_graph
  case filters_length => exact built.length_filters.trans built.length_graph
  case denotes => exact fun i address h => built.exists_denotes constructed h
  case sound =>
    rw [hconnections]
    exact fun d hd => built.exists_chain hd
  case complete =>
    rw [hconnections]
    intro path c chain
    obtain ⟨d, hd, rfl⟩ := built.flattened.complete path c chain
    refine ⟨d, ⟨hd, Flat.stands_placeIn chain.departs, rfl, Flat.stands_placeIn chain.arrives, rfl⟩,
      ?_⟩
    exact fun e he => built.flattened.eq_of_map he.1 he.2.map_placeIn
  case schedule => exact built.length_graph ▸ built.perm_schedule
  case order =>
    intro path c chain i j hi hj
    rw [horder]
    obtain ⟨d, hd, rfl⟩ := built.flattened.complete path c chain
    have hs := Flat.Stands.eq_of_spot (Flat.stands_placeIn chain.departs) hi
    have ht := Flat.Stands.eq_of_spot (Flat.stands_placeIn chain.arrives) hj
    exact built.complete.before_of_feeds (built.wellFormed constructed)
      ⟨d, hd, Anchor.node_injective hs, Anchor.node_injective ht⟩
  case users =>
    intro id target h
    obtain ⟨found, hfound, rfl⟩ := built.getElem?_targets.mp h
    refine ⟨rfl, ?_⟩
    rw [horder]
    refine (built.finished.users_eq built.complete hfound).trans (List.filter_congr fun i _ => ?_)
    rw [Bool.eq_iff_iff, decide_eq_true_eq, built.assignments_eq_some_iff, Option.any_eq_true]
    simp

end Built

/-- Filters are numbered once. The filters of all levels are listed, each of them once, the less
deeply nested ones first and those of one layout as they were added; a flattened graph has them in
this order, with the paths that lead to them. In a pipeline that was built the same numbers mean
the same filters everywhere. -/
theorem one_number_everywhere (layout : Layout B.Descriptor) (constructed : layout.Constructed) :
    (∀ address, address ∈ filterAddresses layout ↔
      ∃ spec, layout.at? address = some (.filter spec)) ∧
    (filterAddresses layout).Nodup ∧
    (∀ (i j : Nat) a b, (filterAddresses layout)[i]? = some a →
      (filterAddresses layout)[j]? = some b → (i < j ↔ Flat.Earlier a b)) ∧
    (∀ graph, Flat.flatten layout = .ok graph →
      List.Forall₂ (fun (flat : Flat.Filter B.Descriptor) address =>
        layout.at? address = some (.filter flat.spec) ∧
          ∃ names, layout.names? address = some names ∧ flat.path = Path.join names)
        graph.filters (filterAddresses layout)) ∧
    ∀ name state pipeline, (build name layout state).result = .ok pipeline →
      pipeline.Numbered layout := by
  refine ⟨fun address => ?_, Flat.nodup_filterAddresses layout,
    fun i j a b hi hj => Flat.number_lt_iff hi hj, fun graph hg => ?_,
    fun name state pipeline h => ?_⟩
  · simp only [filterAddresses, List.mem_map, Prod.exists, exists_and_right, exists_eq_right,
      Flat.mem_filtersIn_iff]
  · rw [filterAddresses, List.forall₂_map_right_iff, Flat.filters_of_flatten hg]
    have hcarries := Flat.survey_carries layout
    refine List.forall₂_iff_get.mpr ⟨hcarries.length_eq, fun i hi hj => ?_⟩
    have hflat := hcarries.get hi hj
    refine ⟨?_, hflat.path⟩
    rw [hflat.spec]
    exact Flat.mem_filtersIn_iff.mp (List.get_mem _ _)
  · obtain ⟨graph, final, schedule, built⟩ := exists_built constructed h
    exact built.numbered constructed

section Album

open Compile (plain)
open Device (Memory TermDescriptor memory)
open Flat (box)

/-- A filter between two copies of a box. The box that comes first is added first, the filter is
nested less deeply. -/
def album : Layout TermDescriptor where
  typeName := "Album"
  inputs := ⟨["in"]⟩
  outputs := ⟨["out"]⟩
  elements := [⟨"left", .pipeline (box plain)⟩,
    ⟨"sharpen", .filter ⟨"Sharpen", ⟨["in"]⟩, ⟨["out"]⟩, plain⟩⟩,
    ⟨"right", .pipeline (box plain)⟩]
  connections := [⟨.boundary, 0, .member 0, 0⟩, ⟨.member 0, 0, .member 1, 0⟩,
    ⟨.member 1, 0, .member 2, 0⟩, ⟨.member 2, 0, .boundary, 0⟩]

/-- The album can be constructed. -/
theorem album_constructed : album.Constructed := by
  have hp : Layout.Constructed (⟨"Album", ⟨["in"]⟩, ⟨["out"]⟩, [], []⟩ : Layout TermDescriptor) :=
    Layout.constructed_of_declared "Album" (Ports.declared_singleton rfl)
      (Ports.declared_singleton rfl)
  have hleft := hp.addPipeline (Flat.box_constructed plain)
    (Layout.add_eq_ok_iff.mpr ⟨show checkName .element "left" = .ok () from rfl, nofun, rfl⟩)
  have hspec : FilterSpec.Constructed
      (⟨"Sharpen", ⟨["in"]⟩, ⟨["out"]⟩, plain⟩ : FilterSpec TermDescriptor) :=
    FilterSpec.constructed_of_declared "Sharpen" (Ports.declared_singleton rfl)
      (Ports.declared_singleton rfl) plain
  have hmid := hleft.addFilter hspec
    (Layout.add_eq_ok_iff.mpr ⟨show checkName .element "sharpen" = .ok () from rfl, by simp, rfl⟩)
  have hright := hmid.addPipeline (Flat.box_constructed plain)
    (Layout.add_eq_ok_iff.mpr ⟨show checkName .element "right" = .ok () from rfl, by simp, rfl⟩)
  have hin := hright.connectToInput (show Layout.connectToInput _ 0 0 0 = .ok _ from rfl)
  have hone := hin.connect (show Layout.connect _ ⟨.member 0, 0, .member 1, 0⟩ = .ok _ from rfl)
  have htwo := hone.connect (show Layout.connect _ ⟨.member 1, 0, .member 2, 0⟩ = .ok _ from rfl)
  exact htwo.connectToOutput (show Layout.connectToOutput _ 2 0 0 = .ok _ from rfl)

/-- The pipeline that is built from it on a new device. -/
def albumBuilt : Pipeline memory where
  name := "album"
  layout := album
  filters := [.ofSpec ⟨"Sharpen", ⟨["in"]⟩, ⟨["out"]⟩, plain⟩,
    .ofSpec ⟨"Blur", ⟨["in"]⟩, ⟨["out"]⟩, plain⟩, .ofSpec ⟨"Blur", ⟨["in"]⟩, ⟨["out"]⟩, plain⟩]
  targets := [⟨"rgba8", [⟨1, 0⟩]⟩, ⟨"rgba8", [⟨2, 1⟩]⟩]
  plan :=
    { name := "album"
      filters := [⟨0, "sharpen", "Sharpen", 1, [.attachment 0 0]⟩,
        ⟨1, "left::blur", "Blur", 0, [.input 0]⟩,
        ⟨2, "right::blur", "Blur", 0, [.attachment 1 0]⟩]
      schedule := [1, 0, 2]
      targets := [⟨0, "\"rgba8\"", 1, [1, 2]⟩, ⟨1, "\"rgba8\"", 1, [0]⟩]
      connections := [⟨.boundary, 0, .member 1, 0⟩, ⟨.member 0, 0, .member 2, 0⟩,
        ⟨.member 1, 0, .member 0, 0⟩, ⟨.member 2, 0, .boundary, 0⟩]
      inputs := ["in"]
      outputs := [⟨"out", .attachment 0 0⟩] }
  inputs := []
  monitor := .off

set_option maxRecDepth 10000 in
/-- In the album the filter that was added in the middle has the first number, and the two blurs in
copies of the same box have a number each. -/
theorem album_numbered : album.Constructed ∧
    (build (B := memory) "album" album (Memory.fresh none)).result = .ok albumBuilt ∧
    filterAddresses album = [[1], [0, 0], [2, 0]] ∧ albumBuilt.Numbered album := by
  have built : (build (B := memory) "album" album (Memory.fresh none)).result = .ok albumBuilt := by
    cbv
  have haddresses : filterAddresses album = [[1], [0, 0], [2, 0]] := by cbv
  obtain ⟨-, -, -, -, hnumbered⟩ := one_number_everywhere (B := memory) album album_constructed
  exact ⟨album_constructed, built, haddresses, hnumbered "album" _ _ built⟩

end Album

end Pipeline

end RenderGraph
