import RenderGraph.Layout.Edit
import RenderGraph.Proofs.Action
import RenderGraph.Proofs.Layout.Names

/-!
# Layouts under edits

The operations on a layout are taken as data, so that a layout can be followed
through any of them, whether they succeed or fail. Every operation checks before
it writes, so it leaves the layout that the same operation on values gives, or
nothing has changed. Whatever is done to a layout, its names stay admissible and
different, its connections keep fitting its ports, and no port gets a second
source.
-/

namespace RenderGraph

variable {δ : Type}

namespace Edit

/-- The layout after an operation, or why there is none. -/
def apply (layout : Layout δ) : Edit δ → Except Error (Layout δ)
  | addInput name => layout.addInput name
  | addOutput name => layout.addOutput name
  | addFilter name spec => layout.add name (.filter spec)
  | addPipeline name nested => layout.add name (.pipeline nested)
  | connect c => layout.connect c
  | connectByName source sourcePort destination destinationPort =>
    layout.connectByName source sourcePort destination destinationPort
  | connectToInput port destination destinationPort =>
    layout.connectToInput port destination destinationPort
  | connectToInputByName port destination destinationPort =>
    layout.connectToInputByName port destination destinationPort
  | connectToOutput source sourcePort port => layout.connectToOutput source sourcePort port
  | connectToOutputByName source sourcePort port =>
    layout.connectToOutputByName source sourcePort port
  | autoConnect => layout.autoConnect

/-- What an operation reports when it turns one layout into another. -/
def events (before after : Layout δ) : Edit δ → List Event
  | autoConnect => [Layout.autoConnectEvent before after]
  | _ => []

/-- The element that an operation adds. -/
def element? : Edit δ → Option (Element δ)
  | addFilter _ spec => some (.filter spec)
  | addPipeline _ nested => some (.pipeline nested)
  | _ => none

/-- What is left when a state is turned into another one, or not because something is refused. -/
def settle {σ : Type} (state : σ) (events : σ → List Event) :
    Except Error σ → Reply σ Error Unit
  | .ok next => ⟨next, events next, .ok ()⟩
  | .error e => ⟨state, [], .error e⟩

section Checks

variable {σ α : Type} {state : σ} {events : σ → List Event}

/-- What is refused by a check is refused before anything is written. -/
theorem settle_check (check : Except Error α) {next : α → Action σ Error Unit}
    {f : α → Except Error σ} (h : ∀ a, next a state = settle state events (f a)) :
    (Action.ofExcept check >>= next) state = settle state events (check >>= f) := by
  cases check with
  | error e => rfl
  | ok a => exact (congrFun (Action.pure_bind_action a next) state).trans (h a)

/-- What is read is the state that is there. -/
theorem get_bind (next : σ → Action σ Error Unit) :
    (Action.get >>= next) state = next state state :=
  congrFun (Action.pure_bind_action state next) state

/-- A refusal after all checks leaves the state as it is, and otherwise it is changed. -/
theorem settle_ite (p : Prop) [Decidable p] (e : Error) (change : σ → σ) :
    (if p then Action.fail e else Action.modify change : Action σ Error Unit) state =
      settle state (fun _ => []) (if p then .error e else .ok (change state)) := by
  split <;> rfl

end Checks

variable {layout : Layout δ}

/-- Declaring a port writes the ports that adding it gives. -/
theorem declare_eq (name : String) (ports : Ports) :
    Ports.declare name ports = settle ports (fun _ => []) (ports.add name) :=
  settle_check _ fun _ => (get_bind _).trans (settle_ite _ _ _)

/-- So for the inputs of a layout. -/
theorem declareInput_eq (name : String) :
    Layout.declareInput name layout = settle layout (fun _ => []) (layout.addInput name) := by
  rw [Layout.declareInput, get_bind]
  simp only [Action.mapError, Action.zoom, declare_eq, Layout.addInput]
  cases layout.inputs.add name with
  | ok ports => rfl
  | error e =>
    cases layout
    rfl

/-- And for its outputs. -/
theorem declareOutput_eq (name : String) :
    Layout.declareOutput name layout = settle layout (fun _ => []) (layout.addOutput name) := by
  rw [Layout.declareOutput, get_bind]
  simp only [Action.mapError, Action.zoom, declare_eq, Layout.addOutput]
  cases layout.outputs.add name with
  | ok ports => rfl
  | error e =>
    cases layout
    rfl

/-- Placing an element writes the layout that adding it gives. -/
theorem place_eq (name : String) (element : Element δ) :
    Layout.place name element layout = settle layout (fun _ => []) (layout.add name element) :=
  settle_check _ fun _ => (get_bind _).trans (settle_ite _ _ _)

/-- Joining two ports writes the layout that connecting them gives. -/
theorem join_eq (c : Connection Anchor) :
    Layout.join c layout = settle layout (fun _ => []) (layout.connect c) := by
  rw [Layout.join, get_bind, Layout.connect]
  split
  · rfl
  · exact settle_check _ fun _ => settle_check _ fun _ => settle_ite _ _ _

/-- So when the ports have to be found first. -/
theorem joinFound_eq (find : Layout δ → Except Error (Connection Anchor)) :
    Layout.joinFound find layout =
      settle layout (fun _ => []) (find layout >>= layout.connect) := by
  rw [Layout.joinFound, get_bind]
  exact settle_check _ fun c => join_eq c

/-- Joining all ports without a source writes the layout that automatic wiring gives, and tells of
the connections that were added. -/
theorem joinAll_eq : Layout.joinAll layout =
    settle layout (fun next => [Layout.autoConnectEvent layout next]) layout.autoConnect := by
  rw [Layout.joinAll, get_bind, Layout.autoConnect]
  split
  · simp only [settle, Layout.autoConnectEvent, List.length_append, Nat.add_sub_cancel_left]
    rfl
  · rfl

/-- Every operation checks before it writes: it leaves the layout that the same operation on values
gives, or the layout as it was. -/
theorem perform_eq (edit : Edit δ) (layout : Layout δ) :
    edit.perform layout = settle layout (fun next => edit.events layout next)
      (edit.apply layout) := by
  cases edit with
  | addInput name => exact declareInput_eq name
  | addOutput name => exact declareOutput_eq name
  | addFilter name spec => exact place_eq name _
  | addPipeline name nested => exact place_eq name _
  | connect c => exact join_eq c
  | connectByName source sourcePort destination destinationPort => exact joinFound_eq _
  | connectToInput port destination destinationPort => exact join_eq _
  | connectToInputByName port destination destinationPort => exact joinFound_eq _
  | connectToOutput source sourcePort port => exact join_eq _
  | connectToOutputByName source sourcePort port => exact joinFound_eq _
  | autoConnect => exact joinAll_eq

/-- An operation leaves what it turns the layout into, or else the layout itself. -/
theorem perform_cases (edit : Edit δ) (layout : Layout δ) :
    (∃ next, edit.apply layout = .ok next ∧ (edit.perform layout).state = next ∧
      (edit.perform layout).result = .ok ()) ∨
    ∃ e, edit.apply layout = .error e ∧ (edit.perform layout).state = layout ∧
      (edit.perform layout).result = .error e := by
  rw [perform_eq]
  cases h : edit.apply layout with
  | ok next => exact .inl ⟨next, rfl, rfl, rfl⟩
  | error e => exact .inr ⟨e, rfl, rfl, rfl⟩

/-- An operation that fails leaves the layout as it was. -/
theorem state_of_perform_error {edit : Edit δ} {layout : Layout δ} {e : Error}
    (h : (edit.perform layout).result = .error e) : (edit.perform layout).state = layout := by
  rcases edit.perform_cases layout with ⟨next, -, -, hr⟩ | ⟨_, -, hs, -⟩
  · rw [hr] at h
    cases h
  · exact hs

/-- An operation that succeeds constructs a layout from those that are constructed already. -/
theorem apply_constructed {edit : Edit δ} {layout next : Layout δ} (h : layout.Constructed)
    (he : ∀ element, edit.element? = some element → element.Constructed)
    (ha : edit.apply layout = .ok next) : next.Constructed := by
  cases edit with
  | addInput name => exact h.addInput ha
  | addOutput name => exact h.addOutput ha
  | addFilter name spec => exact h.addFilter (he _ rfl) ha
  | addPipeline name nested => exact h.addPipeline (he _ rfl) ha
  | connect c => exact h.connect ha
  | connectByName source sourcePort destination destinationPort => exact h.connectByName ha
  | connectToInput port destination destinationPort => exact h.connectToInput ha
  | connectToInputByName port destination destinationPort => exact h.connectToInputByName ha
  | connectToOutput source sourcePort port => exact h.connectToOutput ha
  | connectToOutputByName source sourcePort port => exact h.connectToOutputByName ha
  | autoConnect => exact h.autoConnect ha

/-- An operation that adds only what is constructed keeps the layout constructed, also where it
fails. -/
theorem perform_constructed {edit : Edit δ} {layout : Layout δ} (h : layout.Constructed)
    (he : ∀ element, edit.element? = some element → element.Constructed) :
    (edit.perform layout).state.Constructed := by
  rcases edit.perform_cases layout with ⟨next, ha, hs, -⟩ | ⟨_, -, hs, -⟩
  · rw [hs]
    exact apply_constructed h he ha
  · rw [hs]
    exact h

end Edit

/-- Layouts that are reached from a layout without anything by any operations, whether these
succeed or fail. What is nested in them was reached the same way. -/
inductive Layout.Reached : Layout δ → Prop
  /-- A layout without anything. -/
  | empty (typeName : String) : Reached (.empty typeName)
  /-- What an operation leaves. -/
  | perform {layout : Layout δ} (edit : Edit δ) : Reached layout →
    (∀ spec, edit.element? = some (.filter spec) → spec.Constructed) →
    (∀ nested, edit.element? = some (.pipeline nested) → Reached nested) →
    Reached (edit.perform layout).state

/-- Failures construct nothing, so the layouts that are reached are those that can be
constructed. -/
theorem Layout.Reached.constructed {layout : Layout δ} (h : layout.Reached) :
    layout.Constructed := by
  induction h with
  | empty typeName => exact .empty typeName
  | perform edit _ hf _ ih ihn =>
    refine Edit.perform_constructed ih fun element he => ?_
    cases element with
    | filter spec => exact hf spec he
    | pipeline nested => exact ihn nested he

/-- What operations leave of a layout, one after another, also where they fail. -/
def Edit.performAll (edits : List (Edit δ)) (layout : Layout δ) : Layout δ :=
  edits.foldl (fun layout edit => (edit.perform layout).state) layout

/-- Any sequence of operations that adds only constructed filters and layouts that are reached leads
from a layout that is reached to another one. -/
theorem Layout.Reached.performAll {layout : Layout δ} {edits : List (Edit δ)}
    (h : layout.Reached)
    (hf : ∀ edit ∈ edits, ∀ spec, edit.element? = some (.filter spec) → spec.Constructed)
    (hn : ∀ edit ∈ edits, ∀ nested, edit.element? = some (.pipeline nested) → nested.Reached) :
    (Edit.performAll edits layout).Reached := by
  induction edits generalizing layout with
  | nil => exact h
  | cons edit rest ih =>
    have hstep := h.perform edit (hf edit List.mem_cons_self) (hn edit List.mem_cons_self)
    exact ih hstep (fun e he => hf e (List.mem_cons_of_mem edit he))
      fun e he => hn e (List.mem_cons_of_mem edit he)

/-- Names that tell apart what bears them, and that can be the components of a path. -/
structure Proper (names : List String) : Prop where
  /-- No name is given twice. -/
  distinct : names.Nodup
  /-- No name is empty. -/
  nonempty : ∀ name ∈ names, name ≠ ""
  /-- No name has two colons in a row in it. -/
  whole : ∀ name ∈ names, ¬ [':', ':'] <:+: name.toList

/-- Names are proper if none is given twice and all are accepted. -/
theorem proper_of_checkName {bearer : Named} {names : List String} (hd : names.Nodup)
    (hc : ∀ name ∈ names, checkName bearer name = .ok ()) : Proper names where
  distinct := hd
  nonempty := fun name hn => (checkName_eq_ok_iff.mp (hc name hn)).1
  whole := by
    intro name hn hi
    have hs := (checkName_eq_ok_iff.mp (hc name hn)).2
    rw [Path.hasSeparator_iff.mpr hi] at hs
    cases hs

/-- A port that is declared keeps the names of the ports proper. -/
theorem Ports.add_proper {ports next : Ports} {name : String} (h : Proper ports.names)
    (ha : ports.add name = .ok next) : Proper next.names := by
  obtain ⟨hc, hn, rfl⟩ := Ports.add_eq_ok_iff.mp ha
  have hname : Proper [name] := proper_of_checkName (List.nodup_singleton name) fun other ho =>
    List.mem_singleton.mp ho ▸ hc
  constructor
  case distinct => exact List.nodup_append.mpr ⟨h.distinct, hname.distinct, by grind⟩
  case nonempty =>
    intro other ho
    rcases List.mem_append.mp ho with ho | ho
    · exact h.nonempty other ho
    · exact hname.nonempty other ho
  case whole =>
    intro other ho
    rcases List.mem_append.mp ho with ho | ho
    · exact h.whole other ho
    · exact hname.whole other ho

/-- There is no name that is not proper among none. -/
theorem proper_nil : Proper [] :=
  ⟨List.nodup_nil, nofun, nofun⟩

/-- The ports of a filter that can be constructed have proper names. -/
theorem FilterSpec.Constructed.proper {spec : FilterSpec δ} (h : spec.Constructed) :
    Proper spec.inputs.names ∧ Proper spec.outputs.names := by
  induction h with
  | empty typeName descriptor => exact ⟨proper_nil, proper_nil⟩
  | addInput _ ha ih =>
    obtain ⟨ports, hp, ha⟩ := bind_eq_ok_iff.mp ha
    obtain rfl := Except.ok.inj ha
    exact ⟨Ports.add_proper ih.1 hp, ih.2⟩
  | addOutput _ ha ih =>
    obtain ⟨ports, hp, ha⟩ := bind_eq_ok_iff.mp ha
    obtain rfl := Except.ok.inj ha
    exact ⟨ih.1, Ports.add_proper ih.2 hp⟩
  | describe _ _ ih => exact ih

namespace Layout

variable {layout : Layout δ}

/-- The ports of a layout that can be constructed have proper names. -/
theorem Constructed.proper (h : layout.Constructed) :
    Proper layout.inputs.names ∧ Proper layout.outputs.names := by
  refine h.induction (motive := fun layout =>
    Proper layout.inputs.names ∧ Proper layout.outputs.names) ?empty ?inputs ?outputs ?element
    ?connections
  case empty => exact fun typeName => ⟨proper_nil, proper_nil⟩
  case inputs => exact fun layout name ports ha ih => ⟨Ports.add_proper ih.1 ha, ih.2⟩
  case outputs => exact fun layout name ports ha ih => ⟨ih.1, Ports.add_proper ih.2 ha⟩
  case element => exact fun layout placed _ _ _ ih => ih
  case connections => exact fun layout added _ ih => ih

/-- What the compiler relies on in a layout without looking at it again. -/
structure Consistent (layout : Layout δ) : Prop where
  /-- The elements have proper names. -/
  elements : Proper (layout.elements.map Placed.name)
  /-- So have the inputs. -/
  inputs : Proper layout.inputs.names
  /-- So have the outputs. -/
  outputs : Proper layout.outputs.names
  /-- So have the inputs and the outputs of each element. -/
  ports : ∀ placed ∈ layout.elements,
    Proper placed.element.inputs.names ∧ Proper placed.element.outputs.names
  /-- Every connection reads an output of an element or an input of the layout. -/
  source : ∀ c ∈ layout.connections, match c.source with
    | .member index => ∃ placed, layout.elements[index]? = some placed ∧
      c.sourcePort < placed.element.outputs.size
    | .boundary => c.sourcePort < layout.inputs.size
  /-- Every connection feeds an input of an element or an output of the layout. -/
  destination : ∀ c ∈ layout.connections, match c.destination with
    | .member index => ∃ placed, layout.elements[index]? = some placed ∧
      c.destinationPort < placed.element.inputs.size
    | .boundary => c.destinationPort < layout.outputs.size
  /-- No connection leads from the boundary to the boundary. -/
  crossing : ∀ c ∈ layout.connections, ¬ (c.source = .boundary ∧ c.destination = .boundary)
  /-- Connections into the same port are the same, and none is there twice. -/
  fedOnce : (layout.connections.map fun c => (c.destination, c.destinationPort)).Nodup
  /-- Every connection is found from the port that it feeds. -/
  fed : ∀ c ∈ layout.connections, layout.sourceOf? c.destination c.destinationPort = some c
  /-- Every connection is found from the port that it reads. -/
  read : ∀ c ∈ layout.connections, c ∈ layout.destinationsOf c.source c.sourcePort

/-- The elements of a layout that can be constructed have proper names. -/
theorem Titled.proper (titled : layout.Titled) : Proper (layout.elements.map Placed.name) := by
  have hc : ∀ name ∈ layout.elements.map Placed.name, checkName .element name = .ok () :=
    List.forall_mem_map.mpr titled.admissible
  exact proper_of_checkName titled.distinct hc

/-- The ports of an element that can be constructed have proper names. -/
theorem proper_of_constructed {element : Element δ} (h : element.Constructed) :
    Proper element.inputs.names ∧ Proper element.outputs.names := by
  cases element with
  | filter spec => exact FilterSpec.Constructed.proper h
  | pipeline nested => exact Constructed.proper h

/-- Every layout that can be constructed is consistent. -/
theorem consistent_of_constructed (h : layout.Constructed) : layout.Consistent where
  elements := h.titled.proper
  inputs := h.proper.1
  outputs := h.proper.2
  ports := fun placed hp => proper_of_constructed (h.members placed hp)
  source := by
    intro c hc
    have hs := h.wired.source c hc
    cases hn : c.source with
    | boundary =>
      rw [hn] at hs
      exact hasPort_boundary_output.mp hs
    | member index =>
      rw [hn] at hs
      exact hasPort_member_output.mp hs
  destination := by
    intro c hc
    have hd := h.wired.destination c hc
    cases hn : c.destination with
    | boundary =>
      rw [hn] at hd
      exact hasPort_boundary_input.mp hd
    | member index =>
      rw [hn] at hd
      exact hasPort_member_input.mp hd
  crossing := h.wired.crossing
  fedOnce := h.wired.fedOnce
  fed := fun c hc => h.wired.fedOnce.sourceOf?_eq hc rfl
  read := fun c hc => List.mem_filter.mpr ⟨hc, Connection.reads_iff.mpr rfl⟩

/-- Whatever operations are tried on layouts, every layout that is reached is consistent, and what
fails on it leaves it as it was. -/
theorem Reached.consistent (h : layout.Reached) : layout.Consistent ∧
    ∀ (edit : Edit δ) (e : Error), (edit.perform layout).result = .error e →
      (edit.perform layout).state = layout :=
  ⟨consistent_of_constructed h.constructed, fun _ _ he => Edit.state_of_perform_error he⟩

/-- A filter with one port on each side. -/
def blur : FilterSpec Unit :=
  ⟨"Blur", ⟨["in"]⟩, ⟨["out"]⟩, ()⟩

/-- The filter can be constructed. -/
theorem blur_constructed : blur.Constructed :=
  FilterSpec.constructed_of_declared "Blur" (Ports.declared_singleton rfl)
    (Ports.declared_singleton rfl) ()

/-- The filter between the only input and the only output of a layout. -/
def blurring : Layout Unit where
  typeName := "Blurring"
  inputs := ⟨["in"]⟩
  outputs := ⟨["out"]⟩
  elements := [⟨"blur", .filter blur⟩]
  connections := [⟨.boundary, 0, .member 0, 0⟩, ⟨.member 0, 0, .boundary, 0⟩]

/-- Operations that make the layout. The second input has a name that is taken, the third one has
a separator in its name, and the filter is fed only once. -/
def blurringEdits : List (Edit Unit) :=
  [.addInput "in", .addInput "in", .addOutput "out", .addInput "in::more", .addFilter "blur" blur,
    .connectToInput 0 0 0, .connectToInput 0 0 0, .autoConnect]

/-- The layout is reached in spite of the operations that fail. -/
theorem blurring_reached : blurring.Reached := by
  have he : Edit.performAll blurringEdits (.empty "Blurring") = blurring := rfl
  rw [← he]
  refine Reached.performAll (.empty "Blurring") ?filters ?nested
  case filters => simpa [blurringEdits, Edit.element?] using blur_constructed
  case nested => simp [blurringEdits, Edit.element?]

/-- The layout is consistent, and another element under the name of its filter is refused and
changes nothing. -/
theorem blurring_consistent : blurring.Reached ∧ blurring.Consistent ∧
    ((Edit.addPipeline "blur" blurring).perform blurring).state = blurring := by
  have h := Reached.consistent blurring_reached
  have hrefused : ((Edit.addPipeline "blur" blurring).perform blurring).result =
      .error (Cause.elementExists "blur" "Blurring") := rfl
  exact ⟨blurring_reached, h.1, h.2 (.addPipeline "blur" blurring) _ hrefused⟩

end Layout

end RenderGraph
