import RenderGraph.Proofs.Run.InRange

/-!
# What can be done in a workspace

External textures and pipelines are made on one device, textures are bound to any
of the pipelines, and pipelines are run, reset, tweaked and monitored in any order.
Each operation is about one pipeline or about none. Only runs write, and they write
to attachments of the pipeline that is run and to nothing else.
-/

namespace RenderGraph

namespace Table

section

variable {α : Type} {table : Table α} {key other : String} {a : α}

/-- The latest thing is found under its name. -/
theorem lookup_insert_self : (Table.insert table key a).lookup key = some a := by
  simp [Table.insert]

/-- What is found under other names does not change. -/
theorem lookup_insert_of_ne (h : other ≠ key) :
    (Table.insert table key a).lookup other = table.lookup other := by
  have hf : ∀ table : Table α,
      (table.filter fun entry => entry.1 != key).lookup other = table.lookup other := by
    intro table
    induction table with
    | nil => rfl
    | cons entry rest ih =>
      obtain ⟨name, b⟩ := entry
      by_cases hn : name = key
      · have hne : other ≠ name := hn ▸ h
        simp [hn, List.lookup_cons, beq_false_of_ne h, ih]
      · simp [hn, List.lookup_cons, ih]
  rw [Table.insert, List.lookup_cons, beq_false_of_ne h]
  exact hf table

/-- What is in a table after something was named is that or was there before. -/
theorem mem_insert {entry : String × α} (h : entry ∈ Table.insert table key a) :
    entry = (key, a) ∨ entry ∈ table :=
  (List.mem_cons.mp h).imp_right fun hm => (List.mem_filter.mp hm).1

/-- What is found is in the table. -/
theorem mem_of_lookup (h : table.lookup key = some a) : (key, a) ∈ table := by
  obtain ⟨before, after, rfl, -⟩ := List.lookup_eq_some_iff.mp h
  simp

/-- Names stay different when something is named. -/
theorem nodup_insert (h : (table.map Prod.fst).Nodup) :
    ((Table.insert table key a).map Prod.fst).Nodup := by
  rw [Table.insert, List.map_cons, List.nodup_cons]
  refine ⟨?_, h.sublist (List.filter_sublist.map _)⟩
  simp

/-- A thing that is found can be put in front of all others. -/
theorem perm_of_lookup (h : (table.map Prod.fst).Nodup) (hl : table.lookup key = some a) :
    table.Perm ((key, a) :: table.filter fun entry => entry.1 != key) := by
  induction table with
  | nil => cases hl
  | cons entry rest ih =>
    obtain ⟨name, b⟩ := entry
    rw [List.map_cons, List.nodup_cons] at h
    by_cases hn : name = key
    · subst hn
      have hb : b = a := by simpa using hl
      have hrest : (rest.filter fun entry => entry.1 != name) = rest := by
        refine List.filter_eq_self.mpr fun entry hm => bne_iff_ne.mpr fun he => ?_
        exact h.1 (List.mem_map.mpr ⟨entry, hm, he⟩)
      simp [hb, hrest]
    · have hfound : rest.lookup key = some a := by
        rwa [List.lookup_cons, beq_false_of_ne (Ne.symm hn)] at hl
      have hkept : (((name, b) :: rest).filter fun entry => entry.1 != key) =
          (name, b) :: rest.filter fun entry => entry.1 != key := by simp [hn]
      rw [hkept]
      exact ((ih h.2 hfound).cons (name, b)).trans (.swap _ _ _)

end

end Table

variable {B : Backend}

namespace Workspace

/-- Keeps what is left of a pipeline under its name, and what is left of the device. -/
def keep (key : String) (left : Running B) (workspace : Workspace B) : Workspace B :=
  { workspace.addPipeline key left.pipeline with device := left.device }

/-- Calls something on a named pipeline. Without such a pipeline nothing happens. -/
def call (key : String) (call : Call B) (workspace : Workspace B) : Workspace B :=
  match workspace.pipelines.lookup key with
  | none => workspace
  | some pipeline => workspace.keep key (call.perform ⟨pipeline, workspace.device⟩).state

end Workspace

namespace Device

/-- One use of the things on a device in memory. -/
inductive Operation where
  /-- An external texture is made and named. -/
  | texture (name contents : String)
  /-- The device is told what its timer shows and which filters it refuses. -/
  | configure (timer : Option Duration) (failCreate failRender : Option String)
  /-- A layout is built into a pipeline, which is named if there is one. -/
  | build (key name : String) (layout : Layout TermDescriptor) (constructed : layout.Constructed)
  /-- The outputs of one named pipeline are bound to the next free inputs of another. -/
  | appendOutputsOf (key provider : String)
  /-- Something is called on a named pipeline. -/
  | call (key : String) (call : Call memory) (on : call.OnPipeline)

namespace Operation

/-- What an operation leaves of a workspace, also where it fails. -/
def perform : Operation → Workspace memory → Workspace memory
  | texture name contents, workspace =>
    { workspace.addTexture name (Memory.texture contents workspace.device).1 with
      device := (Memory.texture contents workspace.device).2 }
  | configure timer failCreate failRender, workspace =>
    { workspace with device := { workspace.device with timer, failCreate, failRender } }
  | build key name layout _, workspace => (Workspace.build key name layout workspace).state
  | appendOutputsOf key provider, workspace =>
    match workspace.pipelines.lookup provider with
    | none => workspace
    | some pipeline => workspace.call key (.appendOutputsOf pipeline)
  | call key made _, workspace => workspace.call key made

/-- What operations leave of a workspace, one after another. -/
def performAll (operations : List Operation) (workspace : Workspace memory) : Workspace memory :=
  operations.foldl (fun workspace operation => operation.perform workspace) workspace

/-- Operations in two parts. -/
theorem performAll_append (operations more : List Operation) (workspace : Workspace memory) :
    performAll (operations ++ more) workspace = performAll more (performAll operations workspace) :=
  List.foldl_append

/-- A pipeline of this name is built. -/
def Builds (key : String) : Operation → Prop
  | build built _ _ _ => built = key
  | _ => False

/-- The pipeline of this name is run. -/
def Runs (key : String) : Operation → Prop
  | call called made _ => called = key ∧ made.isRun = true
  | _ => False

/-- Something is done with the pipeline of this name. -/
def Concerns (key : String) : Operation → Prop
  | build built _ _ _ => built = key
  | appendOutputsOf taker _ => taker = key
  | call called _ _ => called = key
  | _ => False

/-- How an operation ends, and what it leaves of a workspace. -/
inductive Outcome (workspace : Workspace memory) : Operation → Workspace memory → Prop
  /-- There is no pipeline of the name. Nothing changes. -/
  | absent {operation : Operation} : Outcome workspace operation workspace
  /-- There is one more texture. -/
  | texture {name contents : String} : Outcome workspace (.texture name contents)
    { workspace.addTexture name (Memory.texture contents workspace.device).1 with
      device := (Memory.texture contents workspace.device).2 }
  /-- The device is set up. -/
  | configured {timer : Option Duration} {failCreate failRender : Option String} :
    Outcome workspace (.configure timer failCreate failRender)
      { workspace with device := { workspace.device with timer, failCreate, failRender } }
  /-- A pipeline is built and named. -/
  | built {key name : String} {layout : Layout TermDescriptor} {constructed : layout.Constructed}
    {pipeline : Pipeline memory} :
    (Pipeline.build name layout workspace.device).result = .ok pipeline →
    Outcome workspace (.build key name layout constructed) (workspace.keep key
      ⟨pipeline, (Pipeline.build (B := memory) name layout workspace.device).state⟩)
  /-- The build fails. It may have made textures. -/
  | unbuilt {key name : String} {layout : Layout TermDescriptor} {constructed : layout.Constructed} :
    Outcome workspace (.build key name layout constructed)
      { workspace with
        device := (Pipeline.build (B := memory) name layout workspace.device).state }
  /-- Something is called on a pipeline, with or without success. -/
  | called {operation : Operation} {key : String} {call : Call memory}
    {pipeline : Pipeline memory} : operation.Concerns key → call.OnPipeline →
    (call.isRun = true → operation.Runs key) →
    workspace.pipelines.lookup key = some pipeline →
    Outcome workspace operation
      (workspace.keep key (call.perform ⟨pipeline, workspace.device⟩).state)

/-- An operation ends in one of these ways. -/
theorem perform_outcome (operation : Operation) (workspace : Workspace memory) :
    Outcome workspace operation (operation.perform workspace) := by
  have called : ∀ {operation : Operation} {key : String} {call : Call memory},
      operation.Concerns key → call.OnPipeline → (call.isRun = true → operation.Runs key) →
      Outcome workspace operation (workspace.call key call) := by
    intro operation key call hc on hr
    rw [Workspace.call]
    cases hl : workspace.pipelines.lookup key with
    | none => exact .absent
    | some pipeline => exact .called hc on hr hl
  cases operation with
  | texture name contents => exact .texture
  | configure timer failCreate failRender => exact .configured
  | build key name layout constructed =>
    cases hr : (Pipeline.build (B := memory) name layout workspace.device).result with
    | ok pipeline =>
      have hleft : (Workspace.build key name layout workspace).state =
          workspace.keep key
            ⟨pipeline, (Pipeline.build (B := memory) name layout workspace.device).state⟩ := by
        simp only [Workspace.build, Workspace.onDevice, Action.zoom, Bind.bind, Action.bind, hr]
        rfl
      rw [perform, hleft]
      exact .built hr
    | error e =>
      have hleft : (Workspace.build key name layout workspace).state =
          { workspace with
            device := (Pipeline.build (B := memory) name layout workspace.device).state } := by
        simp only [Workspace.build, Workspace.onDevice, Action.zoom, Bind.bind, Action.bind, hr]
      rw [perform, hleft]
      exact .unbuilt
  | appendOutputsOf key provider =>
    rw [perform]
    cases workspace.pipelines.lookup provider with
    | none => exact .absent
    | some pipeline => exact called rfl trivial fun hr => absurd hr Bool.false_ne_true
  | call key made on => exact called rfl on fun hr => ⟨rfl, hr⟩

end Operation

section Frames

variable {workspace after : Workspace memory} {operation : Operation} {texture : MemoryTexture}
  {text : String}

/-- What holds of the texts of a device holds after a call if it withstands any texts in the
attachments of the pipeline that the call runs. -/
theorem perform_cells {I : List String → Prop} {call : Call memory} (on : call.OnPipeline)
    {running : Running memory} (written : call.isRun = true → ∀ target ∈ running.pipeline.targets,
      ∀ attachment ∈ target.attachments, ∀ text cells, I cells → I (cells.set attachment.cell text))
    (h : I running.device.cells) : I (call.perform running).state.device.cells := by
  by_cases hr : call.isRun = true
  · rw [Call.perform_of_isRun hr]
    refine Pipeline.process_preserves (I := fun left : Running memory => I left.device.cells) h ?_
      fun _ _ _ hi _ => hi
    constructor
    case setInput => exact fun _ _ _ _ _ _ _ hi => hi
    case render =>
      exact fun _ _ target ht => Memory.render_keeps (I := fun device => I device.cells)
        (fun attachment ha text device hi => written hr target ht attachment ha text _ hi)
        fun _ _ hi => hi
    case startTimer => exact fun _ _ hi => hi
    case stopTimer => exact fun _ _ hi => hi
  · rw [Call.device_perform on (Bool.eq_false_of_not_eq_true hr)]
    exact h

/-- A texture that is no attachment of a pipeline that is run shows what it showed before. -/
theorem Operation.Outcome.shows (outcome : Outcome workspace operation after)
    (foreign : ∀ key pipeline, operation.Runs key →
      workspace.pipelines.lookup key = some pipeline → Foreign pipeline texture)
    (shown : workspace.device.Shows texture text) : after.device.Shows texture text := by
  cases outcome with
  | absent => exact shown
  | texture => exact shown.newTexture _
  | configured => exact shown
  | built _ => exact build_shows _ _ _ shown
  | unbuilt => exact build_shows _ _ _ shown
  | called _ on runs hl =>
    refine perform_cells (I := fun cells => cells[texture.cell]? = some text) on ?_ shown
    intro hr target ht attachment ha _ cells hi
    exact (List.getElem?_set_ne (foreign _ _ (runs hr) hl target ht attachment ha).symm).trans hi

/-- So it keeps its text. -/
theorem Operation.Outcome.contents_eq (outcome : Outcome workspace operation after)
    (foreign : ∀ key pipeline, operation.Runs key →
      workspace.pipelines.lookup key = some pipeline → Foreign pipeline texture)
    (created : texture.cell < workspace.device.cells.length) :
    after.device.contents texture = workspace.device.contents texture :=
  (Memory.shows_iff.mp (outcome.shows foreign (Memory.shows_iff.mpr ⟨created, rfl⟩))).2

/-- A pipeline that an operation is not about is as it was. -/
theorem Operation.Outcome.lookup_eq (outcome : Outcome workspace operation after) {key : String}
    (h : ¬ operation.Concerns key) :
    after.pipelines.lookup key = workspace.pipelines.lookup key := by
  cases outcome with
  | absent => rfl
  | texture => rfl
  | configured => rfl
  | built _ => exact Table.lookup_insert_of_ne fun he => h he.symm
  | unbuilt => rfl
  | called concerns => exact Table.lookup_insert_of_ne fun he => h (he ▸ concerns)

/-- A pipeline that is not built anew stays of the same build. -/
theorem Operation.Outcome.exists_kept (outcome : Outcome workspace operation after) {key : String}
    {pipeline : Pipeline memory} (h : ¬ operation.Builds key)
    (hl : workspace.pipelines.lookup key = some pipeline) :
    ∃ kept, after.pipelines.lookup key = some kept ∧ pipeline.SameBuild kept := by
  cases outcome with
  | absent => exact ⟨pipeline, hl, .refl pipeline⟩
  | texture => exact ⟨pipeline, hl, .refl pipeline⟩
  | configured => exact ⟨pipeline, hl, .refl pipeline⟩
  | built _ =>
    exact ⟨pipeline, (Table.lookup_insert_of_ne fun he => h he.symm).trans hl, .refl pipeline⟩
  | unbuilt => exact ⟨pipeline, hl, .refl pipeline⟩
  | @called _ other call found _ _ _ hfound =>
    by_cases he : key = other
    · subst he
      obtain rfl : found = pipeline := Option.some.inj (hfound.symm.trans hl)
      exact ⟨_, Table.lookup_insert_self, call.perform_sameBuild ⟨found, workspace.device⟩⟩
    · exact ⟨pipeline, (Table.lookup_insert_of_ne he).trans hl, .refl pipeline⟩

end Frames

end Device

end RenderGraph
