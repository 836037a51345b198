import RenderGraph.Proofs.Workspace.Operations
import Mathlib.Data.List.Flatten

/-!
# Who owns a texture

The pipelines of a workspace share one device, and textures pass from one to the
next. Still every texture has one owner: it is external, or it is one attachment
of one target of one pipeline. What an operation is not about keeps its texts, so
the outputs of a pipeline stay readable until it is run again.
-/

namespace RenderGraph

variable {B : Backend}

namespace Workspace

/-- The attachments of all pipelines of a table. -/
def attachmentsIn (pipelines : Table (Pipeline B)) : List B.Texture :=
  pipelines.flatMap fun entry => entry.2.targets.flatMap B.attachments

/-- The textures that something in a workspace owns: the external ones, and the attachments of all
pipelines. -/
def owned (workspace : Workspace B) : List B.Texture :=
  workspace.textures.map Prod.snd ++ attachmentsIn workspace.pipelines

section Attachments

variable {pipelines : Table (Pipeline B)} {key : String} {pipeline : Pipeline B}

/-- The attachments of a pipeline are among those of its table. -/
theorem mem_attachmentsIn (h : (key, pipeline) ∈ pipelines) {target : B.Target}
    (ht : target ∈ pipeline.targets) {attachment : B.Texture}
    (ha : attachment ∈ B.attachments target) : attachment ∈ attachmentsIn pipelines :=
  List.mem_flatMap.mpr ⟨(key, pipeline), h, List.mem_flatMap.mpr ⟨target, ht, ha⟩⟩

/-- The attachments of a pipeline that is found can be put in front of those of all others. -/
theorem attachmentsIn_perm (h : (pipelines.map Prod.fst).Nodup)
    (hl : pipelines.lookup key = some pipeline) :
    (attachmentsIn pipelines).Perm (pipeline.targets.flatMap B.attachments ++
      attachmentsIn (pipelines.filter fun entry => entry.1 != key)) :=
  (Table.perm_of_lookup h hl).flatMap_right _

end Attachments

end Workspace

namespace Device

open Workspace (attachmentsIn mem_attachmentsIn attachmentsIn_perm)

/-- Every output of a pipeline can be read: it is an attachment of one of its targets. -/
def Readable (pipeline : Pipeline memory) : Prop :=
  ∀ port < pipeline.layout.outputs.size, ∃ texture, pipeline.output port = .ok texture ∧
    ∃ target ∈ pipeline.targets, texture ∈ target.attachments

/-- That does not change as long as the build is the same. -/
theorem Readable.of_sameBuild {pipeline left : Pipeline memory} (h : Readable pipeline)
    (same : pipeline.SameBuild left) : Readable left := by
  intro port hp
  rw [same.output_eq, same.targets]
  exact h port (same.layout ▸ hp)

/-- Every output of a pipeline that was just built can be read. -/
theorem readable_of_build {layout : Layout TermDescriptor} (constructed : layout.Constructed)
    {name : String} {device : Memory} {pipeline : Pipeline memory}
    (h : (Pipeline.build (B := memory) name layout device).result = .ok pipeline) :
    Readable pipeline := by
  obtain ⟨graph, schedule, final, -, -, -, finished, hp, -⟩ :=
    exists_allocated_of_build constructed h
  have hlength : layout.outputs.size = pipeline.plan.outputs.length := by
    have hl := finished.outputs.length_eq
    rw [hp]
    simp only [List.length_zipIdx] at hl
    simp [Compile.plan, ← hl, Ports.size]
  have hlayout : pipeline.layout = layout := by rw [hp]
  obtain ⟨_, -, furnished⟩ := Pipeline.exists_furnished memory_exact constructed h
  intro port hport
  rw [hlayout, hlength] at hport
  obtain ⟨id, index, hbinding, planned, hplanned, hlt⟩ :=
    furnished.bounded.outputs _ (List.getElem_mem hport)
  obtain ⟨target, htarget, -, hcount⟩ := getElem?_of_forall₂ furnished.pool hplanned
  rw [hcount] at hlt
  refine ⟨target.attachments[index], ?_, target, List.mem_of_getElem? htarget,
    List.getElem_mem hlt⟩
  simp only [Pipeline.output, List.getElem?_eq_getElem hport, Pipeline.outputTexture, hbinding,
    Pipeline.attachment, htarget, Option.bind_some, List.getElem?_eq_getElem hlt]

/-- In a workspace names are different, textures have one owner, and outputs can be read. -/
structure Orderly (workspace : Workspace memory) : Prop where
  /-- No two pipelines have the same name. -/
  named : (workspace.pipelines.map Prod.fst).Nodup
  /-- External textures and attachments are in different cells. -/
  housed : Housed workspace.owned workspace.device
  /-- The outputs of all pipelines can be read. -/
  readable : ∀ entry ∈ workspace.pipelines, Readable entry.2

namespace Orderly

section Owners

variable {workspace : Workspace memory} (orderly : Orderly workspace) {key other : String}
  {pipeline provider : Pipeline memory}
include orderly

/-- An attachment of a named pipeline is in a cell. -/
theorem created (h : workspace.pipelines.lookup key = some pipeline)
    {target : TermTarget MemoryTexture} (ht : target ∈ pipeline.targets)
    {attachment : MemoryTexture} (ha : attachment ∈ target.attachments) :
    attachment.cell < workspace.device.cells.length :=
  orderly.housed.created attachment
    (List.mem_append_right _ (mem_attachmentsIn (Table.mem_of_lookup h) ht ha))

/-- An external texture is no attachment of a pipeline. -/
theorem foreign_of_external {entry : String × MemoryTexture} (he : entry ∈ workspace.textures)
    (h : workspace.pipelines.lookup key = some pipeline) : Foreign pipeline entry.2 :=
  fun _ ht _ ha => orderly.housed.cell_ne_of_append (List.mem_map_of_mem he)
    (mem_attachmentsIn (Table.mem_of_lookup h) ht ha)

/-- An attachment of one pipeline is no attachment of another. -/
theorem foreign_of_ne (hne : other ≠ key) (h : workspace.pipelines.lookup key = some pipeline)
    (ho : workspace.pipelines.lookup other = some provider)
    {target : TermTarget MemoryTexture} (ht : target ∈ provider.targets)
    {attachment : MemoryTexture} (ha : attachment ∈ target.attachments) :
    Foreign pipeline attachment := by
  have hhoused := (orderly.housed.sublist (List.sublist_append_right _ _)).perm
    (attachmentsIn_perm orderly.named h).symm
  have hothers : (other, provider) ∈ workspace.pipelines.filter fun entry => entry.1 != key :=
    List.mem_filter.mpr ⟨Table.mem_of_lookup ho, bne_iff_ne.mpr hne⟩
  intro own hown mine hmine
  exact (hhoused.cell_ne_of_append (List.mem_flatMap.mpr ⟨own, hown, hmine⟩)
    (mem_attachmentsIn hothers ht ha)).symm

end Owners

end Orderly

/-- After any operation the workspace is still orderly. -/
theorem Operation.Outcome.orderly {workspace after : Workspace memory} {operation : Operation}
    (outcome : Outcome workspace operation after) (orderly : Orderly workspace) :
    Orderly after := by
  cases outcome with
  | absent => exact orderly
  | @texture name contents =>
    refine ⟨orderly.named, ?_, orderly.readable⟩
    have hkept : ((workspace.textures.filter fun entry => entry.1 != name).map Prod.snd).Sublist
        (workspace.textures.map Prod.snd) := List.filter_sublist.map Prod.snd
    have hnew := (orderly.housed.newTexture contents).sublist
      ((hkept.append_right (attachmentsIn workspace.pipelines)).append_right _)
    exact hnew.perm (List.perm_append_singleton _ _).symm
  | configured => exact ⟨orderly.named, orderly.housed.mono (Nat.le_refl _), orderly.readable⟩
  | @built key name layout constructed pipeline hb =>
    refine ⟨Table.nodup_insert orderly.named, ?_, ?_⟩
    · have hkept : (attachmentsIn (workspace.pipelines.filter fun entry => entry.1 != key)).Sublist
          (attachmentsIn workspace.pipelines) := List.filter_sublist.flatMap _
      have hnew := (housed_of_build constructed hb orderly.housed).sublist
        ((hkept.append_left (workspace.textures.map Prod.snd)).append_right _)
      refine hnew.perm ?_
      rw [List.append_assoc]
      exact List.perm_append_comm.append_left _
    · intro entry he
      rcases Table.mem_insert he with rfl | hm
      · exact readable_of_build constructed hb
      · exact orderly.readable entry hm
  | unbuilt =>
    refine ⟨orderly.named, ⟨orderly.housed.distinct, fun texture ht => ?_⟩, orderly.readable⟩
    have hshown := Memory.shows_iff.mpr ⟨orderly.housed.created texture ht, rfl⟩
    exact (Memory.shows_iff.mp (build_shows _ _ _ hshown)).1
  | @called _ key call pipeline _ on _ hl =>
    have same := call.perform_sameBuild ⟨pipeline, workspace.device⟩
    have hlength : (call.perform ⟨pipeline, workspace.device⟩).state.device.cells.length =
        workspace.device.cells.length :=
      perform_cells (I := fun cells => cells.length = workspace.device.cells.length) on
        (fun _ _ _ _ _ _ _ hi => List.length_set.trans hi) rfl
    refine ⟨Table.nodup_insert orderly.named, ?_, ?_⟩
    · refine (orderly.housed.perm (List.Perm.append_left _ ?_)).mono hlength.ge
      have hfront := (attachmentsIn_perm orderly.named hl).symm
      rwa [← same.targets] at hfront
    · intro entry he
      rcases Table.mem_insert he with rfl | hm
      · exact (orderly.readable _ (Table.mem_of_lookup hl)).of_sameBuild same
      · exact orderly.readable entry hm

/-- The attachments of a pipeline have the same texts on two devices. -/
def SameTexts (pipeline : Pipeline memory) (before after : Memory) : Prop :=
  ∀ target ∈ pipeline.targets, ∀ attachment ∈ target.attachments,
    after.contents attachment = before.contents attachment

/-- A texture is there and is no attachment of a pipeline. -/
structure Unattached (workspace : Workspace memory) (texture : MemoryTexture) : Prop where
  /-- Its cell exists. -/
  created : texture.cell < workspace.device.cells.length
  /-- No pipeline renders to it. -/
  foreign : ∀ key pipeline, workspace.pipelines.lookup key = some pipeline →
    Foreign pipeline texture

/-- What an operation leaves alone. -/
structure Operation.Spares (operation : Operation) (before after : Workspace memory) : Prop where
  /-- Only runs write, and only to attachments of the pipeline that is run. -/
  written : ∀ texture : MemoryTexture, texture.cell < before.device.cells.length →
    after.device.contents texture ≠ before.device.contents texture →
    ∃ key pipeline, operation.Runs key ∧ before.pipelines.lookup key = some pipeline ∧
      ∃ target ∈ pipeline.targets, ∃ attachment ∈ target.attachments,
        texture.cell = attachment.cell
  /-- External textures keep their texts. -/
  external : ∀ entry ∈ before.textures,
    after.device.contents entry.2 = before.device.contents entry.2
  /-- A pipeline that the operation is not about is as it was, and so are its attachments. -/
  others : ∀ key pipeline, before.pipelines.lookup key = some pipeline → ¬ operation.Concerns key →
    after.pipelines.lookup key = some pipeline ∧ SameTexts pipeline before.device after.device
  /-- A pipeline that is not built anew stays of the same build, and if it is not run, its
  attachments keep their texts. -/
  kept : ∀ key pipeline, before.pipelines.lookup key = some pipeline → ¬ operation.Builds key →
    ∃ left, after.pipelines.lookup key = some left ∧ pipeline.SameBuild left ∧
      (¬ operation.Runs key → SameTexts pipeline before.device after.device)

section Steps

variable {workspace : Workspace memory} {operation : Operation}

/-- The pipeline of a name is run only by operations that are about it. -/
theorem Operation.Runs.concerns {key : String} (h : operation.Runs key) : operation.Concerns key := by
  cases operation with
  | call called made on => exact h.1
  | _ => exact h.elim

/-- In an orderly workspace an operation leaves alone what it is not about. -/
theorem Orderly.spares (orderly : Orderly workspace) (operation : Operation) :
    operation.Spares workspace (operation.perform workspace) := by
  have outcome := operation.perform_outcome workspace
  have texts : ∀ key pipeline, workspace.pipelines.lookup key = some pipeline →
      ¬ operation.Runs key →
      SameTexts pipeline workspace.device (operation.perform workspace).device := by
    intro key pipeline hl hr target ht attachment ha
    refine outcome.contents_eq (fun other run hruns hrun => ?_) (orderly.created hl ht ha)
    exact orderly.foreign_of_ne (fun he : key = other => hr (he ▸ hruns)) hrun hl ht ha
  constructor
  case written =>
    intro texture created changed
    by_contra hnone
    refine changed (outcome.contents_eq (fun key pipeline hr hl target ht attachment ha he => ?_)
      created)
    exact hnone ⟨key, pipeline, hr, hl, target, ht, attachment, ha, he⟩
  case external =>
    intro entry he
    have created := orderly.housed.created entry.2
      (List.mem_append_left _ (List.mem_map_of_mem he))
    exact outcome.contents_eq (fun key pipeline _ hl => orderly.foreign_of_external he hl) created
  case others =>
    intro key pipeline hl hc
    exact ⟨(outcome.lookup_eq hc).trans hl, texts key pipeline hl fun hr => hc hr.concerns⟩
  case kept =>
    intro key pipeline hl hb
    obtain ⟨left, hleft, same⟩ := outcome.exists_kept hb hl
    exact ⟨left, hleft, same, texts key pipeline hl⟩

/-- A texture that is no attachment never becomes one, for attachments are made in new cells, and
keeps its text. -/
theorem Unattached.perform {texture : MemoryTexture} (h : Unattached workspace texture)
    (operation : Operation) : Unattached (operation.perform workspace) texture ∧
      (operation.perform workspace).device.contents texture =
        workspace.device.contents texture := by
  have outcome := operation.perform_outcome workspace
  generalize operation.perform workspace = after at outcome ⊢
  have shown := outcome.shows (fun key pipeline _ hl => h.foreign key pipeline hl)
    (Memory.shows_iff.mpr ⟨h.created, rfl⟩)
  have hafter := Memory.shows_iff.mp shown
  refine ⟨⟨hafter.1, fun key pipeline hl => ?_⟩, hafter.2⟩
  cases outcome with
  | absent => exact h.foreign key pipeline hl
  | texture => exact h.foreign key pipeline hl
  | configured => exact h.foreign key pipeline hl
  | unbuilt => exact h.foreign key pipeline hl
  | @built other _ _ constructed made hb =>
    by_cases he : key = other
    · subst he
      obtain rfl : made = pipeline := Option.some.inj (Table.lookup_insert_self.symm.trans hl)
      have housed : Housed [texture] workspace.device :=
        ⟨List.nodup_singleton _, fun _ ht => List.mem_singleton.mp ht ▸ h.created⟩
      have hnew := housed_of_build constructed hb housed
      exact fun target ht attachment ha => hnew.cell_ne_of_append (List.mem_singleton_self texture)
        (List.mem_flatMap.mpr ⟨target, ht, ha⟩)
    · exact h.foreign key pipeline ((Table.lookup_insert_of_ne he).symm.trans hl)
  | @called _ other call found _ _ _ hfound =>
    by_cases he : key = other
    · subst he
      have same := call.perform_sameBuild ⟨found, workspace.device⟩
      obtain rfl := Option.some.inj (Table.lookup_insert_self.symm.trans hl)
      exact fun target ht => h.foreign key found hfound target (same.targets ▸ ht)
    · exact h.foreign key pipeline ((Table.lookup_insert_of_ne he).symm.trans hl)

/-- So it has the same text after any operations. -/
theorem Unattached.contents_performAll {texture : MemoryTexture} (h : Unattached workspace texture)
    (operations : List Operation) :
    (Operation.performAll operations workspace).device.contents texture =
      workspace.device.contents texture := by
  induction operations generalizing workspace with
  | nil => rfl
  | cons operation rest ih =>
    obtain ⟨hnext, htext⟩ := h.perform operation
    exact (ih hnext).trans htext

/-- After any operations an orderly workspace is still orderly. -/
theorem Orderly.performAll (orderly : Orderly workspace) (operations : List Operation) :
    Orderly (Operation.performAll operations workspace) := by
  induction operations generalizing workspace with
  | nil => exact orderly
  | cons operation rest ih => exact ih ((operation.perform_outcome workspace).orderly orderly)

/-- A workspace without anything is orderly. -/
theorem orderly_new (device : Memory) : Orderly (Workspace.new device) :=
  ⟨List.nodup_nil, .nil device, nofun⟩

/-- While a pipeline is neither built anew nor run, its attachments keep their texts, whatever else
is done. -/
theorem Orderly.kept (orderly : Orderly workspace) {key : String} {pipeline : Pipeline memory}
    (hl : workspace.pipelines.lookup key = some pipeline) {later : List Operation}
    (h : ∀ operation ∈ later, ¬ operation.Builds key ∧ ¬ operation.Runs key) :
    ∃ left, (Operation.performAll later workspace).pipelines.lookup key = some left ∧
      pipeline.SameBuild left ∧
      SameTexts pipeline workspace.device (Operation.performAll later workspace).device := by
  induction later generalizing workspace pipeline with
  | nil => exact ⟨pipeline, hl, .refl pipeline, fun _ _ _ _ => rfl⟩
  | cons operation rest ih =>
    obtain ⟨hbuild, hrun⟩ := h operation List.mem_cons_self
    obtain ⟨next, hnext, same, htexts⟩ := (orderly.spares operation).kept key pipeline hl hbuild
    obtain ⟨left, hleft, hsame, hkept⟩ := ih
      ((operation.perform_outcome workspace).orderly orderly) hnext
      fun other hm => h other (List.mem_cons_of_mem operation hm)
    refine ⟨left, hleft, same.trans hsame, fun target ht attachment ha => ?_⟩
    exact (hkept target (same.targets ▸ ht) attachment ha).trans (htexts hrun target ht attachment ha)

end Steps

/-- Pipelines on one device do not disturb each other. Whatever is done on a device, textures that
are external or attachments of any pipeline are in different cells, so none has two owners. Only
runs write, and only to attachments of the pipeline that is run. External textures keep their texts
for good, and the outputs of a pipeline can be read and have the same texts until the pipeline is run
again or another one is built in its place. -/
theorem pipelines_undisturbed (device : Memory) (operations : List Operation) :
    let workspace := Operation.performAll operations (Workspace.new device)
    Housed workspace.owned workspace.device ∧
      (∀ operation : Operation, operation.Spares workspace (operation.perform workspace)) ∧
      ∀ later : List Operation,
        let after := Operation.performAll later workspace
        (∀ entry ∈ workspace.textures,
          after.device.contents entry.2 = workspace.device.contents entry.2) ∧
        ∀ key pipeline, workspace.pipelines.lookup key = some pipeline →
          (∀ operation ∈ later, ¬ operation.Builds key ∧ ¬ operation.Runs key) →
          ∃ left, after.pipelines.lookup key = some left ∧
            ∀ port < pipeline.layout.outputs.size, ∃ texture,
              pipeline.output port = .ok texture ∧ left.output port = .ok texture ∧
                after.device.contents texture = workspace.device.contents texture := by
  intro workspace
  have orderly : Orderly workspace := (orderly_new device).performAll operations
  refine ⟨orderly.housed, orderly.spares, fun later => ⟨fun entry he => ?_, ?_⟩⟩
  · have unattached : Unattached workspace entry.2 :=
      ⟨orderly.housed.created _ (List.mem_append_left _ (List.mem_map_of_mem he)),
        fun key pipeline hl => orderly.foreign_of_external he hl⟩
    exact unattached.contents_performAll later
  · intro key pipeline hl hlater
    obtain ⟨left, hleft, same, htexts⟩ := orderly.kept hl hlater
    refine ⟨left, hleft, fun port hport => ?_⟩
    obtain ⟨texture, hout, target, ht, hm⟩ :=
      orderly.readable _ (Table.mem_of_lookup hl) port hport
    exact ⟨texture, hout, (same.output_eq port).trans hout, htexts target ht texture hm⟩

section Pictures

open Compile (plain pictured)
open Flat (picture picture_constructed)

/-- A texture and two pictures are made on a device. -/
def painted : List Operation :=
  [.texture "photo" "img",
    .build "first" "first" (picture plain) (picture_constructed plain),
    .build "second" "second" (picture plain) (picture_constructed plain)]

/-- The picture under a name, with its attachment. -/
def framedAs (name : String) (attachment : MemoryTexture) : Pipeline memory :=
  { pictured with
    name
    targets := [⟨"rgba8", [attachment]⟩]
    plan := { pictured.plan with name } }

/-- The workspace with both pictures in it. -/
def gallery : Workspace memory where
  device := { Memory.fresh none with numbered := 3, cells := ["img", "", ""], targetsCreated := 2 }
  layouts := []
  pipelines := [("second", framedAs "second" ⟨3, 2⟩), ("first", framedAs "first" ⟨2, 1⟩)]
  textures := [("photo", ⟨1, 0⟩)]

set_option maxRecDepth 10000 in
/-- That is what is made. -/
theorem performAll_painted :
    Operation.performAll painted (Workspace.new (Memory.fresh none)) = gallery := by
  cbv

/-- They are made, and the first picture renders the texture. -/
def rendered : List Operation :=
  painted ++ [.call "first" (.appendInput ⟨1, 0⟩) trivial, .call "first" .process trivial]

/-- The second picture renders what the first one rendered. -/
def passed : List Operation :=
  [.appendOutputsOf "second" "first", .call "second" .process trivial]

/-- What the first picture rendered stays readable while the second one renders it. -/
theorem pictures_undisturbed : ∃ left : Pipeline memory,
    (Operation.performAll passed (Operation.performAll rendered
      (Workspace.new (Memory.fresh none)))).pipelines.lookup "first" = some left ∧
    left.output 0 = .ok ⟨2, 1⟩ ∧
    (Operation.performAll passed (Operation.performAll rendered
      (Workspace.new (Memory.fresh none)))).device.contents ⟨2, 1⟩ = "Blur(img)" := by
  have hundisturbed := ((pipelines_undisturbed (Memory.fresh none) rendered).2.2 passed).2 "first"
  have hfirst : ((Operation.performAll rendered (Workspace.new (Memory.fresh none))).pipelines.lookup
      "first").map (fun pipeline => (pipeline.layout.outputs.size, pipeline.output 0)) =
        some (1, .ok ⟨2, 1⟩) := by
    rw [rendered, Operation.performAll_append, performAll_painted]
    rfl
  have htext : (Operation.performAll rendered (Workspace.new (Memory.fresh none))).device.contents
      ⟨2, 1⟩ = "Blur(img)" := by
    rw [rendered, Operation.performAll_append, performAll_painted]
    rfl
  obtain ⟨pipeline, hl, hp⟩ := Option.map_eq_some_iff.mp hfirst
  obtain ⟨hsize, hout⟩ := Prod.mk.inj hp
  have hlater : ∀ operation ∈ passed, ¬ operation.Builds "first" ∧ ¬ operation.Runs "first" := by
    simp [passed, Operation.Builds, Operation.Runs]
  obtain ⟨left, hleft, houtputs⟩ := hundisturbed pipeline hl hlater
  obtain ⟨texture, hbefore, hafter, hsame⟩ := houtputs 0 (by rw [hsize]; decide)
  obtain rfl : ⟨2, 1⟩ = texture := Except.ok.inj (hout.symm.trans hbefore)
  exact ⟨left, hleft, hafter, hsame.trans htext⟩

end Pictures

end Device

end RenderGraph
