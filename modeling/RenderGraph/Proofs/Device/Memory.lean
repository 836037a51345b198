import RenderGraph.Device.Memory
import RenderGraph.Proofs.Action
import RenderGraph.Proofs.Order

/-!
# Cells of a device in memory

Textures of different cells do not influence each other. New textures get new
cells, and a filter that is rendered writes its terms to the cells of its target
and to no others.
-/

namespace RenderGraph.Device

namespace Memory

section Cells

variable {device : Memory} {texture other : MemoryTexture}

/-- A text that was written to a cell of the device is read back. -/
theorem contents_write (h : texture.cell < device.cells.length) (text : String) :
    (device.write texture text).contents texture = text := by
  simp [contents, write, h]

/-- Writing to one cell does not change another. -/
theorem contents_write_of_ne (h : texture.cell ≠ other.cell) (text : String) :
    (device.write texture text).contents other = device.contents other := by
  simp [contents, write, List.getElem?_set_ne h]

/-- A texture is there and has this text. -/
def Shows (texture : MemoryTexture) (text : String) (device : Memory) : Prop :=
  device.cells[texture.cell]? = some text

/-- The text that is shown is what is read. -/
theorem shows_iff {text : String} : device.Shows texture text ↔
    texture.cell < device.cells.length ∧ device.contents texture = text := by
  rw [Shows, List.getElem?_eq_some_iff]
  refine ⟨fun ⟨hlt, ht⟩ => ⟨hlt, ?_⟩, fun ⟨hlt, ht⟩ => ⟨hlt, ?_⟩⟩
  · rw [contents, List.getElem?_eq_getElem hlt, ht]
    rfl
  · rwa [contents, List.getElem?_eq_getElem hlt] at ht

/-- A new texture changes nothing of what is shown. -/
theorem Shows.newTexture {shown : String} (h : device.Shows other shown) (text : String) :
    (Memory.texture text device).2.Shows other shown :=
  (List.getElem?_append_left (shows_iff.mp h).1).trans h

/-- Nor do several new textures. -/
theorem Shows.newTextures {shown : String} (n : Nat) (h : device.Shows other shown) :
    (textures n device).2.Shows other shown := by
  induction n generalizing device with
  | zero => exact h
  | succ n ih => exact ih (h.newTexture "")

/-- Writing makes no new cells. -/
theorem length_write (text : String) :
    (device.write texture text).cells.length = device.cells.length :=
  List.length_set

/-- New textures get the next cells. -/
theorem textures_cells (n : Nat) (device : Memory) :
    (textures n device).1.map MemoryTexture.cell = List.range' device.cells.length n ∧
      (textures n device).2.cells.length = device.cells.length + n := by
  induction n generalizing device with
  | zero => exact ⟨rfl, rfl⟩
  | succ n ih =>
    have hl : (texture "" device).2.cells.length = device.cells.length + 1 := by
      simp [texture, textureWithId]
    have hih := ih (texture "" device).2
    rw [hl] at hih
    refine ⟨?_, ?_⟩
    · simp only [textures, List.map_cons, hih.1, List.range'_succ]
      rfl
    · simp only [textures, hih.2]
      omega

end Cells

end Memory

/-- Textures are in different cells of a device. -/
structure Housed (textures : List MemoryTexture) (device : Memory) : Prop where
  /-- No two of them share a cell. -/
  distinct : (textures.map MemoryTexture.cell).Nodup
  /-- All the cells exist. -/
  created : ∀ texture ∈ textures, texture.cell < device.cells.length

namespace Housed

variable {textures : List MemoryTexture} {device : Memory}

/-- No textures are in different cells. -/
theorem nil (device : Memory) : Housed [] device :=
  ⟨List.nodup_nil, by simp⟩

/-- Textures whose cells were made later are in different cells, too. -/
theorem append (h : Housed textures device) {made : List MemoryTexture} {after : Memory} {n : Nat}
    (hm : made.map MemoryTexture.cell = List.range' device.cells.length n)
    (hl : after.cells.length = device.cells.length + n) : Housed (textures ++ made) after where
  distinct := by
    rw [List.map_append, hm]
    refine h.distinct.append List.nodup_range' ?_
    intro cell hc hr
    obtain ⟨texture, ht, rfl⟩ := List.mem_map.mp hc
    have hlt := h.created texture ht
    have hle := (List.mem_range'_1.mp hr).1
    omega
  created := by
    intro texture ht
    rcases List.mem_append.mp ht with ht | ht
    · have hlt := h.created texture ht
      omega
    · have hr : texture.cell ∈ List.range' device.cells.length n :=
        hm ▸ List.mem_map_of_mem ht
      have hlt := (List.mem_range'_1.mp hr).2
      omega

/-- A texture that is made later is in a cell of its own. -/
theorem newTexture (h : Housed textures device) (text : String) :
    Housed (textures ++ [(Memory.texture text device).1]) (Memory.texture text device).2 :=
  h.append (n := 1) rfl List.length_append

/-- The order of the textures does not matter. -/
theorem perm (h : Housed textures device) {other : List MemoryTexture}
    (hp : other.Perm textures) : Housed other device :=
  ⟨(hp.map _).nodup_iff.mpr h.distinct, fun texture ht => h.created texture (hp.subset ht)⟩

/-- A device with more cells houses the same textures. -/
theorem mono (h : Housed textures device) {after : Memory}
    (hl : device.cells.length ≤ after.cells.length) : Housed textures after :=
  ⟨h.distinct, fun texture ht => Nat.lt_of_lt_of_le (h.created texture ht) hl⟩

/-- A part of the textures is housed as the whole is. -/
theorem sublist (h : Housed textures device) {part : List MemoryTexture}
    (hs : part.Sublist textures) : Housed part device :=
  ⟨h.distinct.sublist (hs.map _), fun texture ht => h.created texture (hs.subset ht)⟩

/-- Textures of two parts are in different cells. -/
theorem cell_ne_of_append {part : List MemoryTexture} (h : Housed (textures ++ part) device)
    {texture other : MemoryTexture} (ht : texture ∈ textures) (ho : other ∈ part) :
    texture.cell ≠ other.cell := by
  have hn := h.distinct
  rw [List.map_append] at hn
  intro hcell
  exact (List.nodup_append'.mp hn).2.2 (List.mem_map_of_mem ht) (hcell ▸ List.mem_map_of_mem ho)

/-- The attachments of one of several targets are housed as all of them are. -/
theorem of_mem {targets : List (TermTarget MemoryTexture)}
    (h : Housed (targets.flatMap TermTarget.attachments) device) {target : TermTarget MemoryTexture}
    (hm : target ∈ targets) : Housed target.attachments device :=
  h.sublist (List.sublist_flatten_of_mem (List.mem_map_of_mem hm))

/-- Attachments of different targets are in different cells. -/
theorem apart {targets : List (TermTarget MemoryTexture)}
    (h : Housed (targets.flatMap TermTarget.attachments) device) {i j : Nat}
    {target other : TermTarget MemoryTexture} (hi : targets[i]? = some target)
    (hj : targets[j]? = some other) (hne : i ≠ j) :
    ∀ attachment ∈ target.attachments, ∀ texture ∈ other.attachments,
      attachment.cell ≠ texture.cell := by
  have hn := h.distinct
  rw [List.map_flatMap] at hn
  have hpair := (List.nodup_flatMap.mp hn).2
  intro attachment ha texture ht he
  have hcell : ∀ {i j : Nat} {target other : TermTarget MemoryTexture}, i < j →
      targets[i]? = some target → targets[j]? = some other →
      List.Disjoint (target.attachments.map MemoryTexture.cell)
        (other.attachments.map MemoryTexture.cell) := by
    intro i j target other hlt hi hj
    obtain ⟨hil, rfl⟩ := List.getElem?_eq_some_iff.mp hi
    obtain ⟨hjl, rfl⟩ := List.getElem?_eq_some_iff.mp hj
    exact List.pairwise_iff_getElem.mp hpair i j hil hjl hlt
  have hma : attachment.cell ∈ target.attachments.map MemoryTexture.cell := List.mem_map_of_mem ha
  have hmt : attachment.cell ∈ other.attachments.map MemoryTexture.cell :=
    he ▸ List.mem_map_of_mem ht
  rcases Nat.lt_or_gt_of_ne hne with hlt | hlt
  · exact hcell hlt hi hj hma hmt
  · exact hcell hlt hj hi hmt hma

/-- Textures at different positions are in different cells. -/
theorem cell_ne (h : Housed textures device) {i j : Nat} {texture other : MemoryTexture}
    (hi : textures[i]? = some texture) (hj : textures[j]? = some other) (hne : i ≠ j) :
    texture.cell ≠ other.cell := fun he =>
  hne (nodup_map_iff_index.mp h.distinct i j texture other hi hj he)

end Housed

/-- What is different on a device after texts were written to attachments from one on. -/
structure Written (attachments : List MemoryTexture) (output : Nat) (texts : List String)
    (before after : Memory) : Prop where
  /-- The device refuses the same filters. -/
  failRender : after.failRender = before.failRender
  /-- It has the same cells. -/
  length : after.cells.length = before.cells.length
  /-- The attachments have the texts. -/
  read : ∀ k text texture, texts[k]? = some text → attachments[output + k]? = some texture →
    after.contents texture = text
  /-- Other textures are as before. -/
  kept : ∀ texture, (∀ k < texts.length, ∀ attachment,
    attachments[output + k]? = some attachment → attachment.cell ≠ texture.cell) →
    after.contents texture = before.contents texture

namespace Memory

section Rendering

variable {attachments : List MemoryTexture}

/-- Writing keeps what every text in one of the attachments keeps, whether or not it succeeds. -/
theorem writeAll_keeps {I : Memory → Prop}
    (written : ∀ attachment ∈ attachments, ∀ text device, I device →
      I (device.write attachment text))
    (type : String) (output : Nat) (texts : List String) (device : Memory) (h : I device) :
    I (writeAll type attachments output texts device).2 := by
  induction texts generalizing output device with
  | nil => exact h
  | cons text rest ih =>
    rw [writeAll]
    cases ha : attachments[output]? with
    | none => exact h
    | some attachment =>
      exact ih _ _ (written attachment (List.mem_of_getElem? ha) text device h)

/-- Writing changes nothing but cells, whether or not it succeeds. -/
theorem exists_cells_writeAll (type : String) (attachments : List MemoryTexture) (output : Nat)
    (texts : List String) (device : Memory) :
    ∃ cells, (writeAll type attachments output texts device).2 = { device with cells } := by
  refine writeAll_keeps (I := fun after => ∃ cells, after = { device with cells }) ?_ type output
    texts device ⟨device.cells, rfl⟩
  rintro attachment - text _ ⟨cells, rfl⟩
  exact ⟨_, rfl⟩

/-- Texts are written to attachments if there are enough of them. -/
theorem writeAll_written (type : String) (output : Nat) (texts : List String) (device : Memory)
    (housed : Housed attachments device) (hl : output + texts.length ≤ attachments.length) :
    (writeAll type attachments output texts device).1 = .ok () ∧
      Written attachments output texts device
        (writeAll type attachments output texts device).2 := by
  induction texts generalizing output device with
  | nil =>
    refine ⟨rfl, rfl, rfl, ?_, fun _ _ => rfl⟩
    intro k text texture ht
    cases ht
  | cons text rest ih =>
    rw [List.length_cons] at hl
    have hlt : output < attachments.length := by omega
    have ha := List.getElem?_eq_getElem hlt
    rw [writeAll, ha]
    have hw : device.cells.length ≤ (device.write attachments[output] text).cells.length :=
      Nat.le_of_eq (length_write text).symm
    obtain ⟨hok, hrest⟩ := ih (output + 1) (device.write attachments[output] text)
      (housed.mono hw) (by omega)
    refine ⟨hok, hrest.failRender, hrest.length.trans (length_write text), ?_, ?_⟩
    · intro k text' texture ht htexture
      cases k with
      | zero =>
        obtain rfl : text = text' := Option.some.inj ht
        obtain rfl : attachments[output] = texture := Option.some.inj (ha.symm.trans htexture)
        rw [hrest.kept attachments[output]]
        · exact contents_write (housed.created _ (List.getElem_mem hlt)) text
        · intro k _ attachment hk
          exact housed.cell_ne hk ha (by omega)
      | succ k =>
        have hk : output + 1 + k = output + (k + 1) := by omega
        exact hrest.read k text' texture ht (hk ▸ htexture)
    · intro texture hne
      rw [hrest.kept texture]
      · exact contents_write_of_ne (hne 0 (by simp) _ ha) text
      · intro k hk attachment hattachment
        have hk' : output + 1 + k = output + (k + 1) := by omega
        exact hne (k + 1) (by simpa using hk) attachment (hk' ▸ hattachment)

variable {filter : TermFilter MemoryTexture} {target : TermTarget MemoryTexture} {device : Memory}

/-- Rendering keeps what every text in an attachment of the target and every count of the rendered
filters keep, whether or not it succeeds. -/
theorem render_keeps {I : Memory → Prop}
    (written : ∀ attachment ∈ target.attachments, ∀ text device, I device →
      I (device.write attachment text))
    (counted : ∀ device renders, I device → I { device with renders }) :
    (render filter target).Keeps I := by
  intro device h
  rw [render]
  split
  · exact h
  split
  · exact h
  case h_2 inputs _ =>
    have hw := writeAll_keeps written filter.typeName 0 (filter.terms (inputs.map device.contents))
      device h
    dsimp only
    generalize writeAll filter.typeName target.attachments 0
      (filter.terms (inputs.map device.contents)) device = ending at hw ⊢
    split
    · exact hw
    · exact counted _ _ hw

/-- Rendering makes no new cells, whether or not it succeeds. -/
theorem length_render : (render filter target device).state.cells.length = device.cells.length :=
  render_keeps (I := fun after => after.cells.length = device.cells.length)
    (fun _ _ text _ h => (length_write text).trans h) (fun _ _ h => h) device rfl

/-- Textures that are all there are found. -/
theorem boundFrom_map_some (port : Nat) (inputs : List MemoryTexture) :
    TermFilter.boundFrom port (inputs.map some) = .ok inputs := by
  induction inputs generalizing port with
  | nil => rfl
  | cons texture rest ih =>
    rw [List.map_cons, TermFilter.boundFrom, ih]
    rfl

/-- A filter that is not refused and has textures at all inputs writes its terms to a target with
enough attachments. -/
theorem render_written {inputs : List MemoryTexture}
    (allowed : device.failRender ≠ some filter.typeName) (bound : filter.inputs = inputs.map some)
    (housed : Housed target.attachments device)
    (hl : filter.outputs ≤ target.attachments.length) :
    (render filter target device).result = .ok () ∧
      Written target.attachments 0 (filter.terms (inputs.map device.contents)) device
        (render filter target device).state := by
  have hb : filter.bound = .ok inputs := by
    rw [TermFilter.bound, bound, boundFrom_map_some]
    rfl
  have hterms : (filter.terms (inputs.map device.contents)).length = filter.outputs := by
    simp [TermFilter.terms]
  obtain ⟨hok, hw⟩ := writeAll_written filter.typeName 0
    (filter.terms (inputs.map device.contents)) device housed (by omega)
  cases hr : writeAll filter.typeName target.attachments 0
      (filter.terms (inputs.map device.contents)) device with
  | mk result after =>
    rw [hr] at hok hw
    obtain rfl : result = .ok () := hok
    simp only [render, if_neg allowed, hb, hr, true_and]
    exact ⟨hw.failRender, hw.length, hw.read, hw.kept⟩

/-- A filter that is refused is not rendered. -/
theorem render_refused (refused : device.failRender = some filter.typeName) :
    render filter target device = ⟨device, [], .error (.render filter.typeName)⟩ := by
  rw [render, if_pos refused]

/-- A filter that is rendered is counted, and nothing else changes but cells. -/
theorem exists_cells_render (rendered : (render filter target device).result = .ok ()) :
    ∃ cells, (render filter target device).state =
      { device with cells, renders := device.renders ++ [filter.typeName] } := by
  by_cases refused : device.failRender = some filter.typeName
  · rw [render_refused refused] at rendered
    cases rendered
  simp only [render, if_neg refused] at rendered ⊢
  cases hb : filter.bound with
  | error failure =>
    rw [hb] at rendered
    cases rendered
  | ok inputs =>
    rw [hb] at rendered
    obtain ⟨cells, hc⟩ := exists_cells_writeAll filter.typeName target.attachments 0
      (filter.terms (inputs.map device.contents)) device
    cases hr : writeAll filter.typeName target.attachments 0
        (filter.terms (inputs.map device.contents)) device with
    | mk result after =>
      obtain rfl : after = { device with cells } := by rw [← hc, hr]
      cases result with
      | ok u => exact ⟨cells, by simp only [hr]⟩
      | error failure =>
        simp only [hr] at rendered
        cases rendered

end Rendering

end Memory

end RenderGraph.Device
