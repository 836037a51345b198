import RenderGraph.Gpu.Descriptor
import RenderGraph.Proofs.Json.RoundTrip
import RenderGraph.Proofs.Order

/-!
# Descriptions of shaders are read back

The description of a shader is read back from its text. A document may leave out what
is read for a missing member anyway: a sampler that is not there and the usual entry
point.
-/

namespace RenderGraph

/-- An object without the members that have a key. -/
def Json.without (key : String) : Json → Json
  | .object members => .object (members.filter fun member => member.1 ≠ key)
  | value => value

/-- What is written in full stays so without some members. -/
theorem Json.Plain.without {document : Json} (h : document.Plain) (key : String) :
    (document.without key).Plain := by
  cases h with
  | object hmembers => exact .object fun member hm => hmembers member (List.mem_of_mem_filter hm)
  | null => exact .null
  | bool value => exact .bool value
  | natural value => exact .natural value
  | text value => exact .text value
  | array hitems => exact .array hitems

namespace Gpu

section Names

/-- All formats are listed. -/
theorem TexelFormat.mem_all (texel : TexelFormat) : texel ∈ all := by
  cases texel with
  | astc block channel =>
    have hb : block ∈ AstcBlock.all := by cases block <;> decide
    have hc : channel ∈ AstcChannel.all := by cases channel <;> decide
    exact List.mem_append_right _
      (List.mem_flatMap.mpr ⟨block, hb, List.mem_map.mpr ⟨channel, hc, rfl⟩⟩)
  | _ => exact List.mem_append_left _ (by decide)

/-- No two formats have the same name. -/
theorem TexelFormat.nodup_names : (all.map name).Nodup := by
  decide +kernel

/-- A format is found under its name. -/
theorem TexelFormat.ofName?_name (texel : TexelFormat) : ofName? texel.name = some texel :=
  find?_eq_some_of_nodup nodup_names texel.mem_all

/-- A sampler is found under its name. -/
theorem Sampler.ofName?_name (sampler : Sampler) : ofName? sampler.name = some sampler := by
  cases sampler <;> decide

end Names

section Values

/-- Among the members without a key there is none with this key, and those with another key are the
same. -/
theorem memberOr_filter {α : Type} (key other : String) (default : Option α)
    (read : Json → Option α) (members : List (String × Json)) :
    memberOr key default read (members.filter fun member => member.1 ≠ other) =
      if key = other then default else memberOr key default read members := by
  have hnamed : Json.membersNamed key (members.filter fun member => member.1 ≠ other) =
      if key = other then [] else Json.membersNamed key members := by
    rw [Json.membersNamed, List.filter_filter]
    split
    case isTrue h => simp [h]
    case isFalse h =>
      refine congrArg (List.map Prod.snd) (List.filter_congr fun member _ => ?_)
      by_cases he : member.1 = key <;> simp_all
  unfold memberOr
  rw [hnamed]
  by_cases h : key = other
  · rw [if_pos h, if_pos h]
  · rw [if_neg h, if_neg h]

/-- A word is read back from its number. -/
theorem readWord_toNat (word : UInt32) : readWord (.natural word.toNat) = some word := by
  rw [readWord, if_pos word.toNat_lt]
  exact congrArg some (UInt32.ofNat_toNat)

/-- A format is read back from its document. -/
theorem Format.ofJson?_toJson (format : Format) : ofJson? format.toJson = some format := by
  have htexel : readTexel (.text format.texel.name) = some format.texel := by
    simp [readTexel, readText, TexelFormat.ofName?_name]
  simp [toJson, ofJson?, memberOr, Json.membersNamed, htexel, readWord_toNat]

end Values

namespace Descriptor

variable (descriptor : Descriptor)

/-- Whether it is written without blanks or over indented lines, the description is read from a
document. -/
def IsReadFrom (document : Json) : Prop :=
  ofText? document.compact = some descriptor ∧ ofText? document.pretty = some descriptor

/-- The document of a description is written in full. -/
theorem toJson_plain : descriptor.toJson.Plain := by
  have hsampler : (descriptor.sampler.elim Json.null fun sampler => .text sampler.name).Plain := by
    cases descriptor.sampler with
    | none => exact .null
    | some sampler => exact .text _
  have houtput : descriptor.output.toJson.Plain :=
    .cons (.text _) <| .cons (.natural _) <| .cons (.natural _) .empty
  exact .cons (.text _) <| .cons (.text _) <| .cons houtput <| .cons hsampler .empty

variable {descriptor}

/-- What is read from a document that is written in full is read from its text. -/
theorem isReadFrom_of_ofJson? {document : Json} (plain : document.Plain)
    (h : ofJson? document = some descriptor) : descriptor.IsReadFrom document := by
  have hread : ∀ depth, ofText? (String.ofList (document.render depth)) = some descriptor := by
    intro depth
    rw [ofText?, plain.ofText?_render depth]
    exact h
  exact ⟨hread none, hread (some 0)⟩

variable (descriptor)

/-- A sampler is read back, and so is that there is none. -/
theorem readOptionalSampler_toJson (sampler : Option Sampler) :
    readOptionalSampler (sampler.elim .null fun sampler => .text sampler.name) = some sampler := by
  cases sampler with
  | none => rfl
  | some sampler => simp [readOptionalSampler, readSampler, Sampler.ofName?_name]

/-- A description is read back from its document. -/
theorem ofJson?_toJson : ofJson? descriptor.toJson = some descriptor := by
  simp [toJson, ofJson?, memberOr, Json.membersNamed, readText, Format.ofJson?_toJson,
    readOptionalSampler_toJson]

/-- The document of a description is an object with a member for the sampler and one for the entry
point. -/
theorem exists_members : ∃ members, descriptor.toJson = .object members ∧
    memberOr "sampler" (some none) readOptionalSampler members = some descriptor.sampler ∧
    memberOr "entry_point" (some defaultEntryPoint) readText members =
      some descriptor.entryPoint := by
  refine ⟨_, rfl, ?_, ?_⟩
  · simp [memberOr, Json.membersNamed, readOptionalSampler_toJson]
  · simp [memberOr, Json.membersNamed, readText]

section Omission

variable {members : List (String × Json)}

/-- Where no sampler is read, nothing changes when there is no member for one. -/
theorem ofJson?_without_sampler
    (h : memberOr "sampler" (some none) readOptionalSampler members = some none) :
    ofJson? ((Json.object members).without "sampler") = ofJson? (.object members) := by
  simp only [Json.without, ofJson?, memberOr_filter, h, String.reduceEq, if_true, if_false]

/-- Where the usual entry point is read, nothing changes when there is no member for one. -/
theorem ofJson?_without_entryPoint
    (h : memberOr "entry_point" (some defaultEntryPoint) readText members =
      some defaultEntryPoint) :
    ofJson? ((Json.object members).without "entry_point") = ofJson? (.object members) := by
  simp only [Json.without, ofJson?, memberOr_filter, h, String.reduceEq, if_true, if_false]

end Omission

/-- A description is read back from its text, whatever its shader, its entry point, its format and
its sampler are. Nothing changes when the document leaves out that there is no sampler, or that the
entry point is the usual one, or both. -/
theorem text_reads_back (descriptor : Descriptor) :
    ofText? descriptor.text = some descriptor ∧ descriptor.IsReadFrom descriptor.toJson ∧
    (descriptor.sampler = none →
      descriptor.IsReadFrom (descriptor.toJson.without "sampler")) ∧
    (descriptor.entryPoint = defaultEntryPoint →
      descriptor.IsReadFrom (descriptor.toJson.without "entry_point")) ∧
    (descriptor.sampler = none → descriptor.entryPoint = defaultEntryPoint →
      descriptor.IsReadFrom ((descriptor.toJson.without "sampler").without "entry_point")) := by
  have plain := descriptor.toJson_plain
  have hread := descriptor.ofJson?_toJson
  have whole := isReadFrom_of_ofJson? plain hread
  obtain ⟨members, hdocument, hsampler, hentry⟩ := descriptor.exists_members
  rw [hdocument] at hread
  have short : descriptor.sampler = none →
      ofJson? ((Json.object members).without "sampler") = some descriptor :=
    fun hs => (ofJson?_without_sampler (hsampler.trans (congrArg some hs))).trans hread
  refine ⟨whole.1, whole, fun hs => ?_, fun he => ?_, fun hs he => ?_⟩
  · refine isReadFrom_of_ofJson? (plain.without _) ?_
    rw [hdocument]
    exact short hs
  · refine isReadFrom_of_ofJson? (plain.without _) ?_
    rw [hdocument]
    exact (ofJson?_without_entryPoint (hentry.trans (congrArg some he))).trans hread
  · refine isReadFrom_of_ofJson? ((plain.without _).without _) ?_
    rw [hdocument, Json.without, ofJson?_without_entryPoint]
    · exact short hs
    · rw [memberOr_filter, if_neg (by decide), hentry, he]

/-- A shader with a line break and quotes in it, run at the usual entry point without a sampler. -/
def quoting : Descriptor :=
  plain "// \"copy\"\n" ⟨.rgba8Unorm, 4294967295, 1⟩

/-- Its description is read from a document with two members only. -/
theorem quoting_reads_back : quoting.sampler = none ∧ quoting.entryPoint = defaultEntryPoint ∧
    (quoting.toJson.without "sampler").without "entry_point" =
      .object [("shader", .text "// \"copy\"\n"), ("output", quoting.output.toJson)] ∧
    quoting.IsReadFrom ((quoting.toJson.without "sampler").without "entry_point") :=
  ⟨rfl, rfl, rfl, (text_reads_back quoting).2.2.2.2 rfl rfl⟩

end Descriptor

end Gpu

end RenderGraph
