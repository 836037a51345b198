import RenderGraph.Proofs.Flat.DataFlow
import RenderGraph.Proofs.Flat.Paths
import RenderGraph.Proofs.Layout.Lookup

/-!
# Paths of the layout and paths of the graph

Flattening joins names on the way down, looking a path up cuts it from the left.
What is found as a filter is always the filter of the graph that has this path. The
way back is lost where a nested layout has a name that ends with a colon: cutting
takes the colon for the beginning of the separator behind it.
-/

namespace RenderGraph.Flat

variable {δ : Type}

/-- Every filter of a layout has its path in the graph, and looking this path up leads back to the
filter exactly when no layout around it has a name that ends with a colon. What is found as a filter
under any path is the filter that has this path in the graph. -/
theorem paths_lead_back (layout : Layout δ) (constructed : layout.Constructed) :
    (∀ graph, flatten layout = .ok graph → graph.filters = (survey layout).filters) ∧
    (∀ address spec, layout.at? address = some (.filter spec) → ∃ (i : Nat) (names : List String),
      (filterAddresses layout)[i]? = some address ∧ layout.names? address = some names ∧
      (survey layout).filters[i]? = some ⟨Path.join names, spec⟩ ∧
      (((∀ other, layout.LeadsTo (Path.join names) other ↔ other = address) ∧
        layout.elementByPath (Path.join names) = .ok (.filter spec)) ↔ Path.Settled names)) ∧
    ∀ path spec, layout.elementByPath path = .ok (.filter spec) → ∃ (i : Nat) (address : List Nat),
      (filterAddresses layout)[i]? = some address ∧ layout.LeadsTo path address ∧
      layout.at? address = some (.filter spec) ∧
      (survey layout).filters[i]? = some ⟨path, spec⟩ := by
  refine ⟨fun graph hg => filters_of_flatten hg, ?_, ?_⟩
  · intro address spec ha
    obtain ⟨names, hn, -⟩ := Layout.exists_names ha
    obtain ⟨i, hi, hf⟩ := exists_number ha hn
    exact ⟨i, names, hi, hn, hf, constructed.filter_found_iff ha hn⟩
  · intro path spec hf
    obtain ⟨address, names, hl, ha, hn, rfl⟩ := constructed.exists_filterPath hf
    obtain ⟨i, hi, hflat⟩ := exists_number ha hn
    exact ⟨i, address, hi, hl, ha, hflat⟩

/-- The path of the filter in the box leads back to it. -/
theorem blur_found : (picture ()).elementByPath "box::blur" =
      .ok (.filter ⟨"Blur", ⟨["in"]⟩, ⟨["out"]⟩, ()⟩) ∧
    ∀ other, (picture ()).LeadsTo "box::blur" other ↔ other = [0, 0] := by
  obtain ⟨-, hback, -⟩ := paths_lead_back (picture ()) (picture_constructed ())
  obtain ⟨i, names, -, hn, -, hiff⟩ := hback [0, 0] _ rfl
  obtain rfl : names = ["box", "blur"] := (Option.some.inj hn).symm
  exact (hiff.mpr (by decide)).symm

/-- The layout around a box whose name ends with a colon. -/
def mislabeled : Layout Unit :=
  framed "Picture" "a:" (.pipeline (framed "Box" "b" (.filter ⟨"Blur", ⟨["in"]⟩, ⟨["out"]⟩, ()⟩)))

/-- All names in the layout are admissible and it can be flattened, but the path that its filter
gets leads nowhere. -/
theorem mislabeled_lost : mislabeled.Constructed ∧
    flatten mislabeled = .ok
      ⟨[⟨"a:::b", ⟨"Blur", ⟨["in"]⟩, ⟨["out"]⟩, ()⟩⟩],
        [⟨.boundary, 0, .member 0, 0⟩, ⟨.member 0, 0, .boundary, 0⟩]⟩ ∧
    mislabeled.elementByPath "a:::b" = .error (Cause.noElementNamed "Picture" "a") :=
  ⟨framed_element_constructed "Picture" rfl (framed_constructed "Box" rfl "Blur" ()) rfl rfl,
    by cbv, rfl⟩

end RenderGraph.Flat
