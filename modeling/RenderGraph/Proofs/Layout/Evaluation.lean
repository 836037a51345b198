import RenderGraph.Device.Term
import RenderGraph.Proofs.Layout.Address

/-!
# Evaluating a nested layout

What a layout computes can be said without flattening it: a filter applies its
name to the texts that arrive at its inputs, connections carry texts, and the
boundary of a nested layout hands on what arrives at its other side. A port has
one text at most.
-/

namespace RenderGraph

variable {δ : Type}

/-- The two ways in which a text passes a port. -/
inductive Passage where
  /-- It arrives there with a connection. -/
  | arrives
  /-- It leaves from there with connections. -/
  | leaves
  deriving DecidableEq, Repr

/-- The text at a port of a layout, given the labels that replace the names of filters and the
texts at the inputs of the outermost layout. -/
inductive Layout.Denotes (layout : Layout δ) (labels : List Nat → Option String)
    (given : List String) : Passage → Spot → Nat → String → Prop
  /-- At an input of the outermost layout is the text that is given for it. -/
  | input {port : Nat} {text : String} : given[port]? = some text →
    Denotes layout labels given .leaves ⟨[], .inside⟩ port text
  /-- A filter applies its name to the texts at its inputs. -/
  | filter {address : List Nat} {spec : FilterSpec δ} {arguments : List String} {port : Nat} :
    layout.at? address = some (.filter spec) → port < spec.outputs.size →
    arguments.length = spec.inputs.size →
    (∀ k text, arguments[k]? = some text →
      Denotes layout labels given .arrives ⟨address, .outside⟩ k text) →
    Denotes layout labels given .leaves ⟨address, .outside⟩ port
      (Device.spell ((labels address).getD spec.typeName) spec.outputs.size port arguments)
  /-- At a boundary port of a nested layout is the text from its other side. -/
  | nested {address : List Nat} {side : Flat.Side} {nested : Layout δ} {port : Nat}
    {text : String} : layout.at? address = some (.pipeline nested) →
    Denotes layout labels given .arrives ⟨address, side.opposite⟩ port text →
    Denotes layout labels given .leaves ⟨address, side⟩ port text
  /-- A connection carries a text from one end to the other. -/
  | carried {source destination : Spot} {sourcePort destinationPort : Nat} {text : String} :
    layout.Authored ⟨source, sourcePort, destination, destinationPort⟩ →
    Denotes layout labels given .leaves source sourcePort text →
    Denotes layout labels given .arrives destination destinationPort text

namespace Layout

variable {layout : Layout δ} {labels : List Nat → Option String} {given : List String}

/-- At an input of the outermost layout is nothing but the given text. -/
theorem Denotes.given_eq {port : Nat} {text : String}
    (h : layout.Denotes labels given .leaves ⟨[], .inside⟩ port text) :
    given[port]? = some text := by
  cases h with
  | input hg => exact hg
  | nested _ hd =>
    -- The outermost layout is not seen from outside, so nothing arrives there.
    cases hd with
    | carried ha _ =>
      obtain ⟨address, nested, hat, c, hc, he⟩ := ha
      have hs : (⟨[], Flat.Side.opposite .inside⟩ : Spot) = c.destination.spot address :=
        congrArg Connection.destination he
      cases hd : c.destination <;> simp [hd, Anchor.spot, Flat.Side.opposite] at hs

/-- A filter with one input applies its name to the text there. -/
theorem Denotes.unary {address : List Nat} {spec : FilterSpec δ} {port : Nat} {text : String}
    (ha : layout.at? address = some (.filter spec)) (hp : port < spec.outputs.size)
    (hi : spec.inputs.size = 1)
    (h : layout.Denotes labels given .arrives ⟨address, .outside⟩ 0 text) :
    layout.Denotes labels given .leaves ⟨address, .outside⟩ port
      (Device.spell ((labels address).getD spec.typeName) spec.outputs.size port [text]) := by
  refine .filter ha hp hi.symm fun k argument hk => ?_
  cases k with
  | zero => exact Option.some.inj hk ▸ h
  | succ k => cases hk

/-- A port has one text at most. -/
theorem Denotes.unique (constructed : layout.Constructed) {way : Passage} {spot : Spot}
    {port : Nat} {text text' : String} (h : layout.Denotes labels given way spot port text)
    (k : layout.Denotes labels given way spot port text') : text = text' := by
  induction h generalizing text' with
  | input hg =>
    have hg' := k.given_eq
    exact Option.some.inj (hg.symm.trans hg')
  | @filter address spec arguments port ha hp hl _ ih =>
    cases k with
    | @filter _ spec' arguments' _ ha' _ hl' hargs' =>
      obtain rfl : spec = spec' := Element.filter.inj (Option.some.inj (ha.symm.trans ha'))
      have he : arguments = arguments' := by
        apply List.ext_getElem (hl.trans hl'.symm)
        intro k hk hk'
        have hg := List.getElem?_eq_getElem hk
        have hg' := List.getElem?_eq_getElem hk'
        exact ih k _ hg (hargs' k _ hg')
      rw [he]
    | nested ha' _ =>
      rw [ha] at ha'
      cases ha'
  | nested ha hd ih =>
    cases k with
    | input hg' =>
      have hg := (Denotes.nested ha hd).given_eq
      exact Option.some.inj (hg.symm.trans hg')
    | filter ha' _ _ _ =>
      rw [ha] at ha'
      cases ha'
    | nested _ hd => exact ih hd
  | carried ha _ ih =>
    cases k with
    | carried ha' hd =>
      have he := ha.eq_of_target constructed ha' rfl
      cases he
      exact ih hd

section Chains

variable {c d : Connection Spot} {path : List (Connection Spot)}

/-- Where two connections meet there is a nested layout, seen from both sides, or the outermost
one. -/
theorem Authored.exists_nested (hc : layout.Authored c) (hd : layout.Authored d)
    (hm : c.Meets d) :
    ∃ nested, layout.at? c.destination.address = some (.pipeline nested) := by
  obtain ⟨address, nested, ha, e, he, rfl⟩ := hc
  obtain ⟨other, nested', ha', f, hf, rfl⟩ := hd
  have hs : f.source.spot other = (e.destination.spot address).across := congrArg Prod.fst hm
  cases hn : e.destination with
  | boundary => exact ⟨nested, by simpa [Connection.map, hn, Anchor.spot] using ha⟩
  | member index =>
    cases hn' : f.source with
    | member index' => simp [hn, hn', Anchor.spot, Spot.across, Flat.Side.opposite] at hs
    | boundary =>
      have hother : other = address ++ [index] := by
        simpa [hn, hn', Anchor.spot, Spot.across, Flat.Side.opposite] using hs
      exact ⟨nested', by simpa [Connection.map, hn, Anchor.spot, hother] using ha'⟩

/-- What leaves from the start of a sequence of connections that meet arrives at its end. -/
theorem Walk.denotes (walk : layout.Walk path c) {text : String}
    (h : layout.Denotes labels given .leaves c.source c.sourcePort text) :
    layout.Denotes labels given .arrives c.destination c.destinationPort text := by
  induction walk with
  | single hc => exact .carried hc h
  | @extend path c d walk hd hm ih =>
    obtain ⟨last, hl, ht⟩ := walk.exists_last
    obtain ⟨hn, hp⟩ := Prod.mk.inj ht
    have hmeet : last.Meets d := by
      rw [Connection.Meets, hn, hp]
      exact hm
    obtain ⟨nested, ha⟩ := hl.exists_nested hd hmeet
    rw [hn] at ha
    obtain ⟨hs, hq⟩ := Prod.mk.inj hm
    have hleaves :
        layout.Denotes labels given .leaves c.destination.across c.destinationPort text := by
      refine .nested ha ?_
      rw [Flat.Side.opposite_opposite]
      exact ih h
    refine .carried hd ?_
    rw [hs, hq]
    exact hleaves

end Chains

end Layout

end RenderGraph
