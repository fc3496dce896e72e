import PageStudio.Proofs.Dict
import PageStudio.Proofs.Style.Length
import PageStudio.Style.Resolve

/-!
# What nodes are resolved to

A node looks in a viewport as in the reference viewport, but for its own styles there, or else but
for lengths that are scaled to the width (`Resolves`). In the reference viewport itself nothing is
scaled, and its styles lie over themselves.

## Main statements

* `resolve_withStyles_resolve`: what was resolved is resolved to itself.
* `resolve_over_and_follows`: what is the node's own, what is the reference's, and what can differ.
-/

namespace PageStudio.Style

/-! ## Layers over layers -/

namespace Layer

variable {upper lower : Layer}

theorem get?_atop (upper lower : Layer) (p : Property) :
    (upper.atop lower).get? p = (upper.get? p).or (lower.get? p) := Dict.get?_union lower upper p

/-- A layer with all properties of another hides it. -/
theorem atop_eq_self (hides : ∀ p ∈ lower.keys, p ∈ upper.keys) : upper.atop lower = upper := by
  refine Dict.ext_get? fun p => ?_
  rw [get?_atop, Dict.get?_or_of_keys_subset hides]

theorem atop_self (layer : Layer) : layer.atop layer = layer := atop_eq_self fun _ mem => mem

/-- What lies over a layer hides it from then on. -/
theorem atop_atop (upper lower : Layer) : (upper.atop lower).atop lower = upper.atop lower := by
  refine Dict.ext_get? fun p => ?_
  rw [get?_atop, get?_atop, Option.or_assoc, Option.or_self]

theorem keys_scale (factor : Float) (layer : Layer) : (layer.scale factor).keys = layer.keys :=
  Dict.keys_mapWithKey _ layer

end Layer

theorem hoverAtop_self (hover : Option Layer) : hoverAtop hover hover = hover := by
  cases hover with
  | none => rfl
  | some layer => exact congrArg some layer.atop_self

theorem hoverAtop_hoverAtop (upper lower : Option Layer) :
    hoverAtop (hoverAtop upper lower) lower = hoverAtop upper lower := by
  cases upper with
  | none => exact hoverAtop_self lower
  | some own =>
    cases lower with
    | none => rfl
    | some other => exact congrArg some (own.atop_atop other)

theorem Appearance.atop_self (a : Appearance) : a.atop a = a := by
  rw [Appearance.atop, a.base.atop_self, hoverAtop_self]

/-! ## Ways to resolve -/

/-- How a node looks in the reference viewport of a list: as its styles for it have it, if there are
any. -/
def referenceLook (n : Node) (viewports : List Viewport) : Appearance :=
  (n.element.styles.get? (referenceOf viewports)).getD {}

/-- How wide the reference viewport is. Without viewports it is as wide as the target. -/
def referenceWidth (target : Viewport) (viewports : List Viewport) : UInt32 :=
  (viewports.head?.getD target).width

variable {n : Node} {t : Viewport} {viewports : List Viewport}

/-- What a node can be resolved to. -/
inductive Resolves (n : Node) (t : Viewport) (viewports : List Viewport) : Appearance → Prop
  | own {own : Appearance} (entry : n.element.styles.get? t.name = some own) :
    Resolves n t viewports (own.atop (referenceLook n viewports))
  | still (entry : n.element.styles.get? t.name = none)
    (same : t.name = referenceOf viewports ∨ referenceWidth t viewports = 0) :
    Resolves n t viewports (referenceLook n viewports)
  | scaled (entry : n.element.styles.get? t.name = none) (other : t.name ≠ referenceOf viewports)
    (wide : referenceWidth t viewports ≠ 0) (factor : Float) :
    Resolves n t viewports
      { referenceLook n viewports with base := (referenceLook n viewports).base.scale factor }

theorem scaleOf?_eq_none_iff : scaleOf? t viewports = none ↔ referenceWidth t viewports = 0 := by
  cases viewports <;> simp [scaleOf?, referenceWidth]

theorem resolves_resolve (n : Node) (t : Viewport) (viewports : List Viewport) :
    Resolves n t viewports (resolve n t viewports) := by
  unfold resolve
  simp only
  split
  next own entry => exact .own entry
  next entry =>
    split
    next named => exact .still entry (.inl (eq_of_beq named))
    next other =>
      split
      next narrow => exact .still entry (.inr (scaleOf?_eq_none_iff.mp narrow))
      next factor scale =>
        refine .scaled entry (fun named => other (beq_iff_eq.mpr named)) (fun narrow => ?_) factor
        rw [scaleOf?_eq_none_iff.mpr narrow] at scale
        cases scale

/-- A node with styles for a viewport is resolved to these over those of the reference. -/
theorem resolve_of_own {own : Appearance} (entry : n.element.styles.get? t.name = some own) :
    resolve n t viewports = own.atop (referenceLook n viewports) := by
  unfold resolve
  simp only [entry]
  rfl

/-- In a viewport that is called like the reference a node has its styles for that, or none. -/
theorem resolve_of_named (named : t.name = referenceOf viewports) :
    resolve n t viewports = referenceLook n viewports := by
  have way := resolves_resolve n t viewports
  generalize resolve n t viewports = r at way ⊢
  cases way with
  | @own own entry =>
    rw [referenceLook, ← named, entry]
    exact own.atop_self
  | still => rfl
  | scaled entry other => exact absurd named other

/-- In the reference viewport a node has its own styles for it, or none. -/
theorem resolve_reference (n : Node) (reference : Viewport) (others : List Viewport) :
    resolve n reference (reference :: others) =
      (n.element.styles.get? reference.name).getD {} := resolve_of_named rfl

/-! ## Resolving again -/

/-- What a node is resolved to hides the reference. -/
theorem Resolves.atop {r : Appearance} (way : Resolves n t viewports r) :
    r.atop (referenceLook n viewports) = r := by
  cases way with
  | own entry => rw [Appearance.atop, Appearance.atop, Layer.atop_atop, hoverAtop_hoverAtop]
  | still => exact Appearance.atop_self _
  | scaled entry other wide factor =>
    have hides : ∀ p ∈ (referenceLook n viewports).base.keys,
        p ∈ ((referenceLook n viewports).base.scale factor).keys := by
      rw [Layer.keys_scale]
      exact fun _ mem => mem
    rw [Appearance.atop, Layer.atop_eq_self hides, hoverAtop_self]

/-- What a node is resolved to for a viewport can be written into its styles for that viewport: it
is resolved to the same again. -/
theorem resolve_withStyles_resolve (n : Node) (t : Viewport) (viewports : List Viewport) :
    resolve (n.withStyles t.name (resolve n t viewports)) t viewports =
      resolve n t viewports := by
  generalize known : resolve n t viewports = r
  have found : ∀ name, (n.withStyles t.name r).element.styles.get? name =
      if name = t.name then some r else n.element.styles.get? name := fun name =>
    Dict.get?_insert ..
  rw [resolve_of_own ((found t.name).trans (if_pos rfl)), referenceLook, found]
  split
  next => exact r.atop_self
  -- Under another name the reference is as before.
  next => exact known ▸ (resolves_resolve n t viewports).atop

/-! ## What is whose -/

/-- An appearance has the values of one that lies over another: those that the upper one sets, and
for all other properties those of the lower one. -/
structure LiesOver (own reference r : Appearance) : Prop where
  base : ∀ p, r.base.get? p = (own.base.get? p).or (reference.base.get? p)
  hover : ∀ p, r.hover.bind (·.get? p) =
    (own.hover.bind (·.get? p)).or (reference.hover.bind (·.get? p))
  bare : r.hover = none ↔ own.hover = none ∧ reference.hover = none

/-- An appearance is that of the reference but for lengths of its base layer. -/
structure Follows (t : Viewport) (viewports : List Viewport) (reference r : Appearance) : Prop where
  hover : r.hover = reference.hover
  properties : r.base.keys = reference.base.keys
  /-- What has another value. -/
  differs : ∀ p value value', reference.base.get? p = some value → r.base.get? p = some value' →
    value' ≠ value → t.name ≠ referenceOf viewports ∧ referenceWidth t viewports ≠ 0 ∧
      p ∈ [.top, .left, .width, .height, .fontSize] ∧ Length.KeepsUnit value value'

theorem liesOver_atop (own reference : Appearance) :
    LiesOver own reference (own.atop reference) where
  base := own.base.get?_atop reference.base
  hover p := by
    show (hoverAtop own.hover reference.hover).bind _ = _
    cases own.hover with
    | none => rfl
    | some upper =>
      cases reference.hover with
      | none => exact (Option.or_none).symm
      | some lower => exact upper.get?_atop lower p
  bare := by
    show hoverAtop own.hover reference.hover = none ↔ _
    cases own.hover with
    | none => simp [hoverAtop]
    | some upper => cases reference.hover <;> simp [hoverAtop]

theorem follows_self (t : Viewport) (viewports : List Viewport) (reference : Appearance) :
    Follows t viewports reference reference where
  hover := rfl
  properties := rfl
  differs p value value' before after changed := by
    rw [before] at after
    exact absurd (Option.some.inj after).symm changed

/-- A layer that is scaled has other values for scaled properties at most, and their units stay. -/
theorem Layer.differs_scale {layer : Layer} {factor : Float} {p : Property} {value value' : String}
    (before : layer.get? p = some value) (after : (layer.scale factor).get? p = some value')
    (changed : value' ≠ value) : p.isScaled = true ∧ Length.KeepsUnit value value' := by
  rw [Layer.scale, Dict.get?_mapWithKey, before] at after
  replace after := Option.some.inj after
  split at after
  next scaled =>
    replace after : (Length.scale? factor value).getD value = value' := after
    cases length : Length.scale? factor value with
    | none =>
      rw [length] at after
      exact absurd after.symm changed
    | some product =>
      rw [length] at after
      exact ⟨scaled, after ▸ Length.keepsUnit_of_scale? length⟩
  next => exact absurd after.symm changed

theorem mem_of_isScaled {p : Property} (scaled : p.isScaled = true) :
    p ∈ [.top, .left, .width, .height, .fontSize] := by
  cases p <;> first | decide | cases scaled

/-- What a node is resolved to, by the styles that it has for the viewport. Its own styles there lie
over those of the reference, without any scaling. A node without such styles looks like the
reference: it has the same hover layer and the same properties, and another value only where a
length with a unit is scaled. In a viewport that is called like the reference nothing differs. -/
theorem resolve_over_and_follows (n : Node) (t : Viewport) (viewports : List Viewport) :
    (∀ own, n.element.styles.get? t.name = some own →
      LiesOver own (referenceLook n viewports) (resolve n t viewports)) ∧
    (n.element.styles.get? t.name = none →
      Follows t viewports (referenceLook n viewports) (resolve n t viewports)) ∧
    (t.name = referenceOf viewports → resolve n t viewports = referenceLook n viewports) := by
  refine ⟨fun own entry => ?_, fun none_own => ?_, resolve_of_named⟩
  · rw [resolve_of_own entry]
    exact liesOver_atop own _
  · have way := resolves_resolve n t viewports
    generalize resolve n t viewports = r at way ⊢
    cases way with
    | own entry =>
      rw [none_own] at entry
      cases entry
    | still => exact follows_self t viewports _
    | scaled entry other wide factor =>
      refine ⟨rfl, Layer.keys_scale factor _, fun p value value' before after changed => ?_⟩
      obtain ⟨scaled, unit⟩ := Layer.differs_scale before after changed
      exact ⟨other, wide, mem_of_isScaled scaled, unit⟩

/-- A card with a top and a width for the reference, of which only the first is a length with a
unit, and with a left for a third viewport. -/
def banner : Node :=
  let own : Appearance :=
    { base := Dict.ofList [(.left, "7px")], hover := some (Dict.ofList [(.top, "1px")]) }
  ((Node.bare "banner" .card "Banner").withBase
    (Dict.ofList [(.top, " +100.50px "), (.width, "w-full"), (.textColor, "10px")])).withStyles
      "Phone" own

theorem resolve_over_and_follows_banner :
    let desktop : Viewport := ⟨"Desktop", 1280, 720, 1280⟩
    let half : Viewport := ⟨"Half", 640, 720, 640⟩
    let phone : Viewport := ⟨"Phone", 320, 720, 320⟩
    let viewports := [desktop, half, phone]
    (banner.element.styles.get? half.name = none ∧
      (resolve banner half viewports).base =
        Dict.ofList [(.top, "50.25px"), (.width, "w-full"), (.textColor, "10px")] ∧
      Follows half viewports (referenceLook banner viewports) (resolve banner half viewports)) ∧
    (∃ own, banner.element.styles.get? phone.name = some own ∧
      (resolve banner phone viewports).base.get? .top = some " +100.50px " ∧
      LiesOver own (referenceLook banner viewports) (resolve banner phone viewports)) ∧
    desktop.name = referenceOf viewports ∧
      resolve banner desktop viewports = referenceLook banner viewports := by
  intro desktop half phone viewports
  have bare : banner.element.styles.get? half.name = none := by decide
  obtain ⟨own, entry⟩ : ∃ own, banner.element.styles.get? phone.name = some own := ⟨_, rfl⟩
  refine ⟨⟨bare, by decide +kernel, ?_⟩, ⟨own, entry, by decide +kernel, ?_⟩, rfl, ?_⟩
  · exact (resolve_over_and_follows banner half viewports).2.1 bare
  · exact (resolve_over_and_follows banner phone viewports).1 own entry
  · exact (resolve_over_and_follows banner desktop viewports).2.2 rfl

end PageStudio.Style
