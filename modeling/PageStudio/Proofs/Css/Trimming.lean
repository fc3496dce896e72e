import PageStudio.Proofs.Css.Values
import PageStudio.Proofs.Text.Blank

/-!
# Blanks around stored values

The declarations of a layer come from its values without the blanks around them, but for the colour
of a border, which is taken as it is stored. So blanks count there and nowhere else: a literal is
written with them, and a token with blanks around it is none.

## Main statements

* `declarations_trimmedLayer_iff`: when a layer without the blanks declares the same.
* `exists_declarations_trimmedLayer_ne`: two layers that do not.
-/

namespace PageStudio.Css

open Style

variable {layer layer' : Layer} {p : Property} {value c : String}

theorem trimmed_trimmed (value : String) : trimmed (trimmed value) = trimmed value := by
  rw [trimmed, trimmed, String.toList_ofList, Text.trim_trim]

/-- Blanks around a literal are not looked at. -/
theorem isLiteral_trimmed (value : String) : isLiteral (trimmed value) = isLiteral value := by
  unfold isLiteral trimmed
  rw [String.toList_ofList, Text.trim_trim]

/-- The layer with every value trimmed. -/
def trimmedLayer (layer : Layer) : Layer := layer.mapWithKey fun _ value => trimmed value

/-! ## One property -/

theorem propertyDeclarations_trimmed (layer : Layer) (p : Property) (value : String) :
    propertyDeclarations layer p (trimmed value) = propertyDeclarations layer p value := by
  unfold propertyDeclarations
  rw [trimmed_trimmed]

/-- Of the other values of its layer, a property asks for the colour of borders alone. -/
theorem propertyDeclarations_of_color (same : layer.get? .borderColor = layer'.get? .borderColor)
    (p : Property) (value : String) :
    propertyDeclarations layer p value = propertyDeclarations layer' p value := by
  by_cases plain : p = .border
  · subst plain
    unfold propertyDeclarations
    rw [same]
  · exact propertyDeclarations_congr plain layer layer' value

theorem declarations_mapWithKey (layer : Layer) (f : Property → String → String) :
    declarations (layer.mapWithKey f) =
      layer.entries.flatMap fun e => propertyDeclarations (layer.mapWithKey f) e.1 (f e.1 e.2) :=
  List.flatMap_map ..

/-! ## The colour of a border -/

/-- The names of colours have no blanks in them. -/
theorem isBlank_of_mem_colors : ∀ e ∈ colors, ∀ c ∈ e.1.toList, Text.isBlank c = false := by
  have visible : (colors.all fun e => e.1.toList.all fun c => !Text.isBlank c) = true := by
    decide +kernel
  exact fun e mem => Text.isBlank_of_all (List.all_eq_true.mp visible e mem)

/-- The token of a colour has no blanks around it. -/
theorem trimmed_of_valueOf?_borderColor {color : String}
    (found : valueOf? .borderColor c = some color) : trimmed c = c := by
  obtain ⟨name, behind, known⟩ := Option.bind_eq_some_iff.mp found
  have entry := mem_of_lookup known
  have front : ∀ d ∈ "border-".toList, Text.isBlank d = false := Text.isBlank_of_all (by decide)
  have visible : ∀ d ∈ c.toList, Text.isBlank d = false := by
    rw [Text.dropFront?_eq_some_iff.mp behind]
    refine List.forall_mem_append.mpr ⟨front, fun d mem => ?_⟩
    exact isBlank_of_mem_colors _ entry d (by rwa [String.toList_ofList])
  rw [trimmed, Text.trim_eq_self visible, String.ofList_toList]

/-- A border has the same colour without the blanks around it: because there are none, or because
its name with and without them stands for the default. -/
def KeepsColor (c : String) : Prop :=
  trimmed c = c ∨ isLiteral c = false ∧
    ∀ color, valueOf? .borderColor (trimmed c) = some color → color = defaultBorderColor

theorem borderColor_trimmed_iff :
    borderColor (some (trimmed c)) = borderColor (some c) ↔ KeepsColor c := by
  simp only [borderColor, KeepsColor, isLiteral_trimmed]
  cases literal : isLiteral c with
  | true => simp
  | false =>
    by_cases same : trimmed c = c
    · simp [same]
    · have unknown : valueOf? .borderColor c = none := by
        cases found : valueOf? .borderColor c with
        | none => rfl
        | some color => exact absurd (trimmed_of_valueOf?_borderColor found) same
      rw [unknown]
      cases valueOf? .borderColor (trimmed c) <;> simp [same]

/-- A value of a border that makes a line. -/
def DrawsBorder (value : String) : Prop := trimmed value ∉ ["", "none", "border-none"]

/-- Only where a line is made its colour counts. -/
theorem border_eq_iff {color color' : Option String} :
    border value color = border value color' ↔
      (value = "none" ∨ value = "border-none") ∨ borderColor color = borderColor color' := by
  have none_iff : (value == "none" || value == "border-none") = true ↔
      value = "none" ∨ value = "border-none" := by
    rw [Bool.or_eq_true, beq_iff_eq, beq_iff_eq]
  unfold border
  generalize (if Text.occursIn _ _ then [("border-style", "dashed")] else []) = dashes
  split
  next none => exact iff_of_true rfl (.inl (none_iff.mp none))
  next line =>
    rw [or_iff_right fun none => line (none_iff.mpr none), List.cons.injEq, and_iff_left rfl,
      Prod.mk.injEq, and_iff_right rfl, String.append_right_inj]

theorem propertyDeclarations_border_eq_iff :
    propertyDeclarations layer .border value = propertyDeclarations layer' .border value ↔
      (DrawsBorder value →
        borderColor (layer.get? .borderColor) = borderColor (layer'.get? .borderColor)) := by
  have shown (layer : Layer) : propertyDeclarations layer .border value =
      if (trimmed value).isEmpty then []
      else border (trimmed value) (layer.get? .borderColor) := rfl
  simp only [shown, DrawsBorder, List.mem_cons, List.not_mem_nil, or_false, not_or]
  by_cases blank : trimmed value = ""
  · simp [blank]
  · rw [if_neg (by simpa using blank), if_neg (by simpa using blank), border_eq_iff,
      and_iff_right blank, ← not_or, or_iff_not_imp_left]

/-! ## Layers -/

theorem get?_trimmedLayer (layer : Layer) (p : Property) :
    (trimmedLayer layer).get? p = (layer.get? p).map trimmed := Dict.get?_mapWithKey ..

/-- A trimmed layer declares the same if it does for the border. -/
theorem declarations_trimmedLayer_eq_iff_border :
    declarations (trimmedLayer layer) = declarations layer ↔
      ∀ value, layer.get? .border = some value →
        propertyDeclarations (trimmedLayer layer) .border value =
          propertyDeclarations layer .border value := by
  constructor
  · intro same value set
    have border : declarationsOf (trimmedLayer layer) .border = declarationsOf layer .border := by
      rw [← filter_declarations, same, filter_declarations]
    simpa [declarationsOf, get?_trimmedLayer, set, propertyDeclarations_trimmed] using border
  · intro border
    unfold trimmedLayer
    rw [declarations_mapWithKey]
    refine List.flatMap_congr fun e mem => ?_
    rw [propertyDeclarations_trimmed]
    by_cases plain : e.1 = .border
    · rw [plain]
      exact border e.2 (layer.get?_eq_some_iff.mpr (plain ▸ mem))
    · exact propertyDeclarations_congr plain _ layer e.2

/-- A layer declares the same without the blanks around all of its values but the colour of its
border. Without those around the colour too it does exactly if no line is made, or one of the same
colour. -/
theorem declarations_trimmedLayer_iff (layer : Layer) :
    declarations (layer.mapWithKey fun p value =>
        if p = .borderColor then value else trimmed value) = declarations layer ∧
    (declarations (trimmedLayer layer) = declarations layer ↔
      ∀ value c, layer.get? .border = some value → layer.get? .borderColor = some c →
        DrawsBorder value → KeepsColor c) := by
  constructor
  · rw [declarations_mapWithKey]
    refine List.flatMap_congr fun e _ => ?_
    have same : (layer.mapWithKey fun p value =>
        if p = .borderColor then value else trimmed value).get? .borderColor =
          layer.get? .borderColor := by
      simp [Dict.get?_mapWithKey]
    rw [propertyDeclarations_of_color same]
    split
    · rfl
    · exact propertyDeclarations_trimmed layer e.1 e.2
  · simp only [declarations_trimmedLayer_eq_iff_border, propertyDeclarations_border_eq_iff,
      get?_trimmedLayer]
    cases layer.get? .borderColor with
    | none => simp
    | some c => simp [borderColor_trimmed_iff]

/-- The colour of a border is another one with a blank in front of its name, and another text with
one in front of its digits. -/
theorem exists_declarations_trimmedLayer_ne :
    (∃ layer, layer.get? .borderColor = some " border-red-500" ∧
      declarations layer = [("border", "1px solid #6b7280")] ∧
      declarations (trimmedLayer layer) = [("border", "1px solid #ef4444")]) ∧
    ∃ layer, layer.get? .borderColor = some " #fff" ∧
      declarations layer = [("border", "1px solid  #fff")] ∧
      declarations (trimmedLayer layer) = [("border", "1px solid #fff")] := by
  refine ⟨⟨Dict.ofList [(.border, "border"), (.borderColor, " border-red-500")], ?_⟩,
    ⟨Dict.ofList [(.border, "border"), (.borderColor, " #fff")], ?_⟩⟩
  · decide
  · decide

end PageStudio.Css
