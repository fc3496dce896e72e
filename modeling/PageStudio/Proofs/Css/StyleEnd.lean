import PageStudio.Css.Base
import PageStudio.Proofs.Css.Statements
import PageStudio.Proofs.Text.Part

/-!
# Where a style sheet ends the element around it

A style sheet inside a page stands in a `style` element, which ends at the first `</style`,
whatever a style sheet would make of it. Of all that stands in the style sheets of a page, only the
values that the styles of nodes declare can have that text in them: a literal may have brackets.

## Main statements

* `brings_baseText`: the base style sheet never ends its element.
* `brings_layoutText`: the style sheet of a layout does so exactly if one of the declared values
  does.
-/

namespace PageStudio.Css

open Style Text

/-- The beginning of a tag that ends a `style` element. -/
def styleEnd : List Char := "</style".toList

/-- A text ends the `style` element that it stands in. -/
def EndsStyle (s : String) : Prop := styleEnd <:+: caseless s

instance (s : String) : Decidable (EndsStyle s) := decidable_of_iff _ occursIn_iff

/-- A text has no bracket in it that could begin a tag. -/
def Quiet (s : String) : Prop := '<' ∉ s.toList

instance (s : String) : Decidable (Quiet s) := inferInstanceAs (Decidable ('<' ∉ s.toList))

variable {s t : String} {r : Rule}

theorem Quiet.append (front : Quiet s) (back : Quiet t) : Quiet (s ++ t) := by
  unfold Quiet
  rw [String.toList_append, List.mem_append, not_or]
  exact ⟨front, back⟩

/-- Only a bracket has a bracket as its lower case: capitals have letters. -/
theorem eq_of_toLower_eq_bracket {c : Char} (lower : c.toLower = '<') : c = '<' := by
  unfold Char.toLower at lower
  split at lower
  next capital =>
    have code := congrArg (fun d : Char => d.val.toNat) lower
    have least := UInt32.le_iff_toNat_le.mp capital.1
    have greatest := UInt32.le_iff_toNat_le.mp capital.2
    simp at code least greatest
    omega
  next => exact lower

theorem Quiet.not_mem_caseless (quiet : Quiet s) : '<' ∉ caseless s := by
  intro mem
  obtain ⟨c, inside, lower⟩ := List.mem_map.mp mem
  exact quiet (eq_of_toLower_eq_bracket lower ▸ inside)

theorem Quiet.brings (quiet : Quiet s) : Brings styleEnd (caseless s) False :=
  brings_of_not_mem quiet.not_mem_caseless

theorem Quiet.not_endsStyle (quiet : Quiet s) : ¬EndsStyle s :=
  (quiet.brings.infix_iff (List.cons_ne_nil _ _)).mp

theorem quiet_digits (n : Nat) : Quiet (digits n) := by
  rw [Quiet, digits, String.toList_ofList]
  exact Decimal.not_mem_toDigits rfl n

/-! ## Texts of style sheets -/

/-- Quiet texts may stand around. -/
theorem brings_around {P : Prop} {front back : String} (brings : Brings styleEnd (caseless s) P)
    (before : Quiet front) (behind : Quiet back) :
    Brings styleEnd (caseless (front ++ s ++ back)) P := by
  rw [caseless_append, caseless_append]
  exact brings.around before.not_mem_caseless behind.not_mem_caseless

/-- Texts one behind another bring what one of them brings. -/
theorem brings_concat {α : Type} {l : List α} {part : List Char} {text : α → String} {P : α → Prop}
    (each : ∀ a ∈ l, Brings part (caseless (text a)) (P a)) :
    Brings part (caseless (concat (l.map text))) (∃ a ∈ l, P a) := by
  induction l with
  | nil => exact brings_nil.congr ⟨nofun, nofun⟩
  | cons a l ih =>
    have later := ih fun b mem => each b (List.mem_cons_of_mem _ mem)
    show Brings part (caseless (text a ++ concat (l.map text))) _
    rw [caseless_append]
    exact ((each a List.mem_cons_self).append later).congr (List.exists_mem_cons_iff _ _ _).symm

/-- A declaration brings the end of a style sheet in its value only. -/
theorem brings_declaration {d : Declaration} (name : Quiet d.1) :
    Brings styleEnd (caseless (declarationText d)) (EndsStyle d.2) := by
  have value : Brings styleEnd (caseless (d.2 ++ ";")) (EndsStyle d.2) := by
    rw [caseless_append]
    exact brings_of_end (by decide)
  have text : declarationText d = d.1 ++ ": " ++ (d.2 ++ ";") ++ " " := by
    have ending : "; " = ";" ++ " " := rfl
    simp only [declarationText, ending, String.append_assoc]
  rw [text]
  exact brings_around value (name.append (by decide)) (by decide)

/-- A declared value of a rule ends the element around the style sheet. -/
def Rule.EndsStyle (r : Rule) : Prop := ∃ d ∈ r.declarations, Css.EndsStyle d.2

/-- A rule has brackets in its declared values only. -/
structure QuietRule (r : Rule) : Prop where
  selector : Quiet r.selector
  names : ∀ d ∈ r.declarations, Quiet d.1

instance (r : Rule) : Decidable (QuietRule r) :=
  decidable_of_iff (Quiet r.selector ∧ ∀ d ∈ r.declarations, Quiet d.1)
    ⟨fun h => ⟨h.1, h.2⟩, fun h => ⟨h.selector, h.names⟩⟩

/-- A rule, with what ends its line, brings the end of a style sheet in its declared values only. -/
theorem QuietRule.brings_append (quiet : QuietRule r) {ending : String} (behind : Quiet ending) :
    Brings styleEnd (caseless (r.text ++ ending)) r.EndsStyle := by
  have inner : Brings styleEnd (caseless (concat (r.declarations.map declarationText)))
      r.EndsStyle := brings_concat fun d mem => brings_declaration (quiet.names d mem)
  have text : r.text ++ ending = r.selector ++ " \x7b " ++
      concat (r.declarations.map declarationText) ++ ("\x7d" ++ ending) := by
    simp only [Rule.text, String.append_assoc]
  rw [text]
  exact brings_around inner (quiet.selector.append (by decide)) (Quiet.append (by decide) behind)

theorem QuietRule.brings_line (quiet : QuietRule r) :
    Brings styleEnd (caseless r.line) r.EndsStyle := quiet.brings_append (by decide)

theorem Item.brings {i : Item} (named : Quiet i.name) (quiet : ∀ r ∈ i.rules, QuietRule r) :
    Brings styleEnd (caseless i.text) (∃ r ∈ i.rules, r.EndsStyle) := by
  cases i with
  | rule r =>
    have alone : (∃ q ∈ [r], Rule.EndsStyle q) ↔ r.EndsStyle := by
      simp only [List.mem_singleton, exists_eq_left]
    exact (quiet r List.mem_cons_self).brings_line.congr alone.symm
  | upToWidth pixels rules =>
    have inner : Brings styleEnd (caseless (concat (rules.map Rule.line)))
        (∃ r ∈ rules, r.EndsStyle) := brings_concat fun r mem => (quiet r mem).brings_line
    have front : Quiet ("@media (max-width: " ++ digits pixels ++ "px) \x7b\n") :=
      (Quiet.append (by decide) (quiet_digits pixels)).append (by decide)
    rw [Item.text_upToWidth]
    exact brings_around inner front (by decide)
  | animation name steps =>
    have inner : Brings styleEnd (caseless (concat (steps.map fun r => r.text ++ " ")))
        (∃ r ∈ steps, r.EndsStyle) :=
      brings_concat fun r mem => (quiet r mem).brings_append (by decide)
    have front : Quiet ("@keyframes " ++ name ++ " \x7b ") :=
      (Quiet.append (by decide) named).append (by decide)
    rw [Item.text_animation]
    exact brings_around inner front (by decide)

/-- A style sheet ends the element around it exactly if a declared value does. -/
theorem brings_text {sheet : Sheet} (names : ∀ i ∈ sheet, Quiet i.name)
    (quiet : ∀ i ∈ sheet, ∀ r ∈ i.rules, QuietRule r) :
    Brings styleEnd (caseless (text sheet)) (∃ i ∈ sheet, ∃ r ∈ i.rules, r.EndsStyle) :=
  brings_concat fun i mem => Item.brings (names i mem) (quiet i mem)

/-! ## The base style sheet -/

/-- The texts of a theme have no brackets in them. -/
structure QuietTheme (theme : Theme) : Prop where
  fontFamily : Quiet theme.fontFamily
  bodyBackground : Quiet theme.bodyBackground
  bodyColor : Quiet theme.bodyColor

/-- A colour of a theme is its own text or one that is known. -/
theorem quiet_themeColor {value fallback : String} (own : Quiet value) (known : Quiet fallback) :
    Quiet (themeColor value fallback) := by
  have values : ∀ v ∈ tokenValues, Quiet v := by decide +kernel
  rcases themeColor_cases value fallback with ⟨-, same⟩ | ⟨-, mem⟩
  · rwa [same]
  · exact List.forall_mem_cons.mpr ⟨known, values⟩ _ mem

/-- A rule has no brackets in it. -/
structure SilentRule (r : Rule) : Prop where
  selector : Quiet r.selector
  declarations : ∀ d ∈ r.declarations, Quiet d.1 ∧ Quiet d.2

instance (r : Rule) : Decidable (SilentRule r) :=
  decidable_of_iff (Quiet r.selector ∧ ∀ d ∈ r.declarations, Quiet d.1 ∧ Quiet d.2)
    ⟨fun h => ⟨h.1, h.2⟩, fun h => ⟨h.selector, h.declarations⟩⟩

theorem SilentRule.quietRule (silent : SilentRule r) : QuietRule r :=
  ⟨silent.selector, fun d mem => (silent.declarations d mem).1⟩

theorem SilentRule.not_endsStyle (silent : SilentRule r) : ¬r.EndsStyle := by
  rintro ⟨d, mem, ends⟩
  exact (silent.declarations d mem).2.not_endsStyle ends

theorem silent_fixedRules : ∀ r ∈ pageRules ++ widgetRules, SilentRule r := by decide +kernel

theorem silent_themeRule {theme : Theme} (quiet : QuietTheme theme) :
    SilentRule (themeRule theme) := by
  have background : Quiet (themeColor theme.bodyBackground fallbackBackground) :=
    quiet_themeColor quiet.bodyBackground (by decide)
  have color : Quiet (themeColor theme.bodyColor fallbackText) :=
    quiet_themeColor quiet.bodyColor (by decide)
  refine ⟨(by decide : Quiet ":root"), ?_⟩
  refine List.forall_mem_cons.mpr ⟨⟨(by decide : Quiet "--font-family"), quiet.fontFamily⟩, ?_⟩
  refine List.forall_mem_cons.mpr ⟨⟨(by decide : Quiet "--background-color"), background⟩, ?_⟩
  exact List.forall_mem_singleton.mpr ⟨(by decide : Quiet "--text-color"), color⟩

theorem silent_frameRule (frame : Viewport) : SilentRule (frameRule frame) := by
  have pixels : ∀ n, Quiet (digits n ++ "px") := fun n => (quiet_digits n).append (by decide)
  refine ⟨(by decide : Quiet "#page-frame"), ?_⟩
  refine List.forall_mem_cons.mpr ⟨by decide, List.forall_mem_cons.mpr ⟨by decide, ?_⟩⟩
  refine List.forall_mem_cons.mpr ⟨⟨(by decide : Quiet "max-width"), pixels _⟩, ?_⟩
  refine List.forall_mem_cons.mpr ⟨⟨(by decide : Quiet "height"), pixels _⟩, ?_⟩
  decide

/-- Nothing in the base style sheet ends the element around it. -/
theorem brings_baseText {theme : Theme} (quiet : QuietTheme theme) (frame : Viewport) :
    Brings styleEnd (caseless (baseText theme frame)) False := by
  have fixed := List.forall_mem_append.mp silent_fixedRules
  have silent : ∀ r ∈ themeRule theme :: pageRules ++ frameRule frame :: widgetRules,
      SilentRule r :=
    List.forall_mem_append.mpr
      ⟨List.forall_mem_cons.mpr ⟨silent_themeRule quiet, fixed.1⟩,
        List.forall_mem_cons.mpr ⟨silent_frameRule frame, fixed.2⟩⟩
  have items : ∀ i ∈ baseSheet theme frame, Quiet i.name ∧ ∀ r ∈ i.rules, SilentRule r :=
    List.forall_mem_map.mpr fun r mem =>
      ⟨(by decide : Quiet ""), List.forall_mem_singleton.mpr (silent r mem)⟩
  refine (brings_text (fun i mem => (items i mem).1)
    fun i mem r inside => ((items i mem).2 r inside).quietRule).congr ?_
  rw [iff_false]
  rintro ⟨i, mem, r, inside, ends⟩
  exact ((items i mem).2 r inside).not_endsStyle ends

/-! ## The style sheet of a layout -/

/-- The styles of a node make a declaration for a viewport. -/
def DeclaresFor (e : Element) (v : Viewport) (d : Declaration) : Prop :=
  ∃ a, e.styles.get? v.name = some a ∧
    (d ∈ declarations a.base ∨ ∃ hover, a.hover = some hover ∧ d ∈ declarations hover)

/-- The styles of the nodes of a layout make a declaration for one of the viewports. -/
def Declares (layout : List Node) (viewports : List Viewport) (d : Declaration) : Prop :=
  ∃ n ∈ Node.forestNodes layout, ∃ v ∈ viewports, DeclaresFor n.element v d

variable {e : Element} {layer : Layer} {layout : List Node} {viewports : List Viewport}

theorem quiet_of_mem_names : ∀ {p : Property}, ∀ name ∈ names p, Quiet name := by
  intro p
  cases p <;> decide

theorem quiet_of_mem_declarations {d : Declaration} (declared : d ∈ declarations layer) :
    Quiet d.1 := by
  obtain ⟨e, -, here⟩ := List.mem_flatMap.mp declared
  exact quiet_of_mem_names d.1 (mem_names here)

theorem quiet_selector {id : String} (quiet : Quiet id) : Quiet (selector id) :=
  Quiet.append (by decide) quiet

/-- Of the rules of a base layer and of a hover layer, only what the layer declares can end a style
sheet: the placing cannot. -/
theorem exists_ends_baseRule_iff (id : String) (layer : Layer) :
    (∃ r ∈ baseRule id layer, r.EndsStyle) ↔ ∃ d ∈ declarations layer, EndsStyle d.2 := by
  have placing : ¬EndsStyle "absolute" := by decide
  constructor
  · rintro ⟨r, mem, ends⟩
    obtain ⟨-, rfl⟩ := mem_baseRule_iff.mp mem
    exact ((List.exists_mem_cons_iff _ _ _).mp ends).resolve_left placing
  · rintro ⟨d, declared, ends⟩
    exact ⟨_, mem_baseRule_iff.mpr ⟨List.ne_nil_of_mem declared, rfl⟩, d,
      List.mem_cons_of_mem _ declared, ends⟩

theorem exists_ends_hoverRule_iff (id : String) (layer : Layer) :
    (∃ r ∈ hoverRule id layer, r.EndsStyle) ↔ ∃ d ∈ declarations layer, EndsStyle d.2 := by
  constructor
  · rintro ⟨r, mem, ends⟩
    obtain ⟨-, rfl⟩ := mem_hoverRule_iff.mp mem
    exact ends
  · rintro ⟨d, declared, ends⟩
    exact ⟨_, mem_hoverRule_iff.mpr ⟨List.ne_nil_of_mem declared, rfl⟩, d, declared, ends⟩

theorem exists_ends_viewportRules_iff (e : Element) (v : Viewport) :
    (∃ r ∈ viewportRules e v, r.EndsStyle) ↔ ∃ d, DeclaresFor e v d ∧ EndsStyle d.2 := by
  constructor
  · rintro ⟨r, mem, ends⟩
    obtain ⟨a, found, base | ⟨layer, hovered, hover⟩⟩ := mem_viewportRules_iff.mp mem
    · obtain ⟨d, declared, ends⟩ := (exists_ends_baseRule_iff e.id a.base).mp ⟨r, base, ends⟩
      exact ⟨d, ⟨a, found, .inl declared⟩, ends⟩
    · obtain ⟨d, declared, ends⟩ := (exists_ends_hoverRule_iff e.id layer).mp ⟨r, hover, ends⟩
      exact ⟨d, ⟨a, found, .inr ⟨layer, hovered, declared⟩⟩, ends⟩
  · rintro ⟨d, ⟨a, found, declared | ⟨layer, hovered, declared⟩⟩, ends⟩
    · obtain ⟨r, base, ends⟩ := (exists_ends_baseRule_iff e.id a.base).mpr ⟨d, declared, ends⟩
      exact ⟨r, mem_viewportRules_iff.mpr ⟨a, found, .inl base⟩, ends⟩
    · obtain ⟨r, hover, ends⟩ := (exists_ends_hoverRule_iff e.id layer).mpr ⟨d, declared, ends⟩
      exact ⟨r, mem_viewportRules_iff.mpr ⟨a, found, .inr ⟨layer, hovered, hover⟩⟩, ends⟩

theorem quiet_brief (x : Float) : Quiet (Decimal.brief x) := fun mem =>
  absurd (Decimal.isBriefChar_of_mem_brief mem) (by decide)

theorem silent_kindRules (quiet : Quiet e.id) : ∀ r ∈ kindRules e, SilentRule r := by
  have front := quiet_selector quiet
  unfold kindRules
  split
  next =>
    refine List.forall_mem_singleton.mpr ⟨front.append (by decide), ?_⟩
    refine List.forall_mem_cons.mpr ⟨⟨(by decide : Quiet "width"), ?_⟩, by decide⟩
    exact (quiet_brief _).append (by decide)
  next => exact List.forall_mem_singleton.mpr ⟨front, by dsimp only; decide⟩
  next => exact List.forall_mem_singleton.mpr ⟨front, by dsimp only; decide⟩
  next => nofun

theorem quiet_viewportRules (quiet : Quiet e.id) (v : Viewport) :
    ∀ r ∈ viewportRules e v, QuietRule r := by
  intro r mem
  have front := quiet_selector quiet
  obtain ⟨a, -, base | ⟨layer, -, hover⟩⟩ := mem_viewportRules_iff.mp mem
  · obtain ⟨-, rfl⟩ := mem_baseRule_iff.mp base
    refine ⟨front, List.forall_mem_cons.mpr ⟨by decide, fun d declared => ?_⟩⟩
    exact quiet_of_mem_declarations declared
  · obtain ⟨-, rfl⟩ := mem_hoverRule_iff.mp hover
    exact ⟨front.append (by decide), fun d declared => quiet_of_mem_declarations declared⟩

theorem quiet_nodeRules (quiet : Quiet e.id) : ∀ r ∈ nodeRules viewports e, QuietRule r := by
  refine List.forall_mem_append.mpr
    ⟨fun r mem => ?_, fun r mem => (silent_kindRules quiet r mem).quietRule⟩
  obtain ⟨v, -, here⟩ := List.mem_flatMap.mp mem
  exact quiet_viewportRules quiet v r here

theorem exists_ends_nodeRules_iff (quiet : Quiet e.id) :
    (∃ r ∈ nodeRules viewports e, r.EndsStyle) ↔
      ∃ v ∈ viewports, ∃ d, DeclaresFor e v d ∧ EndsStyle d.2 := by
  simp only [← exists_ends_viewportRules_iff]
  constructor
  · rintro ⟨r, mem, ends⟩
    rcases List.mem_append.mp mem with styles | kind
    · obtain ⟨v, listed, here⟩ := List.mem_flatMap.mp styles
      exact ⟨v, listed, r, here, ends⟩
    · exact absurd ends (silent_kindRules quiet r kind).not_endsStyle
  · rintro ⟨v, listed, r, here, ends⟩
    exact ⟨r, List.mem_append_left _ (List.mem_flatMap.mpr ⟨v, listed, here⟩), ends⟩

theorem silent_spin : ∀ r ∈ spin.rules, SilentRule r := by
  show ∀ r ∈ [(⟨"to", [("transform", "rotate(360deg)")]⟩ : Rule)], SilentRule r
  decide

/-- The style sheet of a layout ends the element around it exactly if a declared value does. -/
theorem brings_layoutText (ids : ∀ id ∈ Node.forestIds layout, Quiet id) :
    Brings styleEnd (caseless (layoutText layout viewports))
      (∃ d, Declares layout viewports d ∧ EndsStyle d.2) := by
  have quiet : ∀ n ∈ Node.forestNodes layout, Quiet n.element.id := fun n mem =>
    ids _ (Node.id_mem_forestIds mem)
  have names : ∀ i ∈ layoutSheet layout viewports, Quiet i.name :=
    forall_names_layoutSheet (by decide) (by decide)
  have rules : ∀ i ∈ layoutSheet layout viewports, ∀ r ∈ i.rules, QuietRule r :=
    forall_rules_layoutSheet (fun n mem => quiet_nodeRules (quiet n mem))
      fun r mem => (silent_spin r mem).quietRule
  refine (brings_text names rules).congr ?_
  rw [exists_rules_layoutSheet_iff, or_iff_left]
  · constructor
    · rintro ⟨n, node, ends⟩
      obtain ⟨v, listed, d, declared, ends⟩ := (exists_ends_nodeRules_iff (quiet n node)).mp ends
      exact ⟨d, ⟨n, node, v, listed, declared⟩, ends⟩
    · rintro ⟨d, ⟨n, node, v, listed, declared⟩, ends⟩
      exact ⟨n, node,
        (exists_ends_nodeRules_iff (quiet n node)).mpr ⟨v, listed, d, declared, ends⟩⟩
  · rintro ⟨-, r, mem, ends⟩
    exact (silent_spin r mem).not_endsStyle ends

end PageStudio.Css
