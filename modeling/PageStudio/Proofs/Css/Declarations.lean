import PageStudio.Css.Declarations
import PageStudio.Proofs.Style.Resolve

/-!
# Declarations by property

Every name that a layer declares belongs to one property (`owner?_of_mem_names`). So which of many
declarations counts can be told for each property by itself (`ofList_eq_iff`).
-/

namespace PageStudio.Css

open Style

variable {layer upper lower : Layer} {p q : Property} {value : String} {d : Declaration}

/-! ## Names -/

/-- The names that values of a property are declared under. -/
def names : Property → List String
  | .margin => ["margin", "margin-top", "margin-bottom"]
  | .border => ["border", "border-style"]
  | .borderColor => []
  | p => [p.cssName]

/-- The property that a declaration belongs to. -/
def owner? (name : String) : Option Property := Property.all.find? fun p => (names p).contains name

/-- The names of a property are its own. -/
theorem owner?_of_mem_names : ∀ {p : Property}, ∀ name ∈ names p, owner? name = some p := by
  intro p
  cases p <;> decide

theorem eq_of_mem_names {name : String} (hp : name ∈ names p) (hq : name ∈ names q) : p = q := by
  have same := owner?_of_mem_names name hp
  rw [owner?_of_mem_names name hq] at same
  exact (Option.some.inj same).symm

/-- A token stands for a declaration of its property. -/
theorem mem_names_of_declaration? (plain : p ≠ .borderColor)
    (declared : declaration? p value = some d) : d.1 ∈ names p := by
  have own : p.cssName ∈ names p := by
    cases p with
    | borderColor => exact absurd rfl plain
    | _ => exact List.mem_cons_self
  unfold declaration? at declared
  split at declared
  next =>
    cases declared
    exact own
  next =>
    split at declared
    next =>
      cases declared
      exact own
    next name literal meant =>
      cases declared
      unfold meaning? at meant
      split at meant
      next =>
        cases meant
        decide
      next =>
        cases meant
        decide
      next =>
        obtain ⟨_, _, absurd_eq⟩ := Option.map_eq_some_iff.mp meant
        cases absurd_eq
    next => cases declared

theorem mem_names_of_border {color : Option String} (declared : d ∈ border value color) :
    d.1 ∈ names .border := by
  unfold border at declared
  split at declared
  next =>
    rw [List.mem_singleton.mp declared]
    exact List.mem_cons_self
  next =>
    rcases List.mem_cons.mp declared with rfl | dashed
    · exact List.mem_cons_self
    · split at dashed
      next =>
        rw [List.mem_singleton.mp dashed]
        exact List.mem_cons_of_mem _ List.mem_cons_self
      next => cases dashed

/-- What a property declares has one of its names. -/
theorem mem_names (declared : d ∈ propertyDeclarations layer p value) : d.1 ∈ names p := by
  unfold propertyDeclarations at declared
  simp only at declared
  split at declared
  next => cases declared
  next =>
    split at declared
    next => cases declared
    next => exact mem_names_of_border declared
    next plain _ => exact mem_names_of_declaration? plain (Option.mem_toList.mp declared)

/-! ## One property -/

/-- What a layer declares for one property. -/
def declarationsOf (layer : Layer) (p : Property) : List Declaration :=
  ((layer.get? p).map (propertyDeclarations layer p)).getD []

/-- Whether a declaration is one of a property. -/
def isOf (p : Property) (name : String) : Bool := (names p).contains name

theorem isOf_iff {name : String} : isOf p name = true ↔ name ∈ names p := List.contains_iff_mem

theorem filter_propertyDeclarations :
    (propertyDeclarations layer q value).filter (fun d => isOf p d.1) =
      if q = p then propertyDeclarations layer p value else [] := by
  split
  next same =>
    subst same
    exact List.filter_eq_self.mpr fun d declared => isOf_iff.mpr (mem_names declared)
  next other =>
    refine List.filter_eq_nil_iff.mpr fun d declared of_p => other ?_
    exact eq_of_mem_names (mem_names declared) (isOf_iff.mp of_p)

/-- Of the declarations of a layer, those of a property are what the layer declares for it. -/
theorem filter_declarations (layer : Layer) (p : Property) :
    (declarations layer).filter (fun d => isOf p d.1) = declarationsOf layer p := by
  unfold declarations declarationsOf
  rw [List.filter_flatMap]
  simp only [filter_propertyDeclarations]
  exact layer.flatMap_entries p (propertyDeclarations layer p)

/-- Every declaration of a layer belongs to a property. -/
theorem exists_isOf (declared : d ∈ declarations layer) : ∃ p, isOf p d.1 = true := by
  obtain ⟨e, -, here⟩ := List.mem_flatMap.mp declared
  exact ⟨e.1, isOf_iff.mpr (mem_names here)⟩

/-! ## Many layers -/

/-- Declarations amount to the same exactly when they do for each property by itself. -/
theorem ofList_eq_iff {es fs : List Declaration} (he : ∀ d ∈ es, ∃ p, isOf p d.1 = true)
    (hf : ∀ d ∈ fs, ∃ p, isOf p d.1 = true) :
    Dict.ofList es = Dict.ofList fs ↔
      ∀ p, Dict.ofList (es.filter fun d => isOf p d.1) =
        Dict.ofList (fs.filter fun d => isOf p d.1) := by
  constructor
  · intro same p
    refine Dict.ext_get? fun name => ?_
    have here : (Dict.ofList es).get? name = (Dict.ofList fs).get? name := by rw [same]
    simp only [Dict.get?_ofList, ← List.filter_reverse, Dict.find?_filter] at here ⊢
    rw [here]
  · intro same
    refine Dict.ext_get? fun name => ?_
    by_cases owned : ∃ p, isOf p name = true
    · obtain ⟨p, own⟩ := owned
      have here : (Dict.ofList (es.filter fun d => isOf p d.1)).get? name =
          (Dict.ofList (fs.filter fun d => isOf p d.1)).get? name := by rw [same p]
      simp only [Dict.get?_ofList, ← List.filter_reverse, Dict.find?_filter, own, if_true] at here
      simp only [Dict.get?_ofList, here]
    · -- A name that belongs to no property is declared on neither side.
      have absent : ∀ {l : List Declaration}, (∀ d ∈ l, ∃ p, isOf p d.1 = true) →
          Dict.find? name l.reverse = none := fun hl =>
        Dict.find?_eq_none_iff.mpr fun v mem => owned (hl (name, v) (List.mem_reverse.mp mem))
      rw [Dict.get?_ofList, Dict.get?_ofList, absent he, absent hf]

/-! ## A layer over another -/

/-- What a layer declares for one property, by names. -/
def declaredOf (layer : Layer) (p : Property) : Dict String String :=
  Dict.ofList (declarationsOf layer p)

/-- What two layers declare for a property one after the other is what the upper one over the lower
one declares. A property without an upper value can fail this only as a border, whose colour the
upper layer may give. One with an upper value must not leave a name behind that only the lower value
declares: the upper value may be no declaration at all, a margin on one side, or a border that is
not dashed. -/
def Carried (lower upper : Layer) (p : Property) : Prop :=
  match upper.get? p with
  | none => declaredOf lower p = declaredOf (upper.atop lower) p
  | some _ => declaredOf upper p = declaredOf (upper.atop lower) p ∧
      ∀ name ∈ (declaredOf lower p).keys, name ∈ (declaredOf upper p).keys

/-- But for borders, what is declared depends on the value alone. -/
theorem propertyDeclarations_congr (plain : p ≠ .border) (layer layer' : Layer) (value : String) :
    propertyDeclarations layer p value = propertyDeclarations layer' p value := by
  cases p with
  | border => exact absurd rfl plain
  | _ => rfl

/-- The names of declarations depend on the value also for borders. -/
theorem map_fst_propertyDeclarations (layer layer' : Layer) (p : Property) (value : String) :
    (propertyDeclarations layer p value).map (·.1) =
      (propertyDeclarations layer' p value).map (·.1) := by
  by_cases plain : p = .border
  · subst plain
    simp only [propertyDeclarations, border]
    split
    · rfl
    · split
      · rfl
      · rfl
  · rw [propertyDeclarations_congr plain layer layer']

/-- A layer that gives the value declares the same names as the two layers together. -/
theorem mem_keys_declaredOf_atop {name : String} (set : upper.get? p = some value) :
    name ∈ (declaredOf (upper.atop lower) p).keys ↔ name ∈ (declaredOf upper p).keys := by
  unfold declaredOf declarationsOf
  rw [Dict.mem_keys_ofList, Dict.mem_keys_ofList, Layer.get?_atop, set, Option.some_or,
    Option.map_some, Option.map_some, Option.getD_some, Option.getD_some,
    map_fst_propertyDeclarations (upper.atop lower) upper]

/-- `Carried` says what it is for. -/
theorem ofList_append_eq_iff :
    Dict.ofList (declarationsOf lower p ++ declarationsOf upper p) =
      declaredOf (upper.atop lower) p ↔ Carried lower upper p := by
  unfold Carried
  split
  next unset =>
    have nothing : declarationsOf upper p = [] := by
      unfold declarationsOf
      rw [unset]
      rfl
    rw [nothing, List.append_nil]
    rfl
  next set =>
    have both (name : String) :
        (Dict.ofList (declarationsOf lower p ++ declarationsOf upper p)).get? name =
          ((declaredOf upper p).get? name).or ((declaredOf lower p).get? name) :=
      Dict.get?_ofList_append _ _ name
    constructor
    · intro same
      have kept : ∀ name ∈ (declaredOf lower p).keys, name ∈ (declaredOf upper p).keys := by
        intro name mem
        rw [← mem_keys_declaredOf_atop set, ← same, Dict.mem_keys_iff, both, Option.isSome_or,
          Bool.or_eq_true]
        exact .inr (Dict.mem_keys_iff _ |>.mp mem)
      refine ⟨Dict.ext_get? fun name => ?_, kept⟩
      rw [← same, both, Dict.get?_or_of_keys_subset kept]
    · rintro ⟨same, kept⟩
      refine Dict.ext_get? fun name => ?_
      rw [both, ← same, Dict.get?_or_of_keys_subset kept]

end PageStudio.Css
