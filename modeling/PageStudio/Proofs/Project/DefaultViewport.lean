import PageStudio.Proofs.Project.Exports

/-!
# The viewport where none is asked for

A configuration file may leave out each of its parts, and each has a default of its own. So the
default viewport need not be one of the viewports that there are: whether it is one is looked at
when a command needs it. A command that names no viewport is refused for one exactly where it needs
one and the default viewport is not there.

## Main statements

* `Config.load_eq_ok_iff`: a configuration is what its file says, with defaults for the rest.
* `Config.viewport_of_load`: when there is a viewport although none is asked for.
* `Config.exists_unlisted_viewport`: a configuration whose default viewport is not listed.
-/

namespace PageStudio

open Json Style Request

/-! ## Parts that may be missing -/

/-- A field as it stands in a record: read where it is there, none where it is missing. -/
def Json.Fields.given? {α : Type} (fields : Fields) (name : String) (read : Reader α) :
    Option (Option α) :=
  match fields.get? name with
  | none => some none
  | some v => (read v).map some

/-- A default comes in where a field is missing. -/
theorem Json.Fields.withDefault_eq_map {α : Type} (fields : Fields) (name : String)
    (read : Reader α) (default : α) :
    fields.withDefault name read default = (fields.given? name read).map (·.getD default) := by
  unfold withDefault given?
  cases fields.get? name with
  | none => rfl
  | some v =>
    show read v = ((read v).map some).map _
    rw [Option.map_map]
    exact Option.map_id_apply.symm

namespace Config

/-- What a configuration file says. Each part may be missing. -/
structure Given where
  outDir : Option String := none
  viewports : Option (List Viewport) := none
  defaultViewport : Option String := none

namespace Given

/-- The configuration of a file: what it says, and the defaults for the rest. -/
def filled (g : Given) : Config where
  outDir := g.outDir.getD ({} : Config).outDir
  viewports := g.viewports.getD ({} : Config).viewports
  defaultViewport := g.defaultViewport.getD ({} : Config).defaultViewport

/-- Reads what a configuration says. -/
def read (v : Source) : Option Given := do
  let fields ← Fields.read? ["outDir", "viewports", "defaultViewport"] v
  let outDir ← fields.given? "outDir" Reader.text
  let viewports ← fields.given? "viewports" (Reader.list Viewport.read)
  let defaultViewport ← fields.given? "defaultViewport" Reader.text
  return { outDir, viewports, defaultViewport }

/-- The file of a folder says this, and nothing where there is no file. -/
def StatedIn (s : Surroundings) (g : Given) : Prop :=
  s.look fileName = .missing ∧ g = {} ∨
    ∃ text, s.look fileName = .text text ∧
      readText (fun v => ReadError.ofOption (read v)) text = .ok g

/-- There is a default viewport: the file names one, or has one of the name that is the default. -/
def Decided (g : Given) : Prop :=
  g.defaultViewport = none → ∃ v ∈ g.filled.viewports, v.name = Viewport.referenceName

/-- The default viewport that the file names, if it names one, is a viewport that there is. -/
def NamesListed (g : Given) : Prop :=
  ∀ name ∈ g.defaultViewport, ∃ v ∈ g.filled.viewports, v.name = name

end Given

/-! ## What is loaded -/

/-- A configuration is read by filling in what it does not say. -/
theorem read_eq_map (v : Source) : Config.read v = (Given.read v).map Given.filled := by
  unfold Config.read Given.read
  simp only [Fields.withDefault_eq_map]
  cases Fields.read? ["outDir", "viewports", "defaultViewport"] v with
  | none => rfl
  | some fields =>
    simp only [Option.bind_eq_bind, Option.bind_some]
    generalize fields.given? "outDir" Reader.text = outDir
    generalize fields.given? "viewports" (Reader.list Viewport.read) = viewports
    generalize fields.given? "defaultViewport" Reader.text = defaultViewport
    cases outDir with
    | none => rfl
    | some outDir =>
      cases viewports with
      | none => rfl
      | some viewports => cases defaultViewport <;> rfl

theorem readText_eq_ok_iff {text : String} {c : Config} :
    readText (fun v => ReadError.ofOption (Config.read v)) text = .ok c ↔
      ∃ g, readText (fun v => ReadError.ofOption (Given.read v)) text = .ok g ∧ c = g.filled := by
  unfold readText
  simp only [read_eq_map]
  cases Given.read (Source.parse text).1 with
  | none => simp [ReadError.ofOption, bind, Except.bind]
  | some g =>
    simp only [ReadError.ofOption, Option.map_some, bind, Except.bind]
    split
    next => simp
    next => simp [eq_comm]

theorem ofText_eq_ok_iff {text : String} {c : Config} : ofText text = .ok c ↔
    readText (fun v => ReadError.ofOption (Config.read v)) text = .ok c ∧ c.viewports ≠ [] := by
  unfold ofText
  cases readText (fun v => ReadError.ofOption (Config.read v)) text with
  | error cause => simp
  | ok d =>
    by_cases none : d.viewports = []
    · simp only [none, List.isEmpty_nil, if_true, Except.ok.injEq]
      exact iff_of_false nofun fun ⟨same, some_viewport⟩ => some_viewport (same ▸ none)
    · simp only [List.isEmpty_iff, none, if_false, Except.ok.injEq]
      exact ⟨fun same => ⟨same, same ▸ none⟩, And.left⟩

variable {s : Surroundings} {c : Config}

/-- What is loaded is what the file says, with defaults for the rest, and it has a viewport. -/
theorem load_eq_ok_iff :
    load s = .ok c ↔ ∃ g : Given, g.StatedIn s ∧ c = g.filled ∧ c.viewports ≠ [] := by
  unfold load Given.StatedIn
  cases look : s.look fileName with
  | missing =>
    have listed : ({} : Config).viewports ≠ [] := List.cons_ne_nil _ _
    simp only [true_and, reduceCtorEq, false_and, exists_false, or_false, exists_eq_left,
      Except.ok.injEq]
    exact ⟨fun same => ⟨same.symm, same ▸ listed⟩, fun same => same.1.symm⟩
  | unreadable => simp
  | text text =>
    simp only [ofText_eq_ok_iff, readText_eq_ok_iff, reduceCtorEq, false_and, false_or,
      FileState.text.injEq, exists_eq_left', ← exists_and_right, and_assoc]

/-! ## The default viewport -/

theorem viewport_eq_ok_iff {name : Option String} {v : Viewport} :
    c.viewport name = .ok v ↔ c.viewport? name = some v := by
  unfold viewport
  cases c.viewport? name <;> simp

theorem exists_viewport?_iff {name : Option String} :
    (∃ v, c.viewport? name = some v) ↔ ∃ v ∈ c.viewports, v.name = name.getD c.defaultViewport := by
  rw [← Option.isSome_iff_exists, ← not_iff_not, Option.not_isSome_iff_eq_none,
    viewport?_eq_none_iff]
  simp only [not_exists, not_and, ne_eq]

/-- Only a viewport of the list is found, under its name. -/
theorem of_viewport?_eq_some {name : Option String} {v : Viewport}
    (found : c.viewport? name = some v) :
    v ∈ c.viewports ∧ v.name = name.getD c.defaultViewport :=
  ⟨List.mem_of_find?_eq_some found, eq_of_beq
    (List.find?_some (p := fun v : Viewport => v.name == name.getD c.defaultViewport) found)⟩

/-- Where there is a default viewport, it is found unless the file names one that there is not. -/
theorem Given.exists_viewport?_iff {g : Given} (decided : g.Decided) :
    (∃ v, g.filled.viewport? none = some v) ↔ g.NamesListed := by
  rw [Config.exists_viewport?_iff]
  unfold NamesListed
  cases named : g.defaultViewport with
  | none =>
    have default :
        (none : Option String).getD g.filled.defaultViewport = Viewport.referenceName := by
      show g.defaultViewport.getD Viewport.referenceName = _
      rw [named, Option.getD_none]
    rw [default]
    exact iff_of_true (decided named) nofun
  | some name =>
    have own : (none : Option String).getD g.filled.defaultViewport = name := by
      show g.defaultViewport.getD Viewport.referenceName = _
      rw [named, Option.getD_some]
    rw [own]
    exact ⟨fun listed other same => Option.mem_some.mp same ▸ listed,
      fun listed => listed name (Option.mem_some_self name)⟩

/-! ## Commands that need a viewport -/

/-- An export asks for a page that the project has. -/
def FindsPage (s : Surroundings) (r : ExportRequest) : Prop :=
  ∃ p id, Project.load s r.project = .ok p ∧ r.page = some id ∧ id ∈ p.document.pageIds

/-- The styles are asked for of a node that the project has. -/
def FindsNode (s : Surroundings) (r : StylesRequest) : Prop :=
  ∃ p n, Project.load s r.project = .ok p ∧ findNode? p.document r.node = some n

/-- An export is refused for a viewport where it has found its page and not the viewport. -/
theorem exportPlan_unknownViewport_iff (loaded : load s = .ok c) {r : ExportRequest} :
    (∃ c' name, exportPlan s r = .error (.unknownViewport c' name)) ↔
      c.viewport? r.viewport = none ∧ FindsPage s r := by
  simp only [exportPlan_eq_error_iff]
  constructor
  · rintro ⟨c', name, refusal⟩
    cases refusal with
    | unknownViewport config project asked page unknown =>
      cases loaded.symm.trans config
      exact ⟨viewport?_eq_none_iff.mpr unknown, _, _, project, asked, page⟩
  · rintro ⟨unknown, p, id, project, asked, page⟩
    exact ⟨c, r.viewport,
      .unknownViewport loaded project asked page (viewport?_eq_none_iff.mp unknown)⟩

/-- So are the styles of a node. -/
theorem stylesPlan_unknownViewport_iff (loaded : load s = .ok c) {r : StylesRequest} :
    (∃ c' name, stylesPlan s r = .error (.unknownViewport c' name)) ↔
      c.viewport? r.viewport = none ∧ FindsNode s r := by
  unfold FindsNode
  cases project : Project.load s r.project with
  | error cause =>
    have other : ∀ c' name, cause ≠ .unknownViewport c' name := by
      rintro c' name rfl
      rcases Project.load_eq_error_iff.mp project with ⟨-, same⟩ | ⟨_, _, -, -, same⟩
      · cases same
      · cases same
    simpa [stylesPlan, loaded, project, bind, Except.bind] using other
  | ok p =>
    cases found : findNode? p.document r.node with
    | none => simp [stylesPlan, loaded, project, found, bind, Except.bind]
    | some n =>
      cases framed : c.viewport? r.viewport with
      | none => simp [stylesPlan, loaded, project, found, viewport, framed, bind, Except.bind]
      | some frame =>
        simp [stylesPlan, loaded, project, found, viewport, framed, bind, Except.bind, pure,
          Except.pure]

/-- A configuration that is loaded is what its file says, with defaults for the rest. Where none is
asked for, the viewport is one that it lists under the name of its default viewport. Where there is
a default viewport, there is none only if the file itself names one that is not listed. Commands
that name no viewport then are refused for one, once they have found their page or node. -/
theorem viewport_of_load (loaded : load s = .ok c) :
    ∃ g : Given, g.StatedIn s ∧ c = g.filled ∧ c.viewports ≠ [] ∧
      (∀ v, c.viewport none = .ok v → v ∈ c.viewports ∧ v.name = c.defaultViewport) ∧
      (g.Decided →
        ((∃ v, c.viewport none = .ok v) ↔ g.NamesListed) ∧
        (∀ r : ExportRequest, r.viewport = none →
          ((∃ c' name, exportPlan s r = .error (.unknownViewport c' name)) ↔
            ¬g.NamesListed ∧ FindsPage s r)) ∧
        ∀ r : StylesRequest, r.viewport = none →
          ((∃ c' name, stylesPlan s r = .error (.unknownViewport c' name)) ↔
            ¬g.NamesListed ∧ FindsNode s r)) := by
  obtain ⟨g, stated, rfl, listed⟩ := load_eq_ok_iff.mp loaded
  refine ⟨g, stated, rfl, listed, fun v found => ?_, fun decided => ?_⟩
  · exact of_viewport?_eq_some (viewport_eq_ok_iff.mp found)
  · have found := Given.exists_viewport?_iff decided
    have absent : g.filled.viewport? none = none ↔ ¬g.NamesListed := by
      rw [← found, ← Option.isSome_iff_exists, Option.not_isSome_iff_eq_none]
    refine ⟨?_, fun r unasked => ?_, fun r unasked => ?_⟩
    · simp only [viewport_eq_ok_iff]
      exact found
    · rw [exportPlan_unknownViewport_iff loaded, unasked, absent]
    · rw [stylesPlan_unknownViewport_iff loaded, unasked, absent]

/-! ### Default viewports that are named -/

/-- The folder of a starter project with another configuration in it. -/
def configured (c : Config) : Surroundings where
  location := "/"
  look path :=
    if path = fileName then .text c.text
    else if path = Project.fileName then .text (Project.starter "Acme").text
    else .missing

theorem load_configured (some_viewport : c.viewports ≠ []) : load (configured c) = .ok c := by
  have here : (configured c).look fileName = .text c.text := by
    simp only [configured, if_true]
  simp only [load, here]
  exact ofText_text some_viewport

/-- An export of the only page of the project finds that page. -/
theorem findsPage_configured (c : Config) :
    FindsPage (configured c) (Project.starterExport Project.fileName) := by
  have project : (configured c).look Project.fileName = .text (Project.starter "Acme").text := by
    have other : Project.fileName ≠ fileName := by decide
    simp only [configured, other, if_false, if_true]
  have opened := (Project.load_text (Project.writable_starter "Acme") project).trans
    (if_pos (Project.height_starter_le "Acme"))
  exact ⟨_, _, opened, rfl, List.mem_cons_self⟩

/-- A default viewport that is not the one of the defaults was named in the file. -/
theorem Given.defaultViewport_of_ne {g : Given}
    (other : g.filled.defaultViewport ≠ Viewport.referenceName) :
    g.defaultViewport = some g.filled.defaultViewport := by
  unfold filled at other ⊢
  cases named : g.defaultViewport with
  | none => rw [named] at other; exact absurd rfl other
  | some name => rfl

/-- A file that names the second of its viewports: that one is found, and an export that names none
is not refused for its viewport. -/
theorem viewport_of_load_tablet :
    (∃ v, ({ defaultViewport := "Tablet" } : Config).viewport none = .ok v ∧ v.name = "Tablet") ∧
      ¬∃ c' name, exportPlan (configured { defaultViewport := "Tablet" })
        (Project.starterExport Project.fileName) = .error (.unknownViewport c' name) := by
  obtain ⟨g, -, filled, -, listed, commands⟩ :=
    viewport_of_load (load_configured (c := { defaultViewport := "Tablet" }) (List.cons_ne_nil _ _))
  have own : g.defaultViewport = some "Tablet" := by
    have tablet : g.filled.defaultViewport = "Tablet" := (congrArg defaultViewport filled).symm
    have other : g.filled.defaultViewport ≠ Viewport.referenceName := by rw [tablet]; decide
    rw [Given.defaultViewport_of_ne other, tablet]
  have names : g.NamesListed := by
    intro name named
    cases own.symm.trans named
    rw [← filled]
    decide
  obtain ⟨found, exports, -⟩ := commands fun missing => by rw [own] at missing; cases missing
  obtain ⟨v, framed⟩ := found.mpr names
  exact ⟨⟨v, framed, (listed v framed).2⟩,
    fun refused => ((exports _ rfl).mp refused).1 names⟩

/-- A file that names a viewport that there is not is loaded. Then there is no viewport where none
is asked for, and an export that names none is refused for it. -/
theorem exists_unlisted_viewport : ∃ s c, load s = .ok c ∧ (∀ v, c.viewport none ≠ .ok v) ∧
    ∃ r : ExportRequest, r.viewport = none ∧
      ∃ c' name, exportPlan s r = .error (.unknownViewport c' name) := by
  let c : Config := { defaultViewport := "Watch" }
  have loaded : load (configured c) = .ok c := load_configured (List.cons_ne_nil _ _)
  have unknown : c.viewport? none = none := by decide
  refine ⟨configured c, c, loaded, fun v found => ?_,
    Project.starterExport Project.fileName, rfl, ?_⟩
  · cases unknown.symm.trans (viewport_eq_ok_iff.mp found)
  · exact (exportPlan_unknownViewport_iff loaded).mpr ⟨unknown, findsPage_configured c⟩

end Config

end PageStudio
