import PageStudio.Proofs.Project.Starter
import PageStudio.Proofs.Site.Export

/-!
# Exports that are refused

An export is refused for what it reads: a configuration or a project that is not there or not in
form, and a page or a viewport that is not in them. All of this is looked for before anything is
done, so an export that is refused leaves no trace. One that is not refused makes the folder for
exports, and an export of a single page writes one file in it.

## Main statements

* `exportPlan_eq_error_iff`: why an export is refused.
* `export_refused_or_written`: what an export that is refused does, and one of a single page.
-/

namespace PageStudio

open Style Request

/-! ## Why an export is refused -/

/-- Why an export is refused, in the order in which it is found out. -/
inductive ExportRefusal (s : Surroundings) (r : ExportRequest) : CommandError → Prop
  /-- Something that has no text is in the place of the configuration. -/
  | unreadableConfig (here : s.look Config.fileName = .unreadable) : ExportRefusal s r .system
  | malformedConfig {text : String} {cause : ReadError} (here : s.look Config.fileName = .text text)
      (malformed : readText (fun v => ReadError.ofOption (Config.read v)) text = .error cause) :
      ExportRefusal s r .invalidConfig
  | noViewport {text : String} {c : Config} (here : s.look Config.fileName = .text text)
      (read : readText (fun v => ReadError.ofOption (Config.read v)) text = .ok c)
      (none : c.viewports = []) : ExportRefusal s r .noViewport
  /-- The file of the project is missing or has no text. -/
  | missingProject {c : Config} (config : Config.load s = .ok c)
      (missing : ∀ text, s.look r.project ≠ .text text) :
      ExportRefusal s r (.unreadableProject (s.shown r.project))
  | invalidProject {c : Config} {text : String} {cause : ReadError}
      (config : Config.load s = .ok c) (here : s.look r.project = .text text)
      (invalid : readText Project.read text = .error cause) :
      ExportRefusal s r (.invalidProject (s.shown r.project) cause)
  | unknownPage {c : Config} {p : Project} {id : String} (config : Config.load s = .ok c)
      (project : Project.load s r.project = .ok p) (asked : r.page = some id)
      (unknown : id ∉ p.document.pageIds) : ExportRefusal s r (.pageNotFound id)
  | unknownViewport {c : Config} {p : Project} {id : String} (config : Config.load s = .ok c)
      (project : Project.load s r.project = .ok p) (asked : r.page = some id)
      (page : id ∈ p.document.pageIds)
      (unknown : ∀ v ∈ c.viewports, v.name ≠ r.viewport.getD c.defaultViewport) :
      ExportRefusal s r (.unknownViewport c r.viewport)

variable {s : Surroundings} {r : ExportRequest} {c : Config} {p : Project} {id : String}
  {e : CommandError}

/-! ### What is read -/

theorem Config.load_eq_error_iff : Config.load s = .error e ↔
    (s.look Config.fileName = .unreadable ∧ e = .system) ∨
      ∃ text, s.look Config.fileName = .text text ∧ Config.ofText text = .error e := by
  unfold Config.load
  cases look : s.look Config.fileName with
  | missing => simp
  | unreadable => simp [eq_comm]
  | text text => simp

theorem Config.ofText_eq_error_iff {text : String} : Config.ofText text = .error e ↔
    (∃ cause, readText (fun v => ReadError.ofOption (Config.read v)) text = .error cause ∧
      e = .invalidConfig) ∨
      ∃ c, readText (fun v => ReadError.ofOption (Config.read v)) text = .ok c ∧
        c.viewports = [] ∧ e = .noViewport := by
  unfold Config.ofText
  cases read : readText (fun v => ReadError.ofOption (Config.read v)) text with
  | error cause => simp [eq_comm]
  | ok c =>
    cases viewports : c.viewports with
    | nil => simp [viewports, eq_comm]
    | cons v rest => simp [viewports]

theorem Project.load_eq_error_iff {path : String} : Project.load s path = .error e ↔
    ((∀ text, s.look path ≠ .text text) ∧ e = .unreadableProject (s.shown path)) ∨
      ∃ text cause, s.look path = .text text ∧ readText Project.read text = .error cause ∧
        e = .invalidProject (s.shown path) cause := by
  unfold Project.load
  cases look : s.look path with
  | missing => simp [eq_comm]
  | unreadable => simp [eq_comm]
  | text text =>
    cases read : readText Project.read text with
    | error cause => simp [read, Except.mapError, eq_comm]
    | ok p => simp [read, Except.mapError]

/-! ### What is asked for -/

theorem Config.viewport?_eq_none_iff {name : Option String} : c.viewport? name = none ↔
    ∀ v ∈ c.viewports, v.name ≠ name.getD c.defaultViewport := by
  rw [viewport?, Viewport.find?, List.find?_eq_none]
  simp only [beq_iff_eq]

/-- The file of a single page: the page is looked for first, then the viewport. -/
theorem exportFiles_of_page (asked : r.page = some id) : exportFiles r c p =
    match p.document.page? id, c.viewport? r.viewport with
    | none, _ => .error (.pageNotFound id)
    | some _, none => .error (.unknownViewport c r.viewport)
    | some page, some frame =>
      .ok (Dict.empty.insert (Site.fileOf p.document.pages id)
        (Site.standalonePage p.document p.theme p.settings frame c.viewports page)) := by
  cases found : p.document.page? id with
  | none => simp only [exportFiles, asked, found]
  | some page =>
    have name := Site.get?_fileNames (Document.exists_page?_iff.mp ⟨page, found⟩)
    cases framed : c.viewport? r.viewport with
    | none =>
      have viewport : c.viewport r.viewport = .error (.unknownViewport c r.viewport) := by
        rw [Config.viewport, framed]
      simp only [exportFiles, asked, found, viewport, bind, Except.bind]
    | some frame =>
      have viewport : c.viewport r.viewport = .ok frame := by
        rw [Config.viewport, framed]
      simp only [exportFiles, asked, found, viewport, name, bind, Except.bind, pure, Except.pure]

/-- All files of a project are there without a page or a viewport that is asked for. -/
theorem exportFiles_eq_error_iff : exportFiles r c p = .error e ↔
    ∃ id, r.page = some id ∧
      ((id ∉ p.document.pageIds ∧ e = .pageNotFound id) ∨
        (id ∈ p.document.pageIds ∧
          (∀ v ∈ c.viewports, v.name ≠ r.viewport.getD c.defaultViewport) ∧
          e = .unknownViewport c r.viewport)) := by
  cases asked : r.page with
  | none => simp [exportFiles, asked, pure, Except.pure]
  | some id =>
    rw [exportFiles_of_page asked]
    simp only [Option.some.injEq, exists_eq_left']
    rw [← Document.exists_page?_iff, ← Config.viewport?_eq_none_iff]
    cases p.document.page? id with
    | none => simp [eq_comm]
    | some page =>
      cases c.viewport? r.viewport with
      | none => simp [eq_comm]
      | some frame => simp

/-- An export is refused where the first of its three stages fails that fails. -/
theorem exportPlan_eq_error_iff_stage : exportPlan s r = .error e ↔ Config.load s = .error e ∨
    ∃ c, Config.load s = .ok c ∧ (Project.load s r.project = .error e ∨
      ∃ p, Project.load s r.project = .ok p ∧ exportFiles r c p = .error e) := by
  cases config : Config.load s with
  | error cause => simp [exportPlan, config, bind, Except.bind]
  | ok c =>
    cases project : Project.load s r.project with
    | error cause => simp [exportPlan, config, project, bind, Except.bind]
    | ok p =>
      cases files : exportFiles r c p with
      | error cause => simp [exportPlan, config, project, files, bind, Except.bind]
      | ok files' =>
        cases output : r.toOutput <;>
          simp [exportPlan, config, project, files, output, bind, Except.bind, pure, Except.pure]

/-- An export is refused exactly for one of these reasons, the one that is found out first. -/
theorem exportPlan_eq_error_iff : exportPlan s r = .error e ↔ ExportRefusal s r e := by
  rw [exportPlan_eq_error_iff_stage]
  constructor
  · rintro (config | ⟨c, config, project | ⟨p, project, files⟩⟩)
    · rcases Config.load_eq_error_iff.mp config with ⟨here, rfl⟩ | ⟨text, here, wrong⟩
      · exact .unreadableConfig here
      rcases Config.ofText_eq_error_iff.mp wrong with ⟨cause, read, rfl⟩ | ⟨c, read, none, rfl⟩
      · exact .malformedConfig here read
      · exact .noViewport here read none
    · rcases Project.load_eq_error_iff.mp project with
        ⟨missing, rfl⟩ | ⟨text, cause, here, read, rfl⟩
      · exact .missingProject config missing
      · exact .invalidProject config here read
    · obtain ⟨id, asked, ⟨unknown, rfl⟩ | ⟨page, unknown, rfl⟩⟩ :=
        exportFiles_eq_error_iff.mp files
      · exact .unknownPage config project asked unknown
      · exact .unknownViewport config project asked page unknown
  · intro refusal
    cases refusal with
    | unreadableConfig here => exact .inl (Config.load_eq_error_iff.mpr (.inl ⟨here, rfl⟩))
    | malformedConfig here malformed =>
      have wrong := Config.ofText_eq_error_iff.mpr (.inl ⟨_, malformed, rfl⟩)
      exact .inl (Config.load_eq_error_iff.mpr (.inr ⟨_, here, wrong⟩))
    | noViewport here read none =>
      have wrong := Config.ofText_eq_error_iff.mpr (.inr ⟨_, read, none, rfl⟩)
      exact .inl (Config.load_eq_error_iff.mpr (.inr ⟨_, here, wrong⟩))
    | missingProject config missing =>
      exact .inr ⟨_, config, .inl (Project.load_eq_error_iff.mpr (.inl ⟨missing, rfl⟩))⟩
    | invalidProject config here invalid =>
      have wrong := Project.load_eq_error_iff.mpr (.inr ⟨_, _, here, invalid, rfl⟩)
      exact .inr ⟨_, config, .inl wrong⟩
    | @unknownPage c p id config project asked unknown =>
      have files := (exportFiles_eq_error_iff (c := c)).mpr ⟨id, asked, .inl ⟨unknown, rfl⟩⟩
      exact .inr ⟨_, config, .inr ⟨_, project, files⟩⟩
    | unknownViewport config project asked page unknown =>
      have files := exportFiles_eq_error_iff.mpr ⟨_, asked, .inr ⟨page, unknown, rfl⟩⟩
      exact .inr ⟨_, config, .inr ⟨_, project, files⟩⟩

/-! ## A single page -/

/-- An export of a single page, once what it needs has been read and found. -/
structure PageExport (s : Surroundings) (r : ExportRequest) (id : String) where
  config : Config
  project : Project
  page : Page
  frame : Viewport
  configured : Config.load s = .ok config
  opened : Project.load s r.project = .ok project
  found : project.document.page? id = some page
  framed : config.viewport? r.viewport = some frame

/-- The file that an action writes: its path and its text. -/
def Action.written? : Action → Option (String × String)
  | write path text => some (path, text)
  | _ => none

namespace PageExport

variable (x : PageExport s r id)

/-- The folder for exports. -/
def outDir : String := r.outDir.getD x.config.outDir

/-- The name that the page has among the files of the whole project. -/
def name : String := Site.fileOf x.project.document.pages id

/-- The page standing alone. -/
def text : String :=
  Site.standalonePage x.project.document x.project.theme x.project.settings x.frame
    x.config.viewports x.page

theorem id_mem : id ∈ x.project.document.pageIds :=
  Document.exists_page?_iff.mp ⟨x.page, x.found⟩

theorem fileNames_eq : (Site.fileNames x.project.document.pages).get? id = some x.name :=
  Site.get?_fileNames x.id_mem

/-- The whole project has the page under the same name. -/
theorem projectFiles_eq :
    (Site.projectFiles x.project.document x.project.theme x.project.settings
      x.config.viewports).get? x.name = some (Site.projectPage x.project.document x.project.settings
        (Site.fileNames x.project.document.pages) x.page) := by
  obtain ⟨mem, named⟩ := Document.of_page?_eq_some x.found
  have distinct := (Project.valid_of_load x.opened).pageIds_nodup
  have file := Site.get?_projectFiles distinct mem x.project.theme x.project.settings
    x.config.viewports
  rw [named] at file
  exact file

/-- What an export of a page does: it makes the folder for exports and writes the file, and all else
is printed. -/
theorem exists_exportPlan_eq (asked : r.page = some id) (written : r.toOutput = false) :
    ∃ (first : String) (last : List String), exportPlan s r = .ok
      (printLine first :: .makeFolder x.outDir ::
        .write (Path.join x.outDir x.name) x.text :: last.map printLine) := by
  have files : exportFiles r x.config x.project = .ok (Dict.empty.insert x.name x.text) := by
    rw [exportFiles_of_page asked, x.found, x.framed]
    rfl
  obtain ⟨first, last, planned⟩ :=
    Folder.exists_exportPlan_eq x.configured x.opened files written
  refine ⟨first, ("  ✓ " ++ s.shown (Path.join x.outDir x.name)) :: last, planned.trans ?_⟩
  rfl

end PageExport

/-- An export of a page that is not refused has found all that it needs. -/
theorem nonempty_pageExport {actions : List Action} (asked : r.page = some id)
    (planned : exportPlan s r = .ok actions) : Nonempty (PageExport s r id) := by
  have goes : ∀ e, exportPlan s r ≠ .error e := by
    rw [planned]
    exact nofun
  cases config : Config.load s with
  | error cause => exact absurd (exportPlan_eq_error_iff_stage.mpr (.inl config)) (goes cause)
  | ok c =>
    cases project : Project.load s r.project with
    | error cause =>
      exact absurd (exportPlan_eq_error_iff_stage.mpr (.inr ⟨c, config, .inl project⟩)) (goes cause)
    | ok p =>
      have files : ∀ e, exportFiles r c p ≠ .error e := fun e failed =>
        goes e (exportPlan_eq_error_iff_stage.mpr (.inr ⟨c, config, .inr ⟨p, project, failed⟩⟩))
      rw [exportFiles_of_page asked] at files
      cases found : p.document.page? id with
      | none =>
        rw [found] at files
        exact absurd rfl (files _)
      | some page =>
        cases framed : c.viewport? r.viewport with
        | none =>
          rw [found, framed] at files
          exact absurd rfl (files _)
        | some frame => exact ⟨⟨c, p, page, frame, config, project, found, framed⟩⟩

/-- Of one folder another is made with one file more, which has a name in a folder for exports. All
other files are the same, and the file itself is missing only where the folder for exports is beside
the folder. -/
def WritesOne (f : Folder) (outDir name text : String) (g : Folder) : Prop :=
  ∃ made ps, f.makeFolder outDir = some made ∧ made.files = f.files ∧
    made.placeOf (Path.join outDir name) = some ps ∧ ps.getLast? = some name ∧
    made.hasFolder ps = false ∧
    g = if ps.head? = some ".." then made else made.withFile (Path.ofParts ps) text

/-- What leads through an export of a page has written its file. -/
theorem PageExport.writesOne (x : PageExport s r id) {f g : Folder} {first : String}
    {last : List String} (leads : f.Leads (printLine first :: .makeFolder x.outDir ::
      .write (Path.join x.outDir x.name) x.text :: last.map printLine) g) :
    WritesOne f x.outDir x.name x.text g := by
  obtain ⟨f', printed, leads⟩ := Folder.leads_cons_iff.mp leads
  cases Folder.leads_print_iff.mp printed
  obtain ⟨made, makes, leads⟩ := Folder.leads_cons_iff.mp leads
  obtain ⟨h, writes, leads⟩ := Folder.leads_cons_iff.mp leads
  have same : g = h := leads.unique (Folder.leads_printLines h last)
  have makes := Folder.leads_makeFolder_iff.mp makes
  obtain ⟨ps, place, free, result⟩ := Folder.exists_of_write (Folder.leads_write_iff.mp writes)
  -- The name of a page has no slash in it and is not one of those with a meaning of their own.
  have page : Site.IsPageFile x.name := Site.isPageFile_fileOf x.id_mem
  have slash : '/' ∉ x.name.toList := page.not_mem (by decide) (by decide)
  have other : x.name ∉ ["", ".", ".."] := by
    intro mem
    simp only [List.mem_cons, List.not_mem_nil, or_false] at mem
    rcases mem with same | same | same
    · exact page.ne (by decide) same
    · exact page.ne (by decide) same
    · exact page.ne (by decide) same
  exact ⟨made, ps, makes, Folder.files_makeFolder makes, place,
    Folder.getLast?_placeOf_join slash other place, free, same ▸ result⟩

/-- An export is refused exactly for what it does not find or cannot read, and then nothing is
printed and the folder is as it was. An export of a single page that is not refused and not printed
writes one file, under the name that the page has in the whole project. -/
theorem export_refused_or_written (s : Surroundings) (r : ExportRequest) :
    (∀ e, exportPlan s r = .error e ↔ ExportRefusal s r e) ∧
    (∀ id actions, r.page = some id → r.toOutput = false → exportPlan s r = .ok actions →
      ∃ x : PageExport s r id,
        (Site.fileNames x.project.document.pages).get? id = some x.name ∧
        (Site.projectFiles x.project.document x.project.theme x.project.settings
          x.config.viewports).get? x.name = some (Site.projectPage x.project.document
            x.project.settings (Site.fileNames x.project.document.pages) x.page) ∧
        actions.filterMap Action.written? = [(Path.join x.outDir x.name, x.text)]) ∧
    ∀ f : Folder, f.look = s.look →
      (∀ e, ExportRefusal s r e → f.command s.location (.publish r) = ⟨.error e, "", f⟩) ∧
      (∀ id, r.page = some id → r.toOutput = false →
        (f.command s.location (.publish r)).outcome = .ok () →
          ∃ x : PageExport s r id,
            WritesOne f x.outDir x.name x.text (f.command s.location (.publish r)).folder) := by
  refine ⟨fun e => exportPlan_eq_error_iff, fun id actions asked written planned => ?_,
    fun f same => ⟨fun e refusal => ?_, fun id asked written ended => ?_⟩⟩
  · obtain ⟨x⟩ := nonempty_pageExport asked planned
    obtain ⟨first, last, planned'⟩ := x.exists_exportPlan_eq asked written
    cases planned.symm.trans planned'
    have printed : (last.map printLine).filterMap Action.written? = [] :=
      List.filterMap_eq_nil_iff.mpr (List.forall_mem_map.mpr fun _ _ => rfl)
    exact ⟨x, x.fileNames_eq, x.projectFiles_eq, congrArg (_ :: ·) printed⟩
  · refine Folder.command_of_refused ?_
    rw [same]
    exact exportPlan_eq_error_iff.mpr refusal
  · obtain ⟨actions, planned, leads⟩ := Folder.exists_leads_of_command ended
    have planned : exportPlan s r = .ok actions := by
      rw [same] at planned
      exact planned
    obtain ⟨x⟩ := nonempty_pageExport asked planned
    obtain ⟨first, last, planned'⟩ := x.exists_exportPlan_eq asked written
    cases planned.symm.trans planned'
    exact ⟨x, x.writesOne leads⟩

namespace Project

/-- An export of the only page of a starter project, from a file of the folder. -/
def starterExport (file : String) : ExportRequest :=
  ⟨file, some (starterPage "Acme").id, none, none, false⟩

/-- In the folder of a new project, an export of its page writes the index, and one from a file that
is not there is refused. -/
theorem export_refused_or_written_newFolder :
    (newFolder "Acme").command "/" (.publish (starterExport "other.json")) =
        ⟨.error (.unreadableProject "/other.json"), "", newFolder "Acme"⟩ ∧
      ∃ text, WritesOne (newFolder "Acme") "dist" "index.html" text
        ((newFolder "Acme").command "/" (.publish (starterExport fileName))).folder := by
  let s : Surroundings := ⟨"/", (newFolder "Acme").look⟩
  obtain ⟨config, project⟩ := load_newFolder "Acme" "/"
  constructor
  · have plain : Path.Plain "other.json" := by decide
    have missing : (newFolder "Acme").look "other.json" = .missing := by
      refine Folder.look_plain_of_absent plain ?_ (hasFolder_newFolder "Acme" plain.not_dots [])
      rw [get?_newFolder, if_neg (by decide), if_neg (by decide)]
    have refusal :
        ExportRefusal s (starterExport "other.json") (.unreadableProject "/other.json") := by
      refine .missingProject config fun text => ?_
      show (newFolder "Acme").look "other.json" ≠ .text text
      rw [missing]
      exact nofun
    exact ((export_refused_or_written s _).2.2 (newFolder "Acme") rfl).1 _ refusal
  · have found : (starter "Acme").document.page? (starterPage "Acme").id =
        some (starterPage "Acme") := List.find?_cons_of_pos (beq_self_eq_true _)
    have index : Site.fileOf (starter "Acme").document.pages (starterPage "Acme").id =
        "index.html" := Site.fileOf_head (List.nodup_singleton _)
    obtain ⟨text, files⟩ : ∃ text, exportFiles (starterExport fileName) {} (starter "Acme") =
        .ok (Dict.empty.insert "index.html" text) := by
      rw [exportFiles_of_page rfl, found, index]
      exact ⟨_, rfl⟩
    have plain : Path.Plain "index.html" := by decide
    have ended := (Folder.command_publish config project files rfl plain_dist
      (makeAt_newFolder "Acme") (fun file mem => List.mem_singleton.mp mem ▸ plain)
      (fun file _ => hasFolder_newFolder "Acme" plain_dist.not_dots [file])).1
    obtain ⟨x, writes⟩ :=
      ((export_refused_or_written s _).2.2 (newFolder "Acme") rfl).2 _ rfl rfl ended
    have defaults : x.config = {} := Except.ok.inj (x.configured.symm.trans config)
    have starts : x.project = starter "Acme" := Except.ok.inj (x.opened.symm.trans project)
    have outDir : x.outDir = "dist" := by
      rw [PageExport.outDir, defaults]
      rfl
    have name : x.name = "index.html" := by
      rw [PageExport.name, starts, index]
    rw [outDir, name] at writes
    exact ⟨x.text, writes⟩

end Project

end PageStudio
