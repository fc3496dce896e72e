import PageStudio.Proofs.Project.Commands
import PageStudio.Proofs.Project.Reopening
import PageStudio.Proofs.Site.Export

/-!
# From a new project to its site

A new project is two files. Both are read back as what they were written for, whatever the site is
called, and an export of the project puts its site beside them.

## Main statements

* `Project.valid_starter`, `Project.writable_starter`: a starter project is a sound one.
* `Project.starter_published`: what `init` and a plain `export` leave in an empty folder.
-/

namespace PageStudio

open Json Style

namespace Project

/-! ## Starter projects -/

/-- The only page of a starter project. -/
def starterPage (name : String) : Page := Page.titled ((IdSource.ofText name).pageId "Home").1 "Home"

/-- The navigation bar and the heading. -/
def starterLayout (name : String) : List Node :=
  let ids := ((IdSource.ofText name).pageId "Home").2
  let (bar, ids) := ids.newNode .navbar
  [bar, (headingPatch name).apply (ids.newNode .text).1]

theorem starter_document (name : String) : (starter name).document =
    ⟨[starterPage name], Dict.empty.insert (starterPage name).id (starterLayout name),
      (starterPage name).id⟩ := rfl

/-- The nodes have the ids that come behind that of the page. -/
theorem issues_starterLayout (name : String) :
    ∃ ids, ((IdSource.ofText name).pageId "Home").2.Issues
      (Node.forestIds (starterLayout name)) ids :=
  ⟨_, .cons Kind.navbar.slug (.single _ Kind.text.slug)⟩

theorem valid_starter (name : String) : (starter name).document.Valid := by
  have filled : (Document.ofPage (starterPage name)).withLayout (starterPage name).id
      (starterLayout name) = .ok (starter name).document := by
    refine Document.withLayout_ok_iff.mpr ⟨List.mem_cons_self, ?_⟩
    have layouts : (Dict.empty.insert (starterPage name).id []).insert (starterPage name).id
        (starterLayout name) = Dict.empty.insert (starterPage name).id (starterLayout name) := by
      refine Dict.ext_get? fun id => ?_
      simp only [Dict.get?_insert]
      split
      next => rfl
      next => rfl
    rw [starter_document, ← layouts]
    rfl
  obtain ⟨ids, issued⟩ := issues_starterLayout name
  refine (Document.valid_ofPage (starterPage name)).withLayout filled issued.nodup fun i _ old => ?_
  rw [Document.nodeIds_ofPage] at old
  cases old

theorem writable_heading (id name : String) :
    ((headingPatch name).apply (.fresh id .text)).All Element.Writable := by
  refine Node.all_mk_iff.mpr ⟨⟨fun x has => ?_, fun l has => ?_⟩, Node.forestAll_nil⟩
  · cases has
  · cases has

theorem writable_starter (name : String) : (starter name).Writable := by
  refine ⟨valid_starter name, Document.all_iff.mpr fun entry mem => ?_⟩
  rw [List.mem_singleton.mp mem]
  exact Node.forestAll_cons_iff.mpr
    ⟨Node.writable_fresh _ .navbar, Node.forestAll_singleton (writable_heading _ name)⟩

theorem height_starter_le (name : String) : (starter name).toJson.height ≤ Source.textLevels :=
  Nat.le_of_ble_eq_true rfl

/-! ## The site of a starter project -/

/-- The files of the site of a starter project. -/
def siteFiles : List String := ["styles.css", "script.js", "index.html"]

/-- What the site of a starter project is made of, by the names of its files. -/
def starterSite (name : String) : Dict String String :=
  let p := starter name
  Site.projectFiles p.document p.theme p.settings Viewport.builtIn

theorem mem_keys_starterSite {name file : String} :
    file ∈ (starterSite name).keys ↔ file ∈ siteFiles := by
  have first : Site.fileOf [starterPage name] (starterPage name).id = "index.html" :=
    Site.fileOf_head (List.nodup_singleton _)
  rw [starterSite, Site.projectFiles_eq, Dict.mem_keys_ofList, Site.map_fst_projectEntries,
    starter_document, List.map_singleton, first]
  rfl

theorem plain_siteFiles : ∀ file ∈ siteFiles, Path.Plain file := by decide

/-! ## The folder of a new project -/

/-- An empty folder. -/
def emptyFolder : Folder := ⟨∅, []⟩

theorem hasFolder_emptyFolder {first : String} (other : first ≠ "..") (rest : List String) :
    emptyFolder.hasFolder (first :: rest) = false := by
  have inside : (first == "..") = false := beq_eq_false_iff_ne.mpr other
  simp only [Folder.hasFolder, Folder.isAround, List.all_cons, inside, Bool.false_and,
    Bool.false_or]
  rfl

theorem look_emptyFolder {file : String} (plain : Path.Plain file) :
    emptyFolder.look file = .missing :=
  Folder.look_plain_of_absent plain rfl (hasFolder_emptyFolder plain.not_dots [])

/-- The folder with the two files of a new project. -/
def newFolder (name : String) : Folder := emptyFolder.withProject name

/-- A new project is put into an empty folder without force. -/
theorem command_emptyFolder (name location : String) (force : Bool) :
    let made := emptyFolder.command location (.create ⟨name, force⟩)
    made.outcome = .ok () ∧ made.folder = newFolder name := by
  obtain ⟨config, project⟩ := Folder.plain_fileNames
  exact Folder.command_create (.inl ⟨look_emptyFolder config, look_emptyFolder project⟩)
    (hasFolder_emptyFolder config.not_dots []) (hasFolder_emptyFolder project.not_dots [])

theorem hasFolder_newFolder (name : String) {first : String} (other : first ≠ "..")
    (rest : List String) : (newFolder name).hasFolder (first :: rest) = false := by
  rw [newFolder, Folder.hasFolder_withProject _ _ (List.cons_ne_nil _ _)]
  exact hasFolder_emptyFolder other rest

theorem get?_newFolder (name path : String) : (newFolder name).files.get? path =
    if path = Project.fileName then some (starter name).text
    else if path = Config.fileName then some (Config.text {}) else none := by
  rw [newFolder, Folder.files_withProject, Dict.get?_insert, Dict.get?_insert]
  rfl

/-- The files are read back. -/
theorem load_newFolder (name location : String) :
    Config.load ⟨location, (newFolder name).look⟩ = .ok {} ∧
      Project.load ⟨location, (newFolder name).look⟩ Project.fileName = .ok (starter name) := by
  have config : (newFolder name).look Config.fileName = .text (Config.text {}) := by
    refine Folder.look_plain Folder.plain_fileNames.1 ?_
    rw [get?_newFolder, if_neg (by decide), if_pos rfl]
  have project : (newFolder name).look Project.fileName = .text (starter name).text := by
    refine Folder.look_plain Folder.plain_fileNames.2 ?_
    rw [get?_newFolder, if_pos rfl]
  constructor
  · simp only [Config.load, config]
    exact Config.ofText_text (List.cons_ne_nil _ _)
  · exact (load_text (writable_starter name) project).trans (if_pos (height_starter_le name))

theorem mem_keys_newFolder {name path : String} :
    path ∈ (newFolder name).files.keys ↔ path ∈ [Config.fileName, Project.fileName] := by
  rw [Dict.mem_keys_iff, get?_newFolder, List.mem_cons, List.mem_singleton]
  split
  next same => exact ⟨fun _ => .inr same, fun _ => rfl⟩
  next other =>
    split
    next same => exact ⟨fun _ => .inl same, fun _ => rfl⟩
    next differs => exact ⟨nofun, fun either => (either.elim differs other).elim⟩

/-! ## The folder behind an export -/

theorem plain_dist : Path.Plain "dist" := by decide

/-- The folder of a new project with the files of its site. -/
def publishedFolder (name : String) : Folder :=
  Folder.withFiles { newFolder name with folders := ["dist"] } "dist" (starterSite name).entries

theorem plain_of_mem_starterSite {name : String} :
    ∀ x ∈ (starterSite name).entries, Path.Plain x.1 := fun _ mem =>
  plain_siteFiles _ (mem_keys_starterSite.mp (List.mem_map_of_mem mem))

theorem mem_keys_publishedFolder {name path : String} :
    path ∈ (publishedFolder name).files.keys ↔
      path ∈ (newFolder name).files.keys ∨ ∃ file ∈ siteFiles, path = Path.join "dist" file := by
  refine Folder.mem_keys_withFiles.trans (or_congr_right ?_)
  constructor
  · rintro ⟨x, entry, same⟩
    exact ⟨x.1, mem_keys_starterSite.mp (List.mem_map_of_mem entry), same⟩
  · rintro ⟨file, mem, same⟩
    obtain ⟨x, entry, rfl⟩ := List.mem_map.mp (mem_keys_starterSite.mpr mem)
    exact ⟨x, entry, same⟩

/-- The texts of the site are found under the names of its files. -/
theorem exists_get?_publishedFolder (name : String) {file : String} (mem : file ∈ siteFiles) :
    ∃ text, (starterSite name).get? file = some text ∧
      (publishedFolder name).files.get? (Path.join "dist" file) = some text := by
  obtain ⟨x, entry, rfl⟩ := List.mem_map.mp (mem_keys_starterSite.mpr mem)
  exact ⟨x.2, (Dict.get?_eq_some_iff _).mpr entry, Folder.get?_withFiles plain_dist
    plain_of_mem_starterSite (Dict.keys_nodup _) entry⟩

/-- The files of the project are as they were. -/
theorem get?_publishedFolder_of_mem {name path : String} (mem : path ∈ (newFolder name).files.keys) :
    (publishedFolder name).files.get? path = (newFolder name).files.get? path := by
  have plain : Path.Plain path := by
    rcases List.mem_pair.mp (mem_keys_newFolder.mp mem) with rfl | rfl
    · exact Folder.plain_fileNames.1
    · exact Folder.plain_fileNames.2
  exact Folder.get?_withFiles_of_other fun x entry =>
    Path.ne_join plain_dist (plain_of_mem_starterSite x entry) plain

/-- The arguments of an export where none are given. -/
def plainExport : ExportRequest := ⟨Project.fileName, none, none, none, false⟩

theorem read?_plainExport : Request.read? "export" [] = some (.ok (.publish plainExport)) := by
  rw [plainExport]
  rfl

/-- The folder for exports of a new project is made. -/
theorem makeAt_newFolder (name : String) : (newFolder name).makeAt ["dist"] =
    some { newFolder name with folders := ["dist"] } := by
  have noFile : (newFolder name).files.contains (Path.ofParts ["dist"]) = false := by
    rw [Dict.contains, get?_newFolder, if_neg (by decide), if_neg (by decide)]
    rfl
  rw [Folder.makeAt, hasFolder_newFolder name plain_dist.not_dots, noFile]
  rfl

/-- An export of a new project makes the folder for exports and the files in it. -/
theorem command_newFolder (name location : String) :
    let exported := (newFolder name).command location (.publish plainExport)
    exported.outcome = .ok () ∧ exported.folder = publishedFolder name := by
  obtain ⟨config, project⟩ := load_newFolder name location
  exact Folder.command_publish config project rfl rfl plain_dist (makeAt_newFolder name)
    (fun file mem => plain_siteFiles file (mem_keys_starterSite.mp mem))
    (fun file mem => hasFolder_newFolder name plain_dist.not_dots [file])

/-- A new project in an empty folder is read back, whatever the site is called, and its document is
valid. An export without further arguments then puts the three files of the site into the folder for
exports, and leaves the two files of the project as they are. -/
theorem starter_published (name location : String) (force : Bool) :
    let made := Folder.command emptyFolder location (.create ⟨name, force⟩)
    let s : Surroundings := ⟨location, made.folder.look⟩
    made.outcome = .ok () ∧ Config.load s = .ok {} ∧
      Project.load s Project.fileName = .ok (starter name) ∧ (starter name).document.Valid ∧
      (∀ path, path ∈ made.folder.files.keys ↔ path ∈ [Config.fileName, Project.fileName]) ∧
      ∃ r, Request.read? "export" [] = some (.ok r) ∧
        let exported := made.folder.command location r
        let outDir := ({} : Config).outDir
        exported.outcome = .ok () ∧ exported.folder.folders = [outDir] ∧
          (∀ path, path ∈ exported.folder.files.keys ↔
            path ∈ made.folder.files.keys ∨ ∃ file ∈ siteFiles, path = Path.join outDir file) ∧
          (∀ file ∈ siteFiles, ∃ text, (starterSite name).get? file = some text ∧
            exported.folder.files.get? (Path.join outDir file) = some text) ∧
          ∀ path ∈ made.folder.files.keys,
            exported.folder.files.get? path = made.folder.files.get? path := by
  obtain ⟨created, folder⟩ := command_emptyFolder name location force
  obtain ⟨config, project⟩ := load_newFolder name location
  obtain ⟨done, site⟩ := command_newFolder name location
  -- The results of the two commands are not introduced by name: a result with a name would be
  -- compared with the command itself by running it.
  refine ⟨created, ?_, ?_, valid_starter name, ?_, .publish plainExport, ?_⟩
  · rw [folder]
    exact config
  · rw [folder]
    exact project
  · rw [folder]
    exact fun path => mem_keys_newFolder
  · rw [folder]
    refine ⟨read?_plainExport, done, ?_, ?_, ?_, ?_⟩
    · rw [site]
      exact Folder.folders_withFiles _ _ _
    · rw [site]
      exact fun path => mem_keys_publishedFolder
    · rw [site]
      exact fun file mem => exists_get?_publishedFolder name mem
    · rw [site]
      exact fun path mem => get?_publishedFolder_of_mem mem

end Project

end PageStudio
