import PageStudio.Command.Plan
import PageStudio.Proofs.Project.Folder

/-!
# What commands do to a folder

A command that refuses does nothing. Of one that does not, each action leads from one folder to the
next, and printing leaves the folder as it is. So a new project is two files in the folder, and an
export one file for each text in the folder for exports.

## Main statements

* `Folder.command_create`: the folder after `init`.
* `Folder.command_publish`: the folder after an `export` that finds its project.
-/

namespace PageStudio

namespace Folder

open PageStudio.Path Request

variable {f g h : Folder} {dir path text : String} {as bs : List Action}

/-- All of some actions are done, and lead from one folder to another. -/
def Leads (f : Folder) (actions : List Action) (g : Folder) : Prop :=
  ∀ printed, ∃ later, actions.foldl Result.next ⟨true, printed, f⟩ = ⟨true, later, g⟩

/-! ## Single actions -/

theorem Leads.nil (f : Folder) : f.Leads [] f := fun printed => ⟨printed, rfl⟩

theorem Leads.append (first : f.Leads as g) (second : g.Leads bs h) : f.Leads (as ++ bs) h := by
  intro printed
  obtain ⟨between, reached⟩ := first printed
  rw [List.foldl_append, reached]
  exact second between

theorem Leads.cons {a : Action} (first : f.Leads [a] g) (second : g.Leads as h) :
    f.Leads (a :: as) h := first.append second

theorem leads_print (f : Folder) (text : String) : f.Leads [.print text] f :=
  fun printed => ⟨printed ++ text, rfl⟩

theorem leads_write (written : f.write path text = some g) : f.Leads [.write path text] g := by
  intro printed
  simp only [List.foldl_cons, List.foldl_nil, Result.next, written, if_true]
  exact ⟨_, rfl⟩

theorem leads_makeFolder (made : f.makeFolder path = some g) : f.Leads [.makeFolder path] g := by
  intro printed
  simp only [List.foldl_cons, List.foldl_nil, Result.next, made, if_true]
  exact ⟨_, rfl⟩

/-- Lines are printed one after another. -/
theorem leads_printLines (f : Folder) (lines : List String) : f.Leads (lines.map printLine) f := by
  induction lines with
  | nil => exact .nil f
  | cons line rest ih => exact (leads_print f _).cons ih

/-- A command whose plan can be done ends well, with the folder that the plan leads to. -/
theorem command_of_leads {location : String} {r : Request} {actions : List Action}
    (planned : r.plan ⟨location, f.look⟩ = .ok actions) (leads : f.Leads actions g) :
    (f.command location r).outcome = .ok () ∧ (f.command location r).folder = g := by
  obtain ⟨printed, reached⟩ := leads ""
  have result : f.run actions = ⟨true, printed, g⟩ := reached
  unfold command
  rw [planned]
  simp only [result, if_true, and_self]

/-- A command that is refused leaves the folder as it is and prints nothing. -/
theorem command_of_refused {location : String} {r : Request} {e : CommandError}
    (refused : r.plan ⟨location, f.look⟩ = .error e) :
    f.command location r = ⟨.error e, "", f⟩ := by
  unfold command
  rw [refused]

/-! ## Actions that were done -/

/-- Nothing is done behind an action that fails. -/
theorem foldl_next_of_failed {r : Result} (failed : r.done = false) :
    as.foldl Result.next r = r := by
  induction as with
  | nil => rfl
  | cons a as ih =>
    have same : r.next a = r := by
      simp only [Result.next, failed, Bool.false_eq_true, if_false]
    rw [List.foldl_cons, same, ih]

/-- An action fails, or it leads on to the folder behind it. -/
theorem failed_or_leads (f : Folder) (a : Action) (printed : String) :
    (Result.next ⟨true, printed, f⟩ a).done = false ∨
      ∃ later g, Result.next ⟨true, printed, f⟩ a = ⟨true, later, g⟩ ∧ f.Leads [a] g := by
  cases a with
  | print text => exact .inr ⟨_, f, rfl, leads_print f text⟩
  | makeFolder path =>
    simp only [Result.next, if_true]
    cases made : f.makeFolder path with
    | none => exact .inl rfl
    | some g => exact .inr ⟨printed, g, rfl, leads_makeFolder made⟩
  | write path text =>
    simp only [Result.next, if_true]
    cases written : f.write path text with
    | none => exact .inl rfl
    | some g => exact .inr ⟨printed, g, rfl, leads_write written⟩

/-- Where the last action was done, all were. -/
theorem leads_of_done {printed : String}
    (done : (as.foldl Result.next ⟨true, printed, f⟩).done = true) :
    f.Leads as (as.foldl Result.next ⟨true, printed, f⟩).folder := by
  induction as generalizing f printed with
  | nil => exact .nil f
  | cons a as ih =>
    rw [List.foldl_cons] at done ⊢
    rcases failed_or_leads f a printed with failed | ⟨later, g, next, leads⟩
    · rw [foldl_next_of_failed failed, failed] at done
      cases done
    · rw [next] at done ⊢
      exact leads.cons (ih done)

/-- Actions lead to one folder only. -/
theorem Leads.unique (first : f.Leads as g) (second : f.Leads as h) : g = h := by
  obtain ⟨printed, reached⟩ := first ""
  obtain ⟨printed', reached'⟩ := second ""
  exact congrArg Result.folder (reached.symm.trans reached')

theorem leads_cons_iff {a : Action} :
    f.Leads (a :: as) h ↔ ∃ g, f.Leads [a] g ∧ g.Leads as h := by
  refine ⟨fun leads => ?_, fun ⟨g, first, second⟩ => first.cons second⟩
  obtain ⟨last, reached⟩ := leads ""
  rw [List.foldl_cons] at reached
  rcases failed_or_leads f a "" with failed | ⟨later, g, next, first⟩
  · rw [foldl_next_of_failed failed] at reached
    rw [reached] at failed
    cases failed
  · rw [next] at reached
    have done : (as.foldl Result.next ⟨true, later, g⟩).done = true := by rw [reached]
    have rest := leads_of_done done
    rw [reached] at rest
    exact ⟨g, first, rest⟩

theorem leads_print_iff : f.Leads [.print text] g ↔ g = f :=
  ⟨fun leads => leads.unique (leads_print f text), fun same => same ▸ leads_print f text⟩

theorem leads_makeFolder_iff : f.Leads [.makeFolder path] g ↔ f.makeFolder path = some g := by
  refine ⟨fun leads => ?_, leads_makeFolder⟩
  obtain ⟨last, reached⟩ := leads ""
  simp only [List.foldl_cons, List.foldl_nil, Result.next, if_true] at reached
  split at reached
  next made =>
    cases reached
    exact made
  next => cases reached

theorem leads_write_iff : f.Leads [.write path text] g ↔ f.write path text = some g := by
  refine ⟨fun leads => ?_, leads_write⟩
  obtain ⟨last, reached⟩ := leads ""
  simp only [List.foldl_cons, List.foldl_nil, Result.next, if_true] at reached
  split at reached
  next written =>
    cases reached
    exact written
  next => cases reached

/-- A command that ends well has done what it planned. -/
theorem exists_leads_of_command {location : String} {r : Request}
    (ended : (f.command location r).outcome = .ok ()) :
    ∃ actions, r.plan ⟨location, f.look⟩ = .ok actions ∧
      f.Leads actions (f.command location r).folder := by
  cases planned : r.plan ⟨location, f.look⟩ with
  | error e =>
    rw [command_of_refused planned] at ended
    cases ended
  | ok actions =>
    have ran : f.command location r = ⟨if (f.run actions).done then .ok () else .error .system,
        (f.run actions).printed, (f.run actions).folder⟩ := by
      unfold command
      rw [planned]
    rw [ran] at ended ⊢
    have done : (f.run actions).done = true := by
      by_contra failed
      rw [if_neg failed] at ended
      cases ended
    exact ⟨actions, rfl, leads_of_done done⟩

/-! ## New projects -/

/-- A new file is written where there is no folder of its name. -/
theorem leads_newFile {name : String} (plain : Plain name) (free : f.hasFolder [name] = false)
    (text : String) : f.Leads (newFile name text) (f.withFile name text) :=
  (leads_write (write_plain plain free text)).cons (leads_print _ _)

theorem plain_fileNames : Plain Config.fileName ∧ Plain Project.fileName := by decide

/-- The folder with the files of a new project. -/
def withProject (f : Folder) (name : String) : Folder :=
  (f.withFile Config.fileName (Config.text {})).withFile Project.fileName
    (Project.starter name).text

theorem files_withProject (f : Folder) (name : String) : (f.withProject name).files =
    (f.files.insert Config.fileName (Config.text {})).insert Project.fileName
      (Project.starter name).text := rfl

/-- The two files need no folder. -/
theorem hasFolder_withProject (f : Folder) (name : String) {ps : List String} (some : ps ≠ []) :
    (f.withProject name).hasFolder ps = f.hasFolder ps := by
  rw [withProject, hasFolder_withFile, hasFolder_withFile, isInside_plain plain_fileNames.1 some,
    isInside_plain plain_fileNames.2 some, Bool.or_false, Bool.or_false]

/-- A new project is put into a folder that has nothing of it, or by force over what it has. -/
theorem command_create {location : String} {r : InitRequest}
    (allowed : f.look Config.fileName = .missing ∧ f.look Project.fileName = .missing ∨
      r.force = true)
    (config : f.hasFolder [Config.fileName] = false)
    (project : f.hasFolder [Project.fileName] = false) :
    (f.command location (.create r)).outcome = .ok () ∧
      (f.command location (.create r)).folder = f.withProject r.name := by
  obtain ⟨plainConfig, plainProject⟩ := plain_fileNames
  have goes : (!(decide (f.look Config.fileName = .missing) &&
      decide (f.look Project.fileName = .missing)) && !r.force) = false := by
    rcases allowed with ⟨noConfig, noProject⟩ | force
    · simp only [noConfig, noProject, decide_true, Bool.and_self, Bool.not_true, Bool.false_and]
    · rw [force, Bool.not_true, Bool.and_false]
  have free : (f.withFile Config.fileName (Config.text {})).hasFolder [Project.fileName] = false := by
    rw [hasFolder_withFile, project, isInside_plain plainConfig (List.cons_ne_nil _ _),
      Bool.or_false]
  have leads : f.Leads (initPlan ⟨location, f.look⟩ r) (f.withProject r.name) := by
    unfold initPlan
    simp only [goes, Bool.false_eq_true, if_false]
    exact (leads_print f _).cons (((leads_newFile plainConfig config _).append
      (leads_newFile plainProject free _)).append (leads_printLines _ [_, _, _, _, _, _, _]))
  exact command_of_leads rfl leads

/-! ## Exports -/

/-- The files of an export are written one after another into a folder that is there. -/
theorem leads_exportFiles (s : Surroundings) {files : List (String × String)} (front : Plain dir)
    (there : f.hasFolder [dir] = true) (plain : ∀ x ∈ files, Plain x.1)
    (free : ∀ x ∈ files, f.hasFolder [dir, x.1] = false) :
    f.Leads (files.flatMap (exportFile s dir)) (f.withFiles dir files) := by
  induction files generalizing f with
  | nil => exact .nil f
  | cons x rest ih =>
    obtain ⟨plainHere, plainThere⟩ := List.forall_mem_cons.mp plain
    obtain ⟨freeHere, freeThere⟩ := List.forall_mem_cons.mp free
    let g := f.withFile (join dir x.1) x.2
    have still : g.hasFolder [dir] = true := by
      rw [hasFolder_withFile, there, Bool.true_or]
    have later : ∀ y ∈ rest, g.hasFolder [dir, y.1] = false := by
      intro y mem
      rw [hasFolder_withFile_join front plainHere]
      exact freeThere y mem
    have written : f.Leads (exportFile s dir x) g :=
      (leads_write (write_join there front plainHere freeHere x.2)).cons (leads_print _ _)
    exact written.append (ih still plainThere later)

/-- An export into files first makes the folder for them. -/
theorem exists_exportPlan_eq {s : Surroundings} {r : ExportRequest} {c : Config} {p : Project}
    {files : Dict String String} (config : Config.load s = .ok c)
    (project : Project.load s r.project = .ok p) (exported : exportFiles r c p = .ok files)
    (written : r.toOutput = false) :
    ∃ (first : String) (last : List String), exportPlan s r = .ok
      (printLine first :: .makeFolder (r.outDir.getD c.outDir) ::
        (files.entries.flatMap (exportFile s (r.outDir.getD c.outDir)) ++ last.map printLine)) := by
  simp only [exportPlan, config, project, exported, written, Bool.false_eq_true, if_false, bind,
    Except.bind, pure, Except.pure]
  exact ⟨_, [_, _], rfl⟩

/-- An export makes the folder for exports, and in it a file for each text. It touches nothing
else. -/
theorem command_publish {location : String} {r : ExportRequest} {c : Config} {p : Project}
    {files : Dict String String} (config : Config.load ⟨location, f.look⟩ = .ok c)
    (project : Project.load ⟨location, f.look⟩ r.project = .ok p)
    (exported : exportFiles r c p = .ok files) (written : r.toOutput = false)
    (front : Plain (r.outDir.getD c.outDir)) (made : f.makeAt [r.outDir.getD c.outDir] = some g)
    (plain : ∀ name ∈ files.keys, Plain name)
    (free : ∀ name ∈ files.keys, f.hasFolder [r.outDir.getD c.outDir, name] = false) :
    (f.command location (.publish r)).outcome = .ok () ∧
      (f.command location (.publish r)).folder =
        g.withFiles (r.outDir.getD c.outDir) files.entries := by
  obtain ⟨first, last, planned⟩ := exists_exportPlan_eq config project exported written
  have made' : f.makeFolder (r.outDir.getD c.outDir) = some g := (makeFolder_plain front).trans made
  have named : ∀ x ∈ files.entries, Plain x.1 := fun x mem => plain x.1 (List.mem_map_of_mem mem)
  have place : ∀ x ∈ files.entries, g.hasFolder [r.outDir.getD c.outDir, x.1] = false := by
    intro x mem
    rw [hasFolder_join_of_makeAt front (named x mem) made]
    exact free x.1 (List.mem_map_of_mem mem)
  have texts := leads_exportFiles ⟨location, f.look⟩ front (hasFolder_of_makeAt made) named place
  exact command_of_leads planned ((leads_print f _).cons
    ((leads_makeFolder made').cons (texts.append (leads_printLines _ last))))

end Folder

end PageStudio
