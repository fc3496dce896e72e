import PageStudio.Command.Plan
import PageStudio.Proofs.Editor.Freshness
import PageStudio.Proofs.Editor.NewNode
import PageStudio.Proofs.Editor.Writable
import PageStudio.Proofs.Project.Form

/-!
# Saved projects are opened again

The text of a writable project is read token by token, so what becomes of it is decided by its depth
alone: a text may nest arrays and objects 127 levels deep. Up to there a project is what is read of
its text, and beyond it the text is malformed. Nothing in an editor keeps nodes from being nested
deeper.

## Main statements

* `Project.load_text`: what becomes of the text of a writable project.
* `Session.load_saved`: what an editor makes of a project that was opened is opened again, if it
  is not nested too deep.
-/

namespace PageStudio

open Json Style

/-- What is written legibly is read of its text as far down as a text goes. -/
theorem readText_pretty {α : Type} {read : Source → Except ReadError α} {v : Json}
    (legible : v.Legible) : readText read v.pretty = read (v.within Source.textLevels) := by
  unfold readText
  rw [parse_pretty legible]
  show read _ >>= _ = _
  cases read (v.within Source.textLevels) with
  | ok a => rfl
  | error e => rfl

/-! ## Configurations -/

namespace Config

theorem legible_toJson (c : Config) : c.toJson.Legible := by
  have viewport : ∀ v : Viewport, v.toJson.Legible := fun v => legible_object (by simp)
  exact legible_object (by simp [viewport])

/-- A list of viewports is the deepest part of a configuration. -/
theorem height_toJson_le (c : Config) : c.toJson.height ≤ 3 := by
  have viewport : ∀ v : Viewport, v.toJson.height ≤ 1 := fun v =>
    height_le_one_of_scalars (by simp [Scalar])
  have viewports : (Json.array (c.viewports.map Viewport.toJson)).height ≤ 2 :=
    Nat.succ_le_succ (itemsHeight_le_iff.mpr (List.forall_mem_map.mpr fun v _ => viewport v))
  refine Nat.succ_le_succ (membersHeight_le_iff.mpr ?_)
  simp only [List.forall_mem_cons, height_string, Nat.zero_le, viewports, List.not_mem_nil,
    false_implies, implies_true, and_self]

/-- A configuration with viewports is what its own text says. -/
theorem ofText_text {c : Config} (nonempty : c.viewports ≠ []) : ofText c.text = .ok c := by
  have low : c.toJson.height ≤ Source.textLevels := Nat.le_trans c.height_toJson_le (by decide)
  have read : Config.read (c.toJson.within Source.textLevels) = some c := by
    rw [within_eq_toSource c.toJson low]
    exact c.reads_toJson arranges_id
  have some : c.viewports.isEmpty = false := List.isEmpty_eq_false_iff.mpr nonempty
  simp only [ofText, text, readText_pretty c.legible_toJson, read, ReadError.ofOption, some,
    Bool.false_eq_true, if_false]

end Config

namespace Project

variable {p : Project}

/-! ## Reading what is too deep -/

/-- The document is the deepest part of a project. -/
theorem height_toJson (p : Project) : p.toJson.height = p.document.toJson.height + 1 := by
  have theme : p.theme.toJson.height ≤ p.document.toJson.height := Nat.succ_le_succ (Nat.zero_le _)
  have settings : p.settings.toJson.height ≤ p.document.toJson.height :=
    Nat.le_trans p.settings.height_toJson (Nat.succ_le_succ (Nat.zero_le _))
  show max _ (max _ (max _ 0)) + 1 = _
  rw [Nat.max_zero, Nat.max_eq_left (Nat.max_le.mpr ⟨theme, settings⟩)]

/-- A project is not read where the levels do not suffice. -/
theorem read_tooDeep {levels : Nat} (deep : levels < p.toJson.height) :
    Project.read (p.toJson.within levels) = .error .malformed := by
  cases levels with
  | zero => rfl
  | succ levels =>
    rw [height_toJson] at deep
    have document : Document.read (p.document.toJson.within levels) = .error .malformed := by
      unfold Document.read
      cases found : Document.Draft.read (p.document.toJson.within levels) with
      | none => rfl
      | some draft =>
        have low := p.document.bounded_toJson found
        omega
    let written := p.fields.map fun m => (m.1, some m.2)
    have names : (written.map (·.1)).Nodup := by
      show ["document", "theme", "settings"].Nodup
      decide
    have scanned : Fields.ofSource ["document", "theme", "settings"]
        (p.toJson.within (levels + 1)) = ⟨foundWithin levels written, true⟩ :=
      Fields.ofSource_within names levels
    unfold Project.read
    rw [scanned]
    -- The document is the first field that is read.
    show (Draft.readField {} "document" (p.document.toJson.within levels) >>= _) >>= _ = _
    unfold Draft.readField
    show ((Document.read (p.document.toJson.within levels) >>= _) >>= _) >>= _ = _
    rw [document]
    rfl

/-! ## Opening texts -/

/-- The document of the project is valid, and its nodes can be written. -/
structure Writable (p : Project) : Prop where
  valid : p.document.Valid
  nodes : p.document.All Element.Writable

theorem Writable.legible (writable : p.Writable) : p.toJson.Legible := by
  refine legible_object ?_
  simp only [List.forall_mem_cons, Document.legible_toJson writable.nodes, Theme.legible,
    Settings.legible, List.not_mem_nil, false_implies, implies_true, true_and]

/-- A writable project is read from its text, unless the text is nested too deep. -/
theorem readText_text (writable : p.Writable) :
    readText Project.read p.text =
      if p.toJson.height ≤ Source.textLevels then .ok p else .error .malformed := by
  have read : Project.read (p.toJson.within Source.textLevels) =
      if p.toJson.height ≤ Source.textLevels then .ok p else .error .malformed := by
    split
    next low =>
      have storable : p.document.Storable :=
        Document.storable_of_all fun id m mem => (writable.nodes id m mem).storable
      rw [within_eq_toSource p.toJson low]
      exact read_toJson arranges_id writable.valid storable
    next deep => exact read_tooDeep (Nat.lt_of_not_le deep)
  rw [text, readText_pretty writable.legible, read]

/-- What becomes of the text of a writable project. -/
theorem load_text (writable : p.Writable) {s : Surroundings} {path : String}
    (saved : s.look path = .text p.text) :
    Project.load s path = if p.toJson.height ≤ Source.textLevels then .ok p
      else .error (.invalidProject (s.shown path) .malformed) := by
  unfold Project.load
  rw [saved]
  show (readText Project.read p.text).mapError _ = _
  rw [readText_text writable]
  split
  next => rfl
  next => rfl

/-! ## Projects that were opened -/

/-- A field sets the document only to one that was read. -/
theorem document_readField {draft draft' : Draft} {name : String} {v : Source}
    (found : draft.readField name v = .ok draft') :
    draft'.document = draft.document ∨ ∃ d, draft'.document = some d ∧ Document.read v = .ok d := by
  unfold Draft.readField at found
  split at found
  next =>
    obtain ⟨d, read, found⟩ := exists_of_bind_eq_ok found
    cases found
    exact .inr ⟨d, rfl, read⟩
  next =>
    obtain ⟨theme, -, found⟩ := exists_of_bind_eq_ok found
    cases found
    exact .inl rfl
  next =>
    obtain ⟨settings, -, found⟩ := exists_of_bind_eq_ok found
    cases found
    exact .inl rfl

theorem document_foldlM_readField {fields : List (String × Source)} {draft draft' : Draft}
    (found : fields.foldlM (fun (d : Draft) m => d.readField m.1 m.2) draft = .ok draft')
    {d : Document} (has : draft'.document = some d) :
    draft.document = some d ∨ ∃ v, Document.read v = .ok d := by
  induction fields generalizing draft with
  | nil =>
    cases found
    exact .inl has
  | cons m rest ih =>
    rw [List.foldlM_cons] at found
    obtain ⟨next, first, found⟩ := exists_of_bind_eq_ok found
    rcases ih found with there | later
    · rcases document_readField first with same | ⟨d', set, read⟩
      · exact .inl (same ▸ there)
      · rw [set] at there
        cases there
        exact .inr ⟨_, read⟩
    · exact .inr later

/-- The document of a project was read as one. -/
theorem exists_document_read {v : Source} (found : Project.read v = .ok p) :
    ∃ w, Document.read w = .ok p.document := by
  unfold Project.read at found
  obtain ⟨draft, all, found⟩ := exists_of_bind_eq_ok found
  split at found
  next document _ has _ =>
    cases found
    rcases document_foldlM_readField all has with none | read
    · cases none
    · exact read
  next => cases found

theorem exists_read_of_load {s : Surroundings} {path : String}
    (opened : Project.load s path = .ok p) : ∃ v, Project.read v = .ok p := by
  unfold Project.load at opened
  split at opened
  next text _ => exact exists_read_of_readText (eq_ok_of_mapError_eq_ok opened)
  next => cases opened

/-- The document of a project that was opened is valid. -/
theorem valid_of_load {s : Surroundings} {path : String} (opened : Project.load s path = .ok p) :
    p.document.Valid := by
  obtain ⟨v, read⟩ := exists_read_of_load opened
  obtain ⟨w, read⟩ := exists_document_read read
  exact (Document.read_ok read).1

/-- A project that was opened is writable, unless it has a progress. -/
theorem writable_of_load {s : Surroundings} {path : String} (opened : Project.load s path = .ok p)
    (progressless : p.document.All Element.Progressless) : p.Writable := by
  obtain ⟨v, read⟩ := exists_read_of_load opened
  obtain ⟨w, read⟩ := exists_document_read read
  obtain ⟨valid, links⟩ := Document.read_ok read
  exact ⟨valid, fun id m mem => .of_progressless (progressless id m mem) (links id m mem)⟩

end Project

/-! ## What an editor makes of a project -/

namespace Session

/-- An editor keeps projects writable. -/
theorem writable_run {p : Project} (writable : p.Writable) (ids : IdSource)
    (viewports : List Viewport) {ops : List Operation} (given : ∀ op ∈ ops, op.Given)
    (theme : Theme) (settings : Settings) :
    Project.Writable
      ⟨(((start p.document ids).withViewports viewports).run ops).document, theme, settings⟩ := by
  have sound : ((start p.document ids).withViewports viewports).Sound :=
    sound_start writable.valid ids
  have starts : ((start p.document ids).withViewports viewports).Writable :=
    writable_start writable.nodes ids
  exact ⟨(sound.run ops).document, (starts.run given).document⟩

/-- A project without progress is opened and its document edited, with nodes and patches that were
given without progress. Whatever is done to it, the project that the document then belongs to is
opened again where its text was saved, unless the text is nested too deep. -/
theorem load_saved {s : Surroundings} {path : String} {p : Project}
    (opened : Project.load s path = .ok p) (progressless : p.document.All Element.Progressless)
    (ids : IdSource) (viewports : List Viewport) {ops : List Operation}
    (given : ∀ op ∈ ops, op.Given) (theme : Theme) (settings : Settings) (t : Surroundings)
    (file : String) :
    let q : Project :=
      ⟨(((start p.document ids).withViewports viewports).run ops).document, theme, settings⟩
    t.look file = .text q.text →
      Project.load t file = if q.toJson.height ≤ Source.textLevels then .ok q
        else .error (.invalidProject (t.shown file) .malformed) := by
  intro q saved
  have writable : p.Writable := Project.writable_of_load opened progressless
  exact Project.load_text (writable_run writable ids viewports given theme settings) saved

/-- A project of an empty page. -/
def blank : Project where
  document := .ofPage { id := "home", name := "Home" }

/-- A folder with nothing but the file of a project. -/
def folderOf (p : Project) : Folder := ⟨Dict.empty.insert Project.fileName p.text, []⟩

/-- The folder as a command sees it. -/
def around (p : Project) : Surroundings := ⟨"/site", (folderOf p).look⟩

/-- A project is saved into an empty folder, and its text is found there. -/
theorem write_text (p : Project) :
    Folder.write ⟨Dict.empty, []⟩ Project.fileName p.text = some (folderOf p) := rfl

theorem look_around (p : Project) : (around p).look Project.fileName = .text p.text := rfl

theorem all_blank {P : Element → Prop} : blank.document.All P := by
  refine Document.all_iff.mpr fun entry mem => ?_
  rw [List.mem_singleton.mp mem]
  exact Node.forestAll_nil

theorem writable_blank : blank.Writable := ⟨Document.valid_ofPage _, all_blank⟩

theorem load_blank : Project.load (around blank) Project.fileName = .ok blank := by
  rw [Project.load_text writable_blank (look_around blank), if_pos (by decide)]

/-- The project that a run of operations makes of the empty page. -/
def edited (ops : List Operation) : Project where
  document :=
    (((start blank.document { seed := "s" }).withViewports Viewport.builtIn).run ops).document

/-- A progress bar is added to the empty page, and the project is opened again. -/
theorem load_saved_progressBar :
    let ops : List Operation := [.addNode .progressBar none]
    Project.load (around blank) Project.fileName = .ok blank ∧
      blank.document.All Element.Progressless ∧ (∀ op ∈ ops, op.Given) ∧
      Folder.write ⟨Dict.empty, []⟩ Project.fileName (edited ops).text =
        some (folderOf (edited ops)) ∧
      (around (edited ops)).look Project.fileName = .text (edited ops).text ∧
      (edited ops).document.activeLayout.map (·.content.progress) = [some 50] ∧
      Project.load (around (edited ops)) Project.fileName = .ok (edited ops) := by
  intro ops
  have given : ∀ op ∈ ops, op.Given := by
    intro op mem
    rw [List.mem_singleton.mp mem]
    trivial
  have opened := load_saved load_blank all_blank { seed := "s" } Viewport.builtIn given {} {}
    (around (edited ops)) Project.fileName (look_around (edited ops))
  have low : (edited ops).toJson.height ≤ Source.textLevels := by decide +kernel
  exact ⟨load_blank, all_blank, given, write_text _, look_around _, by decide +kernel,
    opened.trans (if_pos low)⟩

/-! ## Nodes that are nested too deep -/

end Session

/-- Containers inside each other, each with an id of its own. -/
def Node.nested : Nat → Node
  | 0 => .bare "" .container "Box"
  | depth + 1 =>
    .mk { id := String.ofList (List.replicate (depth + 1) 'n'), kind := .container, name := "Box" }
      [nested depth]

namespace Node

theorem subtreeIds_nested (depth : Nat) : (nested depth).subtreeIds =
    (List.range (depth + 1)).reverse.map fun k => String.ofList (List.replicate k 'n') := by
  induction depth with
  | zero => rfl
  | succ depth ih =>
    rw [List.range_succ, List.reverse_append, nested, subtreeIds, forestIds_singleton, ih]
    rfl

theorem nodup_subtreeIds_nested (depth : Nat) : (nested depth).subtreeIds.Nodup := by
  rw [subtreeIds_nested]
  refine (List.nodup_reverse.mpr List.nodup_range).map fun j k same => ?_
  have lengths := congrArg List.length (String.ofList_injective same)
  rwa [List.length_replicate, List.length_replicate] at lengths

theorem given_nested (depth : Nat) : (nested depth).Given := by
  have all {P : Element → Prop} (each : ∀ id, P { id, kind := .container, name := "Box" })
      (depth : Nat) : (nested depth).All P := by
    induction depth with
    | zero => exact all_mk_iff.mpr ⟨each _, forestAll_nil⟩
    | succ depth ih => exact all_mk_iff.mpr ⟨each _, forestAll_singleton ih⟩
  exact .of_linkStorable (all (fun _ _ has => by cases has) depth) (all (fun _ => rfl) depth)

end Node

namespace Session

/-- A node with new ids is put on the empty page. -/
theorem edited_insertNode {n : Node} (nodup : n.subtreeIds.Nodup) :
    edited [.apply (.insertNode none n)] =
      ⟨⟨blank.document.pages, blank.document.layouts.insert "home" [n], "home"⟩, {}, {}⟩ := by
  let s := (start blank.document { seed := "s" }).withViewports Viewport.builtIn
  obtain ⟨e, applied⟩ : ∃ e, ((Mutation.insertNode none n).apply s.document s.ids).1 = .ok e := by
    refine Mutation.exists_apply_insertNode writable_blank.valid (fun id root => ?_) nodup
      (fun i _ old => ?_) s.ids
    · cases root
    · have bare : blank.document.nodeIds = [] := rfl
      rw [bare] at old
      cases old
  have document : (s.apply (.insertNode none n)).2.document = e :=
    document_apply applied (beq_of_insertNode applied)
  have drafted : Mutation.insertInto s.document none n = .ok e :=
    (Mutation.apply_ok_iff.mp applied).1
  obtain ⟨layout, added, changed⟩ := Mutation.insertInto_ok drafted
  cases added
  obtain ⟨-, rfl⟩ := Document.withLayout_ok_iff.mp changed
  show (⟨(s.apply (.insertNode none n)).2.document, {}, {}⟩ : Project) = _
  rw [document]
  rfl

/-- Containers nested in each other, which a text may hold, are put on the empty page. A text does
not hold the project then, so it cannot be opened again. -/
theorem load_saved_nested :
    let ops : List Operation := [.apply (.insertNode none (.nested 61))]
    Project.load (around blank) Project.fileName = .ok blank ∧
      blank.document.All Element.Progressless ∧ (∀ op ∈ ops, op.Given) ∧
      (Node.nested 61).toJson.height ≤ Source.textLevels ∧
      Folder.write ⟨Dict.empty, []⟩ Project.fileName (edited ops).text =
        some (folderOf (edited ops)) ∧
      (around (edited ops)).look Project.fileName = .text (edited ops).text ∧
      Project.load (around (edited ops)) Project.fileName =
        .error (.invalidProject "/site/project.json" .malformed) := by
  intro ops
  have given : ∀ op ∈ ops, op.Given := by
    intro op mem
    rw [List.mem_singleton.mp mem]
    exact Node.given_nested 61
  have writable : (edited ops).Writable :=
    writable_run writable_blank { seed := "s" } Viewport.builtIn given {} {}
  have deep : ¬ (edited ops).toJson.height ≤ Source.textLevels := by
    rw [edited_insertNode (Node.nodup_subtreeIds_nested 61)]
    decide +kernel
  have refused := (Project.load_text writable (look_around (edited ops))).trans (if_neg deep)
  have shown : (around (edited ops)).shown Project.fileName = "/site/project.json" := by
    show Path.join "/site" "project.json" = _
    decide
  rw [shown] at refused
  exact ⟨load_blank, all_blank, given, by decide +kernel, write_text _, look_around _, refused⟩

end Session

end PageStudio
