import PageStudio.Project.Basic
import PageStudio.Proofs.Document.NodeIds
import PageStudio.Proofs.Editor.MutationForm

/-!
# Projects are read back

The fields of a project are read in the order of the text. Each sets a part of its own, so what has
been read in the end does not depend on the order.
-/

namespace PageStudio

open Json Style

variable {f : Json → Json}

/-! ## Configurations -/

theorem Style.Viewport.reads_toJson (h : Arranges f) (v : Viewport) :
    Reads f Viewport.read v.toJson v := by
  unfold Reads Viewport.read Viewport.toJson
  refine h.members (by rfl) (by decide) fun fields holds => ?_
  refine bind_eq_some (holds.required (by simp) (h.text v.name)) ?_
  refine bind_eq_some (holds.required (by simp) (h.word32 v.width)) ?_
  refine bind_eq_some (holds.required (by simp) (h.word32 v.height)) ?_
  refine bind_eq_some (holds.required (by simp) (h.word32 v.breakpoint)) ?_
  rfl

theorem Config.reads_toJson (h : Arranges f) (c : Config) : Reads f read c.toJson c := by
  unfold Reads read toJson
  have viewports : Reads f (Reader.list Viewport.read) (.array (c.viewports.map Viewport.toJson))
      c.viewports := h.list fun v _ => v.reads_toJson h
  refine h.members (by rfl) (by decide) fun fields holds => ?_
  refine bind_eq_some (holds.withDefault (by simp) (h.text c.outDir) _) ?_
  refine bind_eq_some (holds.withDefault (by simp) viewports _) ?_
  refine bind_eq_some (holds.withDefault (by simp) (h.text c.defaultViewport) _) ?_
  rfl

/-! ## Projects -/

namespace Project

/-- What is read once the field of a name has the value that a project has there. -/
def Draft.take (p : Project) (draft : Draft) (name : String) : Draft :=
  match name with
  | "document" => { draft with document := some p.document }
  | "theme" => { draft with theme := some p.theme }
  | _ => { draft with settings := some p.settings }

/-- Fields set parts of their own. -/
theorem Draft.take_take (p : Project) (draft : Draft) (a b : String) :
    (draft.take p a).take p b = (draft.take p b).take p a := by
  unfold Draft.take
  split <;> split <;> rfl

/-- The fields of a project, written. -/
def fields (p : Project) : List (String × Json) :=
  [("document", p.document.toJson), ("theme", p.theme.toJson), ("settings", p.settings.toJson)]

/-- A field of a project is read back. -/
theorem readField_eq_ok (h : Arranges f) {p : Project} (valid : p.document.Valid)
    (storable : p.document.Storable) {field : String × Json} (mem : field ∈ p.fields)
    (draft : Draft) :
    draft.readField field.1 (f field.2).toSource = .ok (draft.take p field.1) := by
  have theme : Theme.read (f p.theme.toJson).toSource = some p.theme := p.theme.reads_toJson h
  have settings : Settings.read (f p.settings.toJson).toSource = some p.settings :=
    p.settings.reads_toJson h
  simp only [fields, List.mem_cons, List.not_mem_nil, or_false] at mem
  rcases mem with rfl | rfl | rfl
  · show Document.read (f p.document.toJson).toSource >>= _ = _
    rw [Document.read_toJson h valid storable]
    rfl
  · show ReadError.ofOption (Theme.read (f p.theme.toJson).toSource) >>= _ = _
    rw [theme]
    rfl
  · show ReadError.ofOption (Settings.read (f p.settings.toJson).toSource) >>= _ = _
    rw [settings]
    rfl

/-- So are fields one after another. -/
theorem foldlM_readField_eq_ok (h : Arranges f) {p : Project} (valid : p.document.Valid)
    (storable : p.document.Storable) {found : List (String × Source)}
    (written : ∀ m ∈ found, ∃ field ∈ p.fields, m = (field.1, (f field.2).toSource))
    (draft : Draft) :
    found.foldlM (fun (d : Draft) m => d.readField m.1 m.2) draft =
      .ok (found.foldl (fun d m => d.take p m.1) draft) := by
  induction found generalizing draft with
  | nil => rfl
  | cons m rest ih =>
    obtain ⟨field, mem, rfl⟩ := written m List.mem_cons_self
    rw [List.foldlM_cons, readField_eq_ok h valid storable mem]
    exact ih (fun n hn => written n (List.mem_cons_of_mem _ hn)) _

/-- A project of a valid document that can be written is read back. -/
theorem read_toJson (h : Arranges f) {p : Project} (valid : p.document.Valid)
    (storable : p.document.Storable) : Project.read (f p.toJson).toSource = .ok p := by
  let written := p.fields.map fun m => (m.1, some m.2)
  have names : (written.map (·.1)).Nodup := by
    show ["document", "theme", "settings"].Nodup
    decide
  obtain ⟨found, result, perm, -⟩ := h.exists_found names
  have order : found.Perm (p.fields.map fun field => (field.1, (f field.2).toSource)) := perm
  have all : ∀ m ∈ found, ∃ field ∈ p.fields, m = (field.1, (f field.2).toSource) := by
    intro m mem
    obtain ⟨field, hf, same⟩ := List.mem_map.mp (order.mem_iff.mp mem)
    exact ⟨field, hf, same.symm⟩
  -- The parts are set in the order of the text; in the order of writing they make the project.
  have complete : found.foldl (fun d m => d.take p m.1) ({} : Draft) =
      ⟨some p.document, some p.theme, some p.settings⟩ :=
    order.foldl_eq' (fun a _ b _ draft => draft.take_take p a.1 b.1) _
  have object : p.toJson = ofFields written := rfl
  have scanned : Fields.ofSource ["document", "theme", "settings"] (f p.toJson).toSource =
      ⟨found, true⟩ := object ▸ result
  unfold Project.read
  rw [scanned]
  show found.foldlM (fun (d : Draft) m => d.readField m.1 m.2) {} >>= _ = _
  rw [foldlM_readField_eq_ok h valid storable all, complete]
  rfl

end Project

/-! ## Everything that is stored -/

/-- Valid documents, nodes, patches, pages, mutations, configurations and projects of valid
documents are what their written forms are read as, as far as they can be written. -/
theorem readsBack (h : Arranges f) :
    (∀ d : Document, d.Valid → d.Storable → Document.read (f d.toJson).toSource = .ok d) ∧
    (∀ n : Node, n.Storable → Node.read (f n.toJson).toSource = some n) ∧
    (∀ p : NodePatch, p.Storable → NodePatch.read (f p.toJson).toSource = some p) ∧
    (∀ p : Page, Page.read (f p.toJson).toSource = some p) ∧
    (∀ p : PagePatch, PagePatch.read (f p.toJson).toSource = some p) ∧
    (∀ m : Mutation, m.Storable →
      Mutation.read (f m.toJson).toSource = some m ∧ Mutation.ofJson? (f m.toJson) = some m) ∧
    (∀ c : Config, Config.read (f c.toJson).toSource = some c) ∧
    (∀ p : Project, p.document.Valid → p.document.Storable →
      Project.read (f p.toJson).toSource = .ok p) := by
  refine ⟨?_, ?_, ?_, ?_, ?_, ?_, ?_, ?_⟩
  · exact fun d valid storable => d.read_toJson h valid storable
  · exact fun n storable => n.reads_toJson h storable
  · exact fun p storable => p.reads_toJson h storable
  · exact fun p => p.reads_toJson h
  · exact fun p => p.reads_toJson h
  · exact fun m storable => ⟨m.reads_toJson h storable, m.ofJson?_toJson h storable⟩
  · exact fun c => c.reads_toJson h
  · exact fun p valid storable => p.read_toJson h valid storable

/-- A node of an unknown kind, with a progress, that leads elsewhere. -/
def Node.halfway : Node :=
  .mk { id := "bar", kind := .unknown, name := "Bar", link := some (.external "https://bar"),
        content := { progress := some 0.5, alertType := some .unknown } } []

theorem Node.storable_halfway : halfway.Storable := by
  refine ⟨⟨fun x is => ?_, fun l is => ?_⟩, trivial⟩
  · cases is
    decide
  · cases is
    show ¬ Link.pageMark <+: "https://bar".toList
    decide

/-- A document of a page with that node. -/
def Document.halfway : Document :=
  ⟨[{ id := "home", name := "Home" }], Dict.empty.insert "home" [.halfway], "home"⟩

theorem Document.valid_halfway : halfway.Valid := by
  have page := valid_ofPage { id := "home", name := "Home" }
  have changed : (ofPage { id := "home", name := "Home" }).withLayout "home" [.halfway] =
      .ok halfway := withLayout_ok_iff.mpr ⟨List.mem_cons_self, rfl⟩
  exact page.withLayout changed (by decide) (by decide)

/-- A patch that only takes a link away. -/
theorem NodePatch.storable_unlinked : NodePatch.Storable { link := some none } where
  content c is := (Option.some_ne_none c is.symm).elim
  children c is := (Option.some_ne_none c is.symm).elim
  link l is := (Option.some_ne_none l (Option.some.inj is).symm).elim

/-- With members sorted, the document is read back, and so is a mutation that takes the link of the
node away. -/
theorem readsBack_halfway :
    Arranges sorted ∧ Document.halfway.Valid ∧ Document.halfway.Storable ∧
      Document.read (sorted Document.halfway.toJson).toSource = .ok .halfway ∧
      Mutation.read (sorted (Mutation.updateNode "bar" { link := some none }).toJson).toSource =
        some (.updateNode "bar" { link := some none }) := by
  have storable : Document.halfway.Storable := by
    intro e mem
    rw [List.mem_singleton.mp mem]
    exact ⟨Node.storable_halfway, trivial⟩
  obtain ⟨documents, -, -, -, -, mutations, -⟩ := readsBack arranges_sorted
  have mutation := mutations (.updateNode "bar" { link := some none }) NodePatch.storable_unlinked
  exact ⟨arranges_sorted, Document.valid_halfway, storable,
    documents _ Document.valid_halfway storable, mutation.1⟩

end PageStudio
