import PageStudio.Document.Form
import PageStudio.Document.Settings
import PageStudio.Proofs.Document.Draft
import PageStudio.Proofs.Node.Form

/-!
# Documents are read back

A valid document is what its own written form says: no layout is dropped, none is added, and the
active page stays (`Document.ofDraft_toDraft`). What is not valid may be refused or mended, so the
invariant is needed here.
-/

namespace PageStudio

open Json

variable {f : Json → Json}

/-! ## Pages and settings -/

theorem Page.reads_toJson (h : Arranges f) (p : Page) : Reads f read p.toJson p := by
  unfold Reads read toJson
  refine h.record (by rfl) (by decide) fun fields holds => ?_
  refine bind_eq_some (holds.required (by simp) (h.text p.id)) ?_
  refine bind_eq_some (holds.required (by simp) (h.text p.name)) ?_
  refine bind_eq_some (holds.text h p.seoTitle (by simp)) ?_
  refine bind_eq_some (holds.text h p.seoDescription (by simp)) ?_
  refine bind_eq_some (holds.text h p.customJs (by simp)) ?_
  refine bind_eq_some (holds.text h p.customHeadContent (by simp)) ?_
  rfl

theorem PagePatch.reads_toJson (h : Arranges f) (p : PagePatch) : Reads f read p.toJson p := by
  unfold Reads read toJson
  refine h.record (by rfl) (by decide) fun fields holds => ?_
  refine bind_eq_some (holds.text h p.name (by simp)) ?_
  refine bind_eq_some (holds.text h p.seoTitle (by simp)) ?_
  refine bind_eq_some (holds.text h p.seoDescription (by simp)) ?_
  refine bind_eq_some (holds.text h p.customJs (by simp)) ?_
  refine bind_eq_some (holds.text h p.customHeadContent (by simp)) ?_
  rfl

theorem Theme.reads_toJson (h : Arranges f) (t : Theme) : Reads f read t.toJson t := by
  unfold Reads read toJson
  refine h.members (by rfl) (by decide) fun fields holds => ?_
  refine bind_eq_some (holds.required (by simp) (h.text t.fontFamily)) ?_
  refine bind_eq_some (holds.required (by simp) (h.text t.bodyBackground)) ?_
  refine bind_eq_some (holds.required (by simp) (h.text t.bodyColor)) ?_
  rfl

theorem Settings.reads_toJson (h : Arranges f) (s : Settings) : Reads f read s.toJson s := by
  unfold Reads read toJson
  refine h.record (by rfl) (by decide) fun fields holds => ?_
  refine bind_eq_some (holds.text h s.globalJs (by simp)) ?_
  refine bind_eq_some (holds.text h s.globalHeadContent (by simp)) ?_
  rfl

/-! ## Documents -/

namespace Document

/-- All nodes of a document can be written. -/
def Storable (d : Document) : Prop := ∀ e ∈ d.layouts.entries, Node.ForestStorable e.2

theorem reads_toDraft (h : Arranges f) {d : Document} (storable : d.Storable) :
    Reads f Draft.read d.toJson d.toDraft := by
  unfold Reads Draft.read toJson
  refine h.members (by rfl) (by decide) fun fields holds => ?_
  have pages : Reads f (Reader.list Page.read) (.array (d.pages.map Page.toJson)) d.pages :=
    h.list fun p _ => p.reads_toJson h
  have layouts : Reads f (Reader.table readForest)
      (.object (d.layouts.entries.map fun e => (e.1, .array (Node.forestJson e.2)))) d.layouts := by
    let write (forest : List Node) : Json := .array (Node.forestJson forest)
    have each : ∀ e ∈ d.layouts.entries, Reads f readForest (write e.2) e.2 :=
      fun e he => Node.reads_forestJson h (storable e he)
    exact h.table each
  refine bind_eq_some (holds.required (by simp) pages) ?_
  refine bind_eq_some (holds.withDefault (by simp) layouts ∅) ?_
  refine bind_eq_some (holds.text h (some d.activePageId) (by simp)) ?_
  rfl

/-- A valid document that can be written is read back. -/
theorem read_toJson (h : Arranges f) {d : Document} (valid : d.Valid) (storable : d.Storable) :
    Document.read (f d.toJson).toSource = .ok d := by
  have draft : Draft.read (f d.toJson).toSource = some d.toDraft := reads_toDraft h storable
  unfold Document.read
  rw [draft]
  show (ofDraft d.toDraft).mapError ReadError.document = .ok d
  rw [ofDraft_toDraft valid]
  rfl

end Document

end PageStudio
