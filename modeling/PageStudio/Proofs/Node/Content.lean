import PageStudio.Node.Content
import PageStudio.Proofs.Json.Reading

/-!
# Contents are read back

Choices are read back from their names, `unknown` ones included, items of lists field by field, and
so contents. Only a progress that is not finite has no written form.
-/

namespace PageStudio

open Json

variable {f : Json → Json}

/-! ## Choices -/

theorem AlertType.reads_name (h : Arranges f) (t : AlertType) :
    Reads f read (.string t.name) t := by
  have back : ofName t.name = t := by
    cases t <;> decide
  unfold Reads read
  rw [h.name t.name, Option.map_some, back]

theorem SocialNetwork.reads_name (h : Arranges f) (n : SocialNetwork) :
    Reads f read (.string n.name) n := by
  have back : ofName n.name = n := by
    cases n <;> decide
  unfold Reads read
  rw [h.name n.name, Option.map_some, back]

theorem ListType.reads_name (h : Arranges f) (t : ListType) :
    Reads f read (.string t.name) t := by
  unfold Reads read
  refine bind_eq_some (h.name t.name) ?_
  cases t <;> decide

theorem FormMethod.reads_name (h : Arranges f) (m : FormMethod) :
    Reads f read (.string m.name) m := by
  unfold Reads read
  refine bind_eq_some (h.name m.name) ?_
  cases m <;> decide

/-! ## Items -/

theorem DropdownOption.reads_toJson (h : Arranges f) (i : DropdownOption) :
    Reads f read i.toJson i := by
  unfold Reads read toJson
  refine h.members (by rfl) (by decide) fun fields holds => ?_
  refine bind_eq_some (holds.required (by simp) (h.text i.id)) ?_
  refine bind_eq_some (holds.required (by simp) (h.text i.label)) ?_
  refine bind_eq_some (holds.required (by simp) (h.text i.url)) ?_
  rfl

theorem AccordionItem.reads_toJson (h : Arranges f) (i : AccordionItem) :
    Reads f read i.toJson i := by
  unfold Reads read toJson
  refine h.members (by rfl) (by decide) fun fields holds => ?_
  refine bind_eq_some (holds.required (by simp) (h.text i.id)) ?_
  refine bind_eq_some (holds.required (by simp) (h.text i.title)) ?_
  refine bind_eq_some (holds.required (by simp) (h.text i.content)) ?_
  rfl

theorem Tab.reads_toJson (h : Arranges f) (i : Tab) : Reads f read i.toJson i := by
  unfold Reads read toJson
  refine h.members (by rfl) (by decide) fun fields holds => ?_
  refine bind_eq_some (holds.required (by simp) (h.text i.id)) ?_
  refine bind_eq_some (holds.required (by simp) (h.text i.title)) ?_
  rfl

theorem NavLink.reads_toJson (h : Arranges f) (i : NavLink) : Reads f read i.toJson i := by
  unfold Reads read toJson
  refine h.members (by rfl) (by decide) fun fields holds => ?_
  refine bind_eq_some (holds.required (by simp) (h.text i.id)) ?_
  refine bind_eq_some (holds.required (by simp) (h.text i.text)) ?_
  refine bind_eq_some (holds.required (by simp) (h.text i.url)) ?_
  rfl

theorem SocialLink.reads_toJson (h : Arranges f) (i : SocialLink) : Reads f read i.toJson i := by
  unfold Reads read toJson
  refine h.members (by rfl) (by decide) fun fields holds => ?_
  refine bind_eq_some (holds.required (by simp) (h.text i.id)) ?_
  refine bind_eq_some (holds.required (by simp) (i.network.reads_name h)) ?_
  refine bind_eq_some (holds.required (by simp) (h.text i.url)) ?_
  rfl

theorem CarouselImage.reads_toJson (h : Arranges f) (i : CarouselImage) :
    Reads f read i.toJson i := by
  unfold Reads read toJson
  refine h.members (by rfl) (by decide) fun fields holds => ?_
  refine bind_eq_some (holds.required (by simp) (h.text i.id)) ?_
  refine bind_eq_some (holds.required (by simp) (h.text i.src)) ?_
  refine bind_eq_some (holds.required (by simp) (h.text i.alt)) ?_
  rfl

/-! ## Content -/

/-- The progress is a number that can be written. -/
def Content.Storable (c : Content) : Prop := ∀ x, c.progress = some x → x.isFinite = true

theorem scalar_ofFloat (x : Float) : (ofFloat x).Scalar := by
  unfold ofFloat
  split
  · trivial
  · trivial

/-- A content that can be written is read back field by field. -/
theorem Content.reads_toJson (h : Arranges f) (c : Content) (storable : c.Storable) :
    Reads f read c.toJson c := by
  unfold Reads read
  simp only [toJson, textJson, listJson]
  refine h.record (by rfl) (by decide) fun fields holds => ?_
  refine bind_eq_some (holds.text h c.text (by simp)) ?_
  refine bind_eq_some (holds.text h c.htmlFor (by simp)) ?_
  refine bind_eq_some (holds.lenient h c.checked (by simp) (fun b _ => h.flag b)
    fun _ => trivial) ?_
  refine bind_eq_some (holds.text h c.imageUrl (by simp)) ?_
  refine bind_eq_some (holds.text h c.buttonText (by simp)) ?_
  refine bind_eq_some (holds.optional c.dropdownOptions (by simp) rfl
    fun items _ => h.list fun i _ => i.reads_toJson h) ?_
  refine bind_eq_some (holds.text h c.selectOptions (by simp)) ?_
  refine bind_eq_some (holds.text h c.placeholder (by simp)) ?_
  refine bind_eq_some (holds.text h c.videoUrl (by simp)) ?_
  refine bind_eq_some (holds.text h c.mapQuery (by simp)) ?_
  refine bind_eq_some (holds.text h c.iconName (by simp)) ?_
  refine bind_eq_some (holds.lenient h c.progress (by simp)
    (fun x has => h.float (storable x has)) scalar_ofFloat) ?_
  refine bind_eq_some (holds.text h c.alertText (by simp)) ?_
  refine bind_eq_some (holds.lenient h c.alertType (by simp) (fun t _ => t.reads_name h)
    fun _ => trivial) ?_
  refine bind_eq_some (holds.optional c.accordionItems (by simp) rfl
    fun items _ => h.list fun i _ => i.reads_toJson h) ?_
  refine bind_eq_some (holds.optional c.tabs (by simp) rfl
    fun items _ => h.list fun i _ => i.reads_toJson h) ?_
  refine bind_eq_some (holds.lenient h c.activeTab (by simp) (fun n _ => h.word64 n)
    fun _ => trivial) ?_
  refine bind_eq_some (holds.optional c.navLinks (by simp) rfl
    fun items _ => h.list fun i _ => i.reads_toJson h) ?_
  refine bind_eq_some (holds.optional c.socialLinks (by simp) rfl
    fun items _ => h.list fun i _ => i.reads_toJson h) ?_
  refine bind_eq_some (holds.text h c.tableData (by simp)) ?_
  refine bind_eq_some (holds.text h c.listItems (by simp)) ?_
  refine bind_eq_some (holds.lenient h c.listType (by simp) (fun t _ => t.reads_name h)
    fun _ => trivial) ?_
  refine bind_eq_some (holds.text h c.quote (by simp)) ?_
  refine bind_eq_some (holds.text h c.cite (by simp)) ?_
  refine bind_eq_some (holds.lenient h c.rating (by simp) (fun n _ => h.word32 n)
    fun _ => trivial) ?_
  refine bind_eq_some (holds.lenient h c.maxRating (by simp) (fun n _ => h.word32 n)
    fun _ => trivial) ?_
  refine bind_eq_some (holds.optional c.carouselImages (by simp) rfl
    fun items _ => h.list fun i _ => i.reads_toJson h) ?_
  refine bind_eq_some (holds.text h c.formAction (by simp)) ?_
  refine bind_eq_some (holds.lenient h c.formMethod (by simp) (fun t _ => t.reads_name h)
    fun _ => trivial) ?_
  refine bind_eq_some (holds.text h c.formEnctype (by simp)) ?_
  refine bind_eq_some (holds.text h c.inputType (by simp)) ?_
  refine bind_eq_some (holds.text h c.inputName (by simp)) ?_
  refine bind_eq_some (holds.lenient h c.isRequired (by simp) (fun b _ => h.flag b)
    fun _ => trivial) ?_
  refine bind_eq_some (holds.text h c.autocomplete (by simp)) ?_
  refine bind_eq_some (holds.text h c.legendText (by simp)) ?_
  rfl

end PageStudio
