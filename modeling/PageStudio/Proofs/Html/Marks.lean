import PageStudio.Proofs.Html.Escape
import PageStudio.Proofs.Html.Reader

/-!
# Marks read back

A tag or a comment whose names and texts are legible is read back from its text, wherever a reader
meets it between tags. So a text that is put together from such marks and from plain text reads as
these marks and no others.
-/

namespace PageStudio.Html

/-! ## What is legible -/

/-- Whether a text may be the name of a tag. -/
def isTagName (tag : String) : Bool := tag != "" && tag.toList.all Char.isAlphanum

/-- The name of an attribute can be told from what follows it, and its value from its quotes. -/
def LegibleAttribute (a : String × Option String) : Prop :=
  (∀ c ∈ a.1.toList, Text.isNameChar c = true) ∧
    match a.2 with
    | some value => ∀ c ∈ value.toList, isValueChar c = true
    | none => a.1 ≠ ""

/-- A piece of markup in which nothing can be taken for the beginning or the end of another. -/
def Token.Legible : Token → Prop
  | text s => Plain s.toList
  | opening tag as | selfClosed tag as => isTagName tag = true ∧ ∀ a ∈ as, LegibleAttribute a
  | closing tag => isTagName tag = true
  | comment s => ∀ c ∈ s.toList, c ≠ '>'

theorem alphanum_of_isTagName {tag : String} (name : isTagName tag = true) :
    ∀ c ∈ tag.toList, c.isAlphanum = true :=
  List.all_eq_true.mp ((Bool.and_eq_true _ _).mp name).2

theorem toList_ne_nil {s : String} (nonempty : s ≠ "") : s.toList ≠ [] :=
  fun none => nonempty (String.toList_inj.mp none)

theorem toList_ne_nil_of_isTagName {tag : String} (name : isTagName tag = true) :
    tag.toList ≠ [] :=
  toList_ne_nil (bne_iff_ne.mp ((Bool.and_eq_true _ _).mp name).1)

/-- A character of a class is none outside of it. -/
theorem ne_of_class {f : Char → Bool} {c d : Char} (here : f c = true) (other : f d = false) :
    c ≠ d := by
  rintro rfl
  exact Bool.noConfusion (here.symm.trans other)

/-! ## Tags -/

theorem feed_openingName {tag : String} (name : isTagName tag = true) :
    feed .bracket tag.toList = some ([], .openingName tag.toList) := by
  have chars := alphanum_of_isTagName name
  cases list : tag.toList with
  | nil => exact absurd list (toList_ne_nil_of_isTagName name)
  | cons c rest =>
    rw [list] at chars
    have first : step .bracket c = some ([], .openingName [c]) := by
      have here := chars c List.mem_cons_self
      simp only [step, ne_of_class here (d := '/') (by decide),
        ne_of_class here (d := '!') (by decide), if_false, here, if_true]
    have others := feed_run (p := .openingName) (P := fun c => c.isAlphanum = true)
      (fun s c here => by
        simp only [step, ne_of_class here (d := ' ') (by decide),
          ne_of_class here (d := '>') (by decide), if_false, here, if_true])
      (fun d mem => chars d (List.mem_cons_of_mem _ mem)) [c]
    exact feed_append (feed_single first) others

theorem feed_closingName {tag : String} (name : isTagName tag = true) :
    feed (.closingName []) tag.toList = some ([], .closingName tag.toList) :=
  feed_run (p := .closingName) (P := fun c => c.isAlphanum = true)
    (fun s c here => by
      simp only [step, ne_of_class here (d := '>') (by decide), if_false, here, if_true])
    (alphanum_of_isTagName name) []

/-- Where a reader stands in an opening tag behind its name and some attributes. Only the next
character ends an attribute without a value. -/
inductive Behind (tag : String) : List (String × Option String) → Position → Prop where
  | name : Behind tag [] (.openingName tag.toList)
  | value (as : List (String × Option String)) : Behind tag as (.quoted tag.toList as)
  | flag (as : List (String × Option String)) {name : String} (nonempty : name ≠ "") :
    Behind tag (as ++ [(name, none)]) (.attributeName tag.toList as name.toList)

variable {tag : String} {as : List (String × Option String)} {p : Position}

/-- A blank makes room for one more attribute. -/
theorem Behind.step_blank (behind : Behind tag as p) :
    step p ' ' = some ([], .attributeName tag.toList as []) := by
  cases behind with
  | name => rfl
  | value => rfl
  | flag as nonempty =>
    have more : (String.toList _).isEmpty = false := List.isEmpty_eq_false_iff.mpr
      (toList_ne_nil nonempty)
    simp only [step, more, String.ofList_toList]
    rfl

theorem Behind.step_end (behind : Behind tag as p) :
    step p '>' = some ([.opening tag as], .outside []) := by
  cases behind with
  | name => simp only [step, String.ofList_toList]; rfl
  | value => simp only [step, String.ofList_toList]; rfl
  | flag as nonempty =>
    have more : (String.toList _).isEmpty = false := List.isEmpty_eq_false_iff.mpr
      (toList_ne_nil nonempty)
    simp only [step, more, String.ofList_toList]
    rfl

theorem feed_attributeName {name : List Char} (chars : ∀ c ∈ name, Text.isNameChar c = true)
    (tag : List Char) (as : List (String × Option String)) :
    feed (.attributeName tag as []) name = some ([], .attributeName tag as name) :=
  feed_run (p := .attributeName tag as) (P := fun c => Text.isNameChar c = true)
    (fun s c here => by
      simp only [step, ne_of_class here (d := '=') (by decide), if_false, here, if_true])
    chars []

theorem feed_value {value : List Char} (chars : ∀ c ∈ value, isValueChar c = true)
    (tag : List Char) (as : List (String × Option String)) (name : List Char) :
    feed (.value tag as name []) value = some ([], .value tag as name value) :=
  feed_run (p := .value tag as name) (P := fun c => isValueChar c = true)
    (fun s c here => by
      simp only [step, ne_of_class here (d := '"') (by decide),
        ne_of_class here (d := '<') (by decide),
        ne_of_class here (d := '>') (by decide), or_self, if_false])
    chars []

/-- One more attribute is read. -/
theorem Behind.feed_attribute (behind : Behind tag as p) {a : String × Option String}
    (legible : LegibleAttribute a) :
    ∃ q, feed p (attributeChars a) = some ([], q) ∧ Behind tag (as ++ [a]) q := by
  obtain ⟨name, value⟩ := a
  obtain ⟨nameChars, rest⟩ := legible
  have blank := feed_single behind.step_blank
  have named := feed_append blank (feed_attributeName nameChars tag.toList as)
  cases value with
  | none => exact ⟨_, named, .flag as rest⟩
  | some value =>
    refine ⟨_, ?_, .value (as ++ [(name, some value)])⟩
    have equals : feed (.attributeName tag.toList as name.toList) ['=', '"'] =
        some ([], .value tag.toList as name.toList []) := rfl
    have quote : feed (.value tag.toList as name.toList value.toList) ['"'] =
        some ([], .quoted tag.toList (as ++ [(name, some value)])) := by
      refine feed_single ?_
      simp only [step, if_true, String.ofList_toList]
    exact feed_append named (feed_append equals
      (feed_append (feed_value rest tag.toList as name.toList) quote))

theorem Behind.feed_attributes (behind : Behind tag as p) {more : List (String × Option String)}
    (legible : ∀ a ∈ more, LegibleAttribute a) :
    ∃ q, feed p (more.flatMap attributeChars) = some ([], q) ∧ Behind tag (as ++ more) q := by
  induction more generalizing as p with
  | nil =>
    rw [List.append_nil]
    exact ⟨p, rfl, behind⟩
  | cons a more ih =>
    obtain ⟨q, here, behind⟩ := behind.feed_attribute (legible a List.mem_cons_self)
    obtain ⟨r, there, behind⟩ := ih behind fun b mem => legible b (List.mem_cons_of_mem _ mem)
    rw [List.append_assoc] at behind
    exact ⟨r, feed_append here there, behind⟩

/-- An opening tag is read up to its end. -/
theorem feed_attributesOf (name : isTagName tag = true) (legible : ∀ a ∈ as, LegibleAttribute a) :
    ∃ q, feed .bracket (tag.toList ++ as.flatMap attributeChars) = some ([], q) ∧
      Behind tag as q := by
  obtain ⟨q, fed, behind⟩ := Behind.feed_attributes (.name : Behind tag _ _) legible
  exact ⟨q, feed_append (feed_openingName name) fed, behind⟩

/-! ## Marks between plain text -/

/-- Between tags the text reads as these marks, with plain text around them. -/
def Emits (s : List Char) (marks : List Token) : Prop :=
  ∀ text, ∃ ts text', feed (.outside text) s = some (ts, .outside text') ∧
    ts.filter Token.isMark = marks

theorem filter_textToken (text : List Char) : (textToken text).filter Token.isMark = [] := by
  unfold textToken
  split <;> rfl

theorem Emits.append {s s' : List Char} {marks marks' : List Token} (first : Emits s marks)
    (second : Emits s' marks') : Emits (s ++ s') (marks ++ marks') := by
  intro text
  obtain ⟨ts, text', fed, same⟩ := first text
  obtain ⟨ts', text'', fed', same'⟩ := second text'
  refine ⟨ts ++ ts', text'', feed_append fed fed', ?_⟩
  rw [List.filter_append, same, same']

theorem emits_plain {s : List Char} (plain : Plain s) : Emits s [] := fun text =>
  ⟨[], text ++ s, feed_run (P := fun c => c ≠ '<' ∧ c ≠ '>')
    (fun s c here => by simp only [step, here.1, here.2, if_false]) plain text, rfl⟩

/-- What stands behind a bracket and ends there makes a mark. -/
theorem emits_of_feed {s : List Char} {mark : Token} (isMark : mark.isMark = true)
    (fed : feed .bracket s = some ([mark], .outside [])) : Emits ('<' :: s) [mark] := by
  intro text
  have bracket : feed (.outside text) ['<'] = some (textToken text, .bracket) :=
    feed_single (by simp only [step, if_true])
  refine ⟨textToken text ++ [mark], [], feed_append bracket fed, ?_⟩
  rw [List.filter_append, filter_textToken, List.filter_cons_of_pos isMark]
  rfl

/-- A legible mark is read back from its text. -/
theorem emits_written {mark : Token} (legible : mark.Legible) (isMark : mark.isMark = true) :
    Emits mark.written [mark] := by
  cases mark with
  | text s => cases isMark
  | opening tag as =>
    obtain ⟨q, fed, behind⟩ := feed_attributesOf legible.1 legible.2
    exact emits_of_feed rfl (feed_append fed (feed_single behind.step_end))
  | closing tag =>
    have slash : feed .bracket ['/'] = some ([], .closingName []) := rfl
    have close : step (.closingName tag.toList) '>' = some ([.closing tag], .outside []) := by
      simp only [step, if_true, String.ofList_toList]
    exact emits_of_feed rfl
      (feed_append (feed_append slash (feed_closingName legible)) (feed_single close))
  | selfClosed tag as =>
    obtain ⟨q, fed, behind⟩ := feed_attributesOf legible.1 legible.2
    have slash : step (.attributeName tag.toList as []) '/' = some ([], .slash tag.toList as) := rfl
    have close : step (.slash tag.toList as) '>' = some ([.selfClosed tag as], .outside []) := by
      simp only [step, if_true, String.ofList_toList]
    exact emits_of_feed rfl (feed_append fed (feed_append (feed_single behind.step_blank)
      (feed_append (feed_single slash) (feed_single close))))
  | comment s =>
    have body : feed (.comment []) (s.toList ++ ['-', '-']) =
        some ([], .comment (s.toList ++ ['-', '-'])) := by
      refine feed_run (p := .comment) (P := (· ≠ '>'))
        (fun s c here => by simp only [step, here, if_false]) (fun c mem => ?_) []
      rcases List.mem_append.mp mem with inside | hyphen
      · exact legible c inside
      · rintro rfl
        exact absurd hyphen (by decide)
    have close : step (.comment (s.toList ++ ['-', '-'])) '>' =
        some ([.comment s], .outside []) := by
      simp only [step, if_true, Text.dropBack?_eq_some_iff.mpr rfl, Option.map_some,
        String.ofList_toList]
    have start : feed .bracket ['!', '-', '-'] = some ([], .comment []) := rfl
    have whole := feed_append start (feed_append body (feed_single close))
    rw [List.append_assoc] at whole
    exact emits_of_feed rfl whole

/-- The text in front makes no difference to the marks that are read behind it. -/
theorem feed_outside_of_feed (text' : List Char) {s text rest : List Char} {ts : List Token}
    (fed : feed (.outside text) s = some (ts, .outside rest)) :
    ∃ ts' rest', feed (.outside text') s = some (ts', .outside rest') ∧
      ts'.filter Token.isMark = ts.filter Token.isMark := by
  -- The texts differ up to the first bracket; behind it the reader stands at the same position.
  induction s generalizing text text' ts with
  | nil =>
    cases fed
    exact ⟨[], text', rfl, rfl⟩
  | cons c s ih =>
    obtain ⟨⟨first, middle⟩, one, later⟩ := Option.bind_eq_some_iff.mp fed
    obtain ⟨⟨more, q⟩, there, same⟩ := Option.map_eq_some_iff.mp later
    cases same
    simp only [step] at one
    split at one
    next opens =>
      cases one
      have bracket : step (.outside text') c = some (textToken text', .bracket) := by
        simp only [step, if_pos opens]
      refine ⟨textToken text' ++ more, rest, feed_append (feed_single bracket) there, ?_⟩
      rw [List.filter_append, List.filter_append, filter_textToken, filter_textToken]
    next notOpens =>
      split at one
      next => cases one
      next notCloses =>
        cases one
        have longer : step (.outside text') c = some ([], .outside (text' ++ [c])) := by
          simp only [step, if_neg notOpens, if_neg notCloses]
        obtain ⟨ts', rest', fed', same⟩ := ih (text' ++ [c]) there
        exact ⟨ts', rest', feed_append (feed_single longer) fed', same⟩

/-- A text that is markup reads as its marks wherever a reader meets it between tags. -/
theorem emits_of_read? {s : String} {ts : List Token} (read : Html.read? s = some ts) :
    Emits s.toList (ts.filter Token.isMark) := by
  intro text
  unfold Html.read? at read
  split at read
  next tokens rest fed =>
    cases read
    obtain ⟨ts', rest', fed', same⟩ := feed_outside_of_feed text fed
    refine ⟨ts', rest', fed', ?_⟩
    rw [same, List.filter_append, filter_textToken, List.append_nil]
  next => cases read

/-- A text that reads as marks is markup with these marks. -/
theorem Emits.read? {s : String} {marks : List Token} (emits : Emits s.toList marks) :
    ∃ ts, Html.read? s = some ts ∧ ts.filter Token.isMark = marks := by
  obtain ⟨ts, text, fed, same⟩ := emits []
  refine ⟨ts ++ textToken text, ?_, ?_⟩
  · simp only [Html.read?, fed]
  · rw [List.filter_append, same, filter_textToken, List.append_nil]

end PageStudio.Html
