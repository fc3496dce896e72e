import PageStudio.Html.Markup
import PageStudio.Proofs.Html.Marks
import PageStudio.Text.Blank

/-!
# Trees of markup read back

Whatever a tree is written with, a reader finds the marks of the tree in its text, nested as the
tree is. What is needed of the tree concerns the names of its tags and attributes alone; the texts
in it may be any.

## Main statements

* `read?_write`: the marks that are read in the text of blocks are the marks of the blocks.
-/

namespace PageStudio.Html

/-! ## The marks of a tree -/

/-- An attribute as a reader sees it. -/
def Attribute.asRead : Attribute → String × Option String
  | value name text => (name, some (escape text))
  | flag name => (name, none)

mutual
/-- The tags and comments of markup inside a line. -/
def Inline.marks : Inline → List Token
  | .text _ | .entity _ => []
  | .comment s => [.comment (" " ++ escapeComment s ++ " ")]
  | .element tag attributes content =>
    .opening tag (attributes.map Attribute.asRead) :: contentMarks content ++ [.closing tag]
  | .empty tag attributes => [.selfClosed tag (attributes.map Attribute.asRead)]

/-- The tags and comments in the content of an element. -/
def contentMarks : List Inline → List Token
  | [] => []
  | i :: rest => i.marks ++ contentMarks rest
end

mutual
/-- The tags and comments of a block. -/
def Block.marks : Block → List Token
  | .line content => content.marks
  | .group tag attributes content =>
    .opening tag (attributes.map Attribute.asRead) :: blocksMarks content ++ [.closing tag]

/-- The tags and comments of blocks. -/
def blocksMarks : List Block → List Token
  | [] => []
  | b :: rest => b.marks ++ blocksMarks rest
end

/-! ## The names in a tree -/

section Proper

variable (ok : String × Option String → Prop)

/-- The tag is that of an element with content, and its attributes are as asked for. -/
def ProperTag (tag : String) (attributes : List Attribute) : Prop :=
  (isTagName tag && !isVoid tag) = true ∧ ∀ a ∈ attributes, ok a.asRead

mutual
/-- All tags in the markup have names, the elements without content being the void ones, and all
attributes are as asked for. -/
def Inline.Proper : Inline → Prop
  | .text _ | .comment _ => True
  | .entity name => Plain name.toList
  | .element tag attributes content => ProperTag ok tag attributes ∧ ContentProper content
  | .empty tag attributes =>
    (isTagName tag && isVoid tag) = true ∧ ∀ a ∈ attributes, ok a.asRead

/-- All markup in a content is proper. -/
def ContentProper : List Inline → Prop
  | [] => True
  | i :: rest => i.Proper ∧ ContentProper rest
end

mutual
/-- All markup in a block is proper. -/
def Block.Proper : Block → Prop
  | .line content => content.Proper ok
  | .group tag attributes content => ProperTag ok tag attributes ∧ BlocksProper content

/-- All markup in blocks is proper. -/
def BlocksProper : List Block → Prop
  | [] => True
  | b :: rest => b.Proper ∧ BlocksProper rest
end

end Proper

section

variable {ok : String × Option String → Prop}

theorem contentProper_iff {content : List Inline} :
    ContentProper ok content ↔ ∀ i ∈ content, i.Proper ok := by
  induction content with
  | nil => exact ⟨fun _ => nofun, fun _ => trivial⟩
  | cons i rest ih => rw [ContentProper, ih, List.forall_mem_cons]

theorem blocksProper_iff {blocks : List Block} :
    BlocksProper ok blocks ↔ ∀ b ∈ blocks, b.Proper ok := by
  induction blocks with
  | nil => exact ⟨fun _ => nofun, fun _ => trivial⟩
  | cons b rest ih => rw [BlocksProper, ih, List.forall_mem_cons]

theorem contentProper_map {α : Type} {f : α → Inline} {l : List α} :
    ContentProper ok (l.map f) ↔ ∀ x ∈ l, (f x).Proper ok :=
  contentProper_iff.trans List.forall_mem_map

theorem blocksProper_append {front back : List Block} :
    BlocksProper ok (front ++ back) ↔ BlocksProper ok front ∧ BlocksProper ok back := by
  simp only [blocksProper_iff, List.forall_mem_append]

theorem blocksProper_map {α : Type} {f : α → Block} {l : List α} :
    BlocksProper ok (l.map f) ↔ ∀ x ∈ l, (f x).Proper ok :=
  blocksProper_iff.trans List.forall_mem_map

/-! ### Asking less of attributes -/

variable {ok' : String × Option String → Prop}

theorem ProperTag.imp (less : ∀ a, ok a → ok' a) {tag : String} {attributes : List Attribute}
    (proper : ProperTag ok tag attributes) : ProperTag ok' tag attributes :=
  ⟨proper.1, fun a mem => less _ (proper.2 a mem)⟩

mutual
theorem Inline.Proper.imp (less : ∀ a, ok a → ok' a) : {i : Inline} → i.Proper ok → i.Proper ok'
  | .text _, _ | .comment _, _ => trivial
  | .entity _, proper => proper
  | .element _ _ _, proper => ⟨proper.1.imp less, ContentProper.imp less proper.2⟩
  | .empty _ _, proper => ⟨proper.1, fun a mem => less _ (proper.2 a mem)⟩

theorem ContentProper.imp (less : ∀ a, ok a → ok' a) : {content : List Inline} →
    ContentProper ok content → ContentProper ok' content
  | [], _ => trivial
  | _ :: _, proper => ⟨proper.1.imp less, ContentProper.imp less proper.2⟩
end

mutual
theorem Block.Proper.imp (less : ∀ a, ok a → ok' a) : {b : Block} → b.Proper ok → b.Proper ok'
  | .line _, proper => Inline.Proper.imp less proper
  | .group _ _ _, proper => ⟨proper.1.imp less, BlocksProper.imp less proper.2⟩

theorem BlocksProper.imp (less : ∀ a, ok a → ok' a) : {blocks : List Block} →
    BlocksProper ok blocks → BlocksProper ok' blocks
  | [], _ => trivial
  | _ :: _, proper => ⟨proper.1.imp less, BlocksProper.imp less proper.2⟩
end

/-! ## The text of a tree -/

theorem toList_concat (texts : List String) :
    (Css.concat texts).toList = texts.flatMap String.toList := by
  induction texts with
  | nil => rfl
  | cons s rest ih =>
    rw [List.flatMap_cons, ← ih, ← String.toList_append]
    rfl

theorem toList_attributesText (attributes : List Attribute) :
    (attributesText attributes).toList =
      (attributes.map Attribute.asRead).flatMap attributeChars := by
  have one : ∀ a : Attribute, a.written.toList = attributeChars a.asRead := by
    rintro (⟨name, text⟩ | name)
    · simp [Attribute.written, Attribute.asRead, attributeChars]
    · simp [Attribute.written, Attribute.asRead, attributeChars]
  rw [attributesText, toList_concat, List.flatMap_map, List.flatMap_map]
  exact congrArg (attributes.flatMap ·) (funext one)

theorem toList_openTag (tag : String) (attributes : List Attribute) :
    (openTag tag attributes).toList =
      (Token.opening tag (attributes.map Attribute.asRead)).written := by
  simp [openTag, Token.written, toList_attributesText]

theorem toList_closeTag (tag : String) :
    (closeTag tag).toList = (Token.closing tag).written := by
  simp [closeTag, Token.written]

theorem toList_empty (tag : String) (attributes : List Attribute) :
    (Inline.empty tag attributes).written.toList =
      (Token.selfClosed tag (attributes.map Attribute.asRead)).written := by
  simp [Inline.written, Token.written, toList_attributesText]

theorem toList_comment (s : String) :
    (Inline.comment s).written.toList =
      (Token.comment (" " ++ escapeComment s ++ " ")).written := by
  simp [Inline.written, Token.written]

/-! ## Fragments -/

/-- The attributes of a tag. -/
def Token.attributes : Token → List (String × Option String)
  | opening _ as | selfClosed _ as => as
  | _ => []

/-- The marks leave open what was open before. -/
def Balanced (marks : List Token) : Prop :=
  ∀ around rest, Nested around rest → Nested around (marks ++ rest)

variable (ok) in
/-- A text that reads as marks that are closed in themselves. -/
structure Fragment (s : List Char) (marks : List Token) : Prop where
  emits : Emits s marks
  balanced : Balanced marks
  legible : ∀ m ∈ marks, m.Legible
  attributes : ∀ m ∈ marks, ∀ a ∈ m.attributes, ok a

theorem Fragment.plain {s : List Char} (plain : Plain s) : Fragment ok s [] where
  emits := emits_plain plain
  balanced _ _ nested := nested
  legible := nofun
  attributes := nofun

theorem Fragment.append {s s' : List Char} {marks marks' : List Token}
    (first : Fragment ok s marks) (second : Fragment ok s' marks') :
    Fragment ok (s ++ s') (marks ++ marks') where
  emits := first.emits.append second.emits
  balanced around rest nested := by
    rw [List.append_assoc]
    exact first.balanced around _ (second.balanced around rest nested)
  legible m mem := (List.mem_append.mp mem).elim (first.legible m) (second.legible m)
  attributes m mem := (List.mem_append.mp mem).elim (first.attributes m) (second.attributes m)

/-- A mark that opens and closes nothing. -/
theorem Fragment.single {mark : Token} (legible : mark.Legible) (isMark : mark.isMark = true)
    (balanced : Balanced [mark]) (attributes : ∀ a ∈ mark.attributes, ok a) :
    Fragment ok mark.written [mark] where
  emits := emits_written legible isMark
  balanced := balanced
  legible _ mem := List.mem_singleton.mp mem ▸ legible
  attributes _ mem := List.mem_singleton.mp mem ▸ attributes

theorem Fragment.comment (s : String) :
    Fragment ok (Inline.comment s).written.toList (Inline.comment s).marks := by
  rw [toList_comment, Inline.marks]
  refine .single (fun c mem => ?_) rfl (fun _ _ nested => nested) nofun
  simp only [String.toList_append, List.mem_append] at mem
  rcases mem with (blank | inside) | blank
  · rw [List.mem_singleton.mp blank]
    decide
  · exact ne_of_mem_escapeComment inside
  · rw [List.mem_singleton.mp blank]
    decide

theorem Fragment.empty {tag : String} {attributes : List Attribute}
    (legible : ∀ a, ok a → LegibleAttribute a) (name : (isTagName tag && isVoid tag) = true)
    (oks : ∀ a ∈ attributes, ok a.asRead) :
    Fragment ok (Inline.empty tag attributes).written.toList
      (Inline.empty tag attributes).marks := by
  obtain ⟨name, void⟩ := (Bool.and_eq_true _ _).mp name
  rw [toList_empty, Inline.marks]
  have each : ∀ a ∈ attributes.map Attribute.asRead, ok a := List.forall_mem_map.mpr oks
  exact .single ⟨name, fun a mem => legible a (each a mem)⟩ rfl
    (fun _ _ nested => ⟨void, nested⟩) each

/-- An element around a fragment, whatever plain text its tags are written with. -/
theorem Fragment.element {tag : String} {attributes : List Attribute} {front s back : List Char}
    {marks : List Token} (legible : ∀ a, ok a → LegibleAttribute a)
    (proper : ProperTag ok tag attributes)
    (front_emits : ∀ m, Emits (openTag tag attributes).toList [m] → Emits front [m])
    (back_emits : ∀ m, Emits (closeTag tag).toList [m] → Emits back [m])
    (inner : Fragment ok s marks) :
    Fragment ok (front ++ s ++ back)
      (.opening tag (attributes.map Attribute.asRead) :: marks ++ [.closing tag]) := by
  obtain ⟨name, oks⟩ := proper
  obtain ⟨name, notVoid⟩ := (Bool.and_eq_true _ _).mp name
  have each : ∀ a ∈ attributes.map Attribute.asRead, ok a := List.forall_mem_map.mpr oks
  have opening : (Token.opening tag (attributes.map Attribute.asRead)).Legible :=
    ⟨name, fun a mem => legible a (each a mem)⟩
  have closing : (Token.closing tag).Legible := name
  refine ⟨?_, ?_, ?_, ?_⟩
  · have first := front_emits _ (toList_openTag tag attributes ▸ emits_written opening rfl)
    have last := back_emits _ (toList_closeTag tag ▸ emits_written closing rfl)
    exact (first.append inner.emits).append last
  · intro around rest nested
    refine ⟨(Bool.not_eq_true' _).mp notVoid, ?_⟩
    show Nested (tag :: around) (marks ++ [.closing tag] ++ rest)
    rw [List.append_assoc]
    exact inner.balanced _ _ ⟨around, rfl, nested⟩
  · simp only [List.cons_append, List.forall_mem_cons, List.forall_mem_append]
    exact ⟨opening, inner.legible, closing, nofun⟩
  · simp only [List.cons_append, List.forall_mem_cons, List.forall_mem_append]
    exact ⟨each, inner.attributes, nofun, nofun⟩

/-! ## From the tree to its text -/

mutual
/-- Markup inside a line reads as its marks. -/
theorem Inline.fragment (legible : ∀ a, ok a → LegibleAttribute a) : (i : Inline) →
    i.Proper ok → Fragment ok i.written.toList i.marks
  | .text s, _ => .plain fun c mem => by
    have char := isValueChar_of_mem_escape mem
    exact ⟨ne_of_class char (by decide), ne_of_class char (by decide)⟩
  | .entity name, proper => by
    refine .plain ?_
    simp only [Inline.written, String.toList_append]
    exact .append (.append (by decide) proper) (by decide)
  | .comment s, _ => .comment s
  | .element tag attributes content, ⟨proper, inner⟩ => by
    simp only [Inline.written, String.toList_append]
    exact .element legible proper (fun _ => id) (fun _ => id)
      (contentFragment legible content inner)
  | .empty tag attributes, ⟨name, oks⟩ => .empty legible name oks

theorem contentFragment (legible : ∀ a, ok a → LegibleAttribute a) : (content : List Inline) →
    ContentProper ok content →
    Fragment ok (contentText content).toList (contentMarks content)
  | [], _ => .plain plain_nil
  | i :: rest, ⟨here, there⟩ => by
    rw [contentText, String.toList_append]
    exact (i.fragment legible here).append (contentFragment legible rest there)
end

theorem plain_repeated {s : String} (plain : Plain s.toList) (times : Nat) :
    Plain (repeated s times).toList := by
  intro c mem
  rw [repeated, toList_concat] at mem
  obtain ⟨t, which, inside⟩ := List.mem_flatMap.mp mem
  rw [List.eq_of_mem_replicate which] at inside
  exact plain c inside

/-- A line reads as what stands on it. -/
theorem Emits.line {f : Format} (plain : Plain f.indent.toList) {depth : Nat} {s : String}
    {marks : List Token} (emits : Emits s.toList marks) :
    Emits (f.line (depth, s)).toList marks := by
  unfold Format.line
  split
  next =>
    rw [String.toList_append, String.toList_append]
    have whole := ((emits_plain (plain_repeated plain (f.depth + depth))).append emits).append
      (emits_plain (s := "\n".toList) (by decide))
    rwa [List.append_nil] at whole
  next => exact emits

mutual
/-- The lines of a block read as its marks. -/
theorem Block.fragment {f : Format} (plain : Plain f.indent.toList)
    (legible : ∀ a, ok a → LegibleAttribute a) : (b : Block) → (depth : Nat) → b.Proper ok →
    Fragment ok ((b.lines depth).flatMap fun l => (f.line l).toList) b.marks
  | .line content, depth, proper => by
    simp only [Block.lines, List.flatMap_singleton]
    have inner := content.fragment legible proper
    exact { inner with emits := inner.emits.line plain }
  | .group tag attributes content, depth, ⟨proper, inner⟩ => by
    simp only [Block.lines, List.cons_append, List.flatMap_cons, List.flatMap_append,
      List.flatMap_nil, List.append_nil, ← List.append_assoc]
    exact .element legible proper (fun _ => .line plain) (fun _ => .line plain)
      (blocksFragment plain legible content (depth + 1) inner)

theorem blocksFragment {f : Format} (plain : Plain f.indent.toList)
    (legible : ∀ a, ok a → LegibleAttribute a) : (blocks : List Block) → (depth : Nat) →
    BlocksProper ok blocks → Fragment ok ((linesOf depth blocks).flatMap fun l => (f.line l).toList)
      (blocksMarks blocks)
  | [], _, _ => .plain plain_nil
  | b :: rest, depth, ⟨here, there⟩ => by
    rw [linesOf, List.flatMap_append]
    exact (b.fragment plain legible depth here).append
      (blocksFragment plain legible rest depth there)
end

/-- The marks that are read in the text of blocks are the marks of the blocks. -/
theorem read?_write {f : Format} (plain : Plain f.indent.toList)
    (legible : ∀ a, ok a → LegibleAttribute a) {blocks : List Block}
    (proper : BlocksProper ok blocks) :
    ∃ ts, read? (write f blocks) = some ts ∧ ts.filter Token.isMark = blocksMarks blocks ∧
      Nested [] ts ∧ ∀ t ∈ ts, t.Legible ∧ ∀ a ∈ t.attributes, ok a := by
  have whole := blocksFragment plain legible blocks 0 proper
  have text : (write f blocks).toList =
      (linesOf 0 blocks).flatMap fun l => (f.line l).toList := by
    rw [write, toList_concat, List.flatMap_map]
  obtain ⟨ts, read, marks⟩ := (text ▸ whole.emits).read?
  refine ⟨ts, read, marks, ?_, fun t mem => ?_⟩
  · rw [← nested_filter, marks]
    exact List.append_nil (blocksMarks blocks) ▸ whole.balanced [] [] rfl
  · -- Texts are plain because they were read, marks are legible because the tree's are.
    cases isMark : t.isMark with
    | false =>
      cases t with
      | text s => exact ⟨plain_of_read? read s mem, nofun⟩
      | _ => cases isMark
    | true =>
      have among : t ∈ blocksMarks blocks := marks ▸ List.mem_filter.mpr ⟨mem, isMark⟩
      exact ⟨whole.legible t among, whole.attributes t among⟩

end

end PageStudio.Html
