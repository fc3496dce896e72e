import Mathlib.Data.List.Basic
import PageStudio.Css.Sheet
import PageStudio.Proofs.Text.Piece
import PageStudio.Style.Token

/-!
# Reading style sheets

A reader that knows of nothing but braces, semicolons and the colon of a declaration. What stands in
front of an opening brace begins a block, what stands in front of a semicolon is a declaration, and
a closing brace ends the innermost block. A style sheet in whose texts none of these characters
stands is read as its own rules (`statements?_text`).
-/

namespace PageStudio.Css

open Style

/-! ## Statements -/

/-- What a style sheet is read as. -/
inductive Statement where
  | declaration (name value : String)
  /-- Statements between braces, with the text in front of them. -/
  | block (prelude : String) (body : List Statement)

/-- Whether a character may stand beside a delimiter without being part of the text there. -/
def isLayout (c : Char) : Bool := c == ' ' || c == '\n'

/-- A text without one layout character at its front. -/
def dropLayout : List Char → List Char
  | [] => []
  | c :: s => if isLayout c then s else c :: s

/-- The text in front of an opening brace. -/
def preludeOf (piece : List Char) : String :=
  String.ofList (dropLayout (dropLayout piece).reverse).reverse

/-- The declaration in front of a semicolon, whose name ends at the first colon. -/
def declarationOf? (piece : List Char) : Option Statement :=
  match (dropLayout piece).dropWhile (· != ':') with
  | [] => none
  | _ :: value => some (.declaration (String.ofList ((dropLayout piece).takeWhile (· != ':')))
      (String.ofList (dropLayout value)))

/-- Where a reader stands. -/
structure Reading where
  /-- What has been read behind the last delimiter. -/
  piece : List Char := []
  /-- The statements of the innermost block so far. -/
  done : List Statement := []
  /-- The blocks around it, the innermost first, with the statements in front of each. -/
  around : List (String × List Statement) := []

/-- One character read. -/
def step (r : Reading) (c : Char) : Option Reading :=
  if c = '\x7b' then some ⟨[], [], (preludeOf r.piece, r.done) :: r.around⟩
  else if c = ';' then (declarationOf? r.piece).map fun d => ⟨[], r.done ++ [d], r.around⟩
  else if c = '\x7d' then
    match dropLayout r.piece, r.around with
    | [], (prelude, before) :: around => some ⟨[], before ++ [.block prelude r.done], around⟩
    | _, _ => none
  else some { r with piece := r.piece ++ [c] }

/-- The statements of a style sheet, if all its blocks are closed and no text is left over. -/
def statements? (s : String) : Option (List Statement) :=
  match s.toList.foldlM step {} with
  | some ⟨piece, done, []⟩ => if dropLayout piece = [] then some done else none
  | _ => none

/-! ## Pieces -/

/-- Behind nothing but layout, a text that does not start with layout is the whole piece. -/
theorem dropLayout_append {piece s : List Char} {c : Char} (ready : dropLayout piece = [])
    (first : isLayout c = false) : dropLayout (piece ++ c :: s) = c :: s := by
  cases piece with
  | nil =>
    rw [List.nil_append, dropLayout, first]
    rfl
  | cons d piece =>
    rw [dropLayout] at ready
    split at ready
    next layout =>
      rw [ready, List.cons_append, dropLayout, if_pos layout, List.nil_append]
    next => cases ready

theorem foldlM_step_cons {r r' : Reading} {c : Char} (one : step r c = some r') (s : List Char) :
    (c :: s).foldlM step r = s.foldlM step r' := by
  rw [List.foldlM_cons, one]
  rfl

/-- What has no delimiter in it only makes the piece longer. -/
theorem foldlM_step_plain {s : List Char} (plain : ∀ c ∈ s, isDelimiter c = false)
    (r : Reading) : s.foldlM step r = some { r with piece := r.piece ++ s } := by
  induction s generalizing r with
  | nil => rw [List.append_nil]; rfl
  | cons c s ih =>
    have here := plain c List.mem_cons_self
    simp only [isDelimiter, Bool.or_eq_false_iff, decide_eq_false_iff_not] at here
    have one : step r c = some { r with piece := r.piece ++ [c] } := by
      rw [step, if_neg here.1.2, if_neg here.1.1, if_neg here.2]
    rw [foldlM_step_cons one, ih fun d mem => plain d (List.mem_cons_of_mem _ mem)]
    simp only [List.append_assoc, List.cons_append, List.nil_append]

/-! ## Texts that add statements -/

/-- Wherever a reader stands with no text pending, a text adds statements to the innermost block and
leaves no text pending. -/
def Adds (s : List Char) (new : List Statement) : Prop :=
  ∀ r : Reading, dropLayout r.piece = [] → ∃ piece, dropLayout piece = [] ∧
    s.foldlM step r = some ⟨piece, r.done ++ new, r.around⟩

theorem adds_nil : Adds [] [] := fun r ready => ⟨r.piece, ready, by rw [List.append_nil]; rfl⟩

theorem Adds.append {s t : List Char} {ss ts : List Statement} (first : Adds s ss)
    (second : Adds t ts) : Adds (s ++ t) (ss ++ ts) := by
  intro r ready
  obtain ⟨piece, ready', here⟩ := first r ready
  obtain ⟨piece', ready'', there⟩ := second ⟨piece, r.done ++ ss, r.around⟩ ready'
  refine ⟨piece', ready'', ?_⟩
  rw [List.foldlM_append, here]
  refine there.trans ?_
  rw [List.append_assoc]

/-- Texts one behind another add their statements in turn. -/
theorem adds_concat {α : Type} {l : List α} {text : α → String} {read : α → Statement}
    (each : ∀ a ∈ l, Adds (text a).toList [read a]) :
    Adds (concat (l.map text)).toList (l.map read) := by
  induction l with
  | nil => exact adds_nil
  | cons a l ih =>
    have rest := ih fun b mem => each b (List.mem_cons_of_mem _ mem)
    show Adds (text a ++ concat (l.map text)).toList _
    rw [String.toList_append]
    exact (each a List.mem_cons_self).append rest

/-- No character of a text is a delimiter. -/
def Plain (s : String) : Prop := ∀ c ∈ s.toList, isDelimiter c = false

-- Named, since the one over all characters is found as well and does not come to an end.
instance (s : String) : Decidable (Plain s) := List.decidableBAll _ _

theorem Plain.append {s t : String} (front : Plain s) (back : Plain t) : Plain (s ++ t) := by
  unfold Plain
  rw [String.toList_append]
  exact List.forall_mem_append.mpr ⟨front, back⟩

/-- A text may stand in front of a brace: it is plain and starts with something that is not
layout. -/
structure LegiblePrelude (s : String) : Prop where
  plain : Plain s
  start : ∃ c rest, s.toList = c :: rest ∧ isLayout c = false

theorem legiblePrelude_iff {s : String} :
    LegiblePrelude s ↔ Plain s ∧ (s.toList.head?.any fun c => !isLayout c) = true := by
  constructor
  · rintro ⟨plain, c, rest, chars, first⟩
    simp [plain, chars, first]
  · rintro ⟨plain, start⟩
    cases chars : s.toList with
    | nil => simp [chars] at start
    | cons c rest => exact ⟨plain, c, rest, chars, by simpa [chars] using start⟩

instance (s : String) : Decidable (LegiblePrelude s) :=
  decidable_of_iff _ legiblePrelude_iff.symm

/-- A text is a word in front of a colon: no character of it is a delimiter, a colon or layout. -/
def NamesDeclaration (s : String) : Prop :=
  ∀ c ∈ s.toList, isDelimiter c = false ∧ c ≠ ':' ∧ isLayout c = false

instance (s : String) : Decidable (NamesDeclaration s) := List.decidableBAll _ _

/-- A declaration can be told from what stands around it. -/
structure LegibleDeclaration (d : Declaration) : Prop where
  name : NamesDeclaration d.1
  value : Plain d.2

instance (d : Declaration) : Decidable (LegibleDeclaration d) :=
  decidable_of_iff (NamesDeclaration d.1 ∧ Plain d.2)
    ⟨fun h => ⟨h.1, h.2⟩, fun h => ⟨h.name, h.value⟩⟩

/-- The text of a declaration without what ends it. -/
def declarationPiece (d : Declaration) : List Char := d.1.toList ++ ':' :: ' ' :: d.2.toList

theorem plain_declarationPiece {d : Declaration} (legible : LegibleDeclaration d) :
    ∀ c ∈ declarationPiece d, isDelimiter c = false := by
  refine List.forall_mem_append.mpr ⟨fun c mem => (legible.name c mem).1, ?_⟩
  exact List.forall_mem_cons.mpr ⟨rfl, List.forall_mem_cons.mpr ⟨rfl, legible.value⟩⟩

theorem declarationOf?_eq {d : Declaration} (legible : LegibleDeclaration d) {piece : List Char}
    (ready : dropLayout piece = []) :
    declarationOf? (piece ++ declarationPiece d) = some (.declaration d.1 d.2) := by
  have whole : dropLayout (piece ++ declarationPiece d) = declarationPiece d := by
    unfold declarationPiece
    cases chars : d.1.toList with
    | nil => exact dropLayout_append ready rfl
    | cons c name =>
      exact dropLayout_append ready (legible.name c (chars ▸ List.mem_cons_self)).2.2
  have before : ∀ c ∈ d.1.toList, (c != ':') = true := fun c mem =>
    bne_iff_ne.mpr (legible.name c mem).2.1
  have name : (declarationPiece d).takeWhile (· != ':') = d.1.toList :=
    (List.takeWhile_append_of_pos before).trans (List.append_nil _)
  have value : (declarationPiece d).dropWhile (· != ':') = ':' :: ' ' :: d.2.toList :=
    List.dropWhile_append_of_pos before
  rw [declarationOf?, whole, name, value]
  show some (Statement.declaration _ (String.ofList d.2.toList)) = _
  rw [String.ofList_toList, String.ofList_toList]

theorem adds_declaration {d : Declaration} (legible : LegibleDeclaration d) :
    Adds (declarationText d).toList [.declaration d.1 d.2] := by
  intro r ready
  have chars : (declarationText d).toList = declarationPiece d ++ [';', ' '] := by
    simp only [declarationText, declarationPiece, String.toList_append, List.append_assoc]
    rfl
  have ended : step { r with piece := r.piece ++ declarationPiece d } ';' =
      some ⟨[], r.done ++ [.declaration d.1 d.2], r.around⟩ := by
    show (declarationOf? (r.piece ++ declarationPiece d)).map _ = _
    rw [declarationOf?_eq legible ready]
    rfl
  refine ⟨[' '], rfl, ?_⟩
  rw [chars, List.foldlM_append, foldlM_step_plain (plain_declarationPiece legible)]
  exact foldlM_step_cons ended [' ']

theorem isDelimiter_of_isLayout {c : Char} (layout : isLayout c = true) :
    isDelimiter c = false := by
  simp only [isLayout, Bool.or_eq_true, beq_iff_eq] at layout
  rcases layout with rfl | rfl
  · rfl
  · rfl

theorem preludeOf_eq {s : String} (legible : LegiblePrelude s) {piece : List Char}
    (ready : dropLayout piece = []) : preludeOf (piece ++ (s.toList ++ [' '])) = s := by
  obtain ⟨c, rest, chars, first⟩ := legible.start
  have whole : dropLayout (piece ++ (s.toList ++ [' '])) = s.toList ++ [' '] := by
    rw [chars]
    exact dropLayout_append ready first
  rw [preludeOf, whole, List.reverse_append]
  show String.ofList s.toList.reverse.reverse = s
  rw [List.reverse_reverse, String.ofList_toList]

/-- A text in front of braces, and between them one that adds statements, make a block. -/
theorem adds_block {s : String} {content : List Char} {body : List Statement}
    (legible : LegiblePrelude s) (inner : Adds content body) (opened closed : Char)
    (opened_layout : isLayout opened = true) (closed_layout : isLayout closed = true) :
    Adds (s.toList ++ ([' ', '\x7b', opened] ++ (content ++ ['\x7d', closed])))
      [.block s body] := by
  intro r ready
  have front : ∀ c ∈ s.toList ++ [' '], isDelimiter c = false :=
    List.forall_mem_append.mpr ⟨legible.plain, List.forall_mem_singleton.mpr rfl⟩
  obtain ⟨piece, ready', inside⟩ :=
    inner ⟨[opened], [], (s, r.done) :: r.around⟩ (if_pos opened_layout)
  have plain : ∀ {c}, isLayout c = true → ∀ d ∈ [c], isDelimiter d = false := fun layout =>
    List.forall_mem_singleton.mpr (isDelimiter_of_isLayout layout)
  have begun : step { r with piece := r.piece ++ (s.toList ++ [' ']) } '\x7b' =
      some ⟨[], [], (s, r.done) :: r.around⟩ := by
    show some (Reading.mk [] [] ((preludeOf _, r.done) :: r.around)) = _
    rw [preludeOf_eq legible ready]
  have ended : step ⟨piece, [] ++ body, (s, r.done) :: r.around⟩ '\x7d' =
      some ⟨[], r.done ++ [.block s body], r.around⟩ := by
    show (match dropLayout piece, (s, r.done) :: r.around with
      | [], (prelude, before) :: around => some (Reading.mk [] (before ++ [_]) around)
      | _, _ => none) = _
    rw [ready']
    rfl
  have rest : ([opened] ++ (content ++ ['\x7d', closed])).foldlM step
      ⟨[], [], (s, r.done) :: r.around⟩ =
        some ⟨[closed], r.done ++ [.block s body], r.around⟩ := by
    rw [List.foldlM_append, foldlM_step_plain (plain opened_layout)]
    show (content ++ ['\x7d', closed]).foldlM step ⟨[opened], [], (s, r.done) :: r.around⟩ = _
    rw [List.foldlM_append, inside]
    exact (foldlM_step_cons ended [closed]).trans (foldlM_step_plain (plain closed_layout) _)
  have cut : s.toList ++ ([' ', '\x7b', opened] ++ (content ++ ['\x7d', closed])) =
      (s.toList ++ [' ']) ++ '\x7b' :: ([opened] ++ (content ++ ['\x7d', closed])) := by
    simp only [List.append_assoc, List.cons_append, List.nil_append]
  refine ⟨[closed], if_pos closed_layout, ?_⟩
  rw [cut, List.foldlM_append, foldlM_step_plain front]
  exact (foldlM_step_cons begun _).trans rest

/-! ## Rules -/

/-- What a rule is read as. -/
def Rule.statement (r : Rule) : Statement :=
  .block r.selector (r.declarations.map fun d => .declaration d.1 d.2)

/-- What a part of a style sheet is read as. -/
def Item.statement : Item → Statement
  | .rule r => r.statement
  | .upToWidth pixels rules =>
    .block ("@media (max-width: " ++ digits pixels ++ "px)") (rules.map Rule.statement)
  | .animation name steps => .block ("@keyframes " ++ name) (steps.map Rule.statement)

/-- The texts of a rule can be told from its delimiters. -/
structure LegibleRule (r : Rule) : Prop where
  selector : LegiblePrelude r.selector
  declarations : ∀ d ∈ r.declarations, LegibleDeclaration d

instance (r : Rule) : Decidable (LegibleRule r) :=
  decidable_of_iff (LegiblePrelude r.selector ∧ ∀ d ∈ r.declarations, LegibleDeclaration d)
    ⟨fun h => ⟨h.1, h.2⟩, fun h => ⟨h.selector, h.declarations⟩⟩

/-- The rules of a part of a style sheet. -/
def Item.rules : Item → List Rule
  | .rule r => [r]
  | .upToWidth _ rules => rules
  | .animation _ steps => steps

/-- The name of an animation. Other parts of a style sheet have none. -/
def Item.name : Item → String
  | .animation name _ => name
  | _ => ""

/-- A rule with layout behind it is read as a block. -/
theorem LegibleRule.adds {r : Rule} (legible : LegibleRule r) {closed : Char}
    (layout : isLayout closed = true) : Adds (r.text.toList ++ [closed]) [r.statement] := by
  have inner : Adds (concat (r.declarations.map declarationText)).toList
      (r.declarations.map fun d => .declaration d.1 d.2) :=
    adds_concat fun d mem => adds_declaration (legible.declarations d mem)
  have block := adds_block legible.selector inner ' ' closed rfl layout
  have chars : r.text.toList ++ [closed] = r.selector.toList ++ ([' ', '\x7b', ' '] ++
      ((concat (r.declarations.map declarationText)).toList ++ ['\x7d', closed])) := by
    simp only [Rule.text, String.toList_append, List.append_assoc]
    rfl
  rw [chars]
  exact block

/-- Rules on lines of their own are read in turn. -/
theorem adds_lines {rules : List Rule} (legible : ∀ r ∈ rules, LegibleRule r) :
    Adds (concat (rules.map Rule.line)).toList (rules.map Rule.statement) := by
  refine adds_concat fun r mem => ?_
  rw [Rule.line, String.toList_append]
  exact (legible r mem).adds rfl

/-- The steps of an animation are read in turn. -/
theorem adds_steps {steps : List Rule} (legible : ∀ r ∈ steps, LegibleRule r) :
    Adds (concat (steps.map fun r => r.text ++ " ")).toList (steps.map Rule.statement) := by
  refine adds_concat fun r mem => ?_
  rw [String.toList_append]
  exact (legible r mem).adds rfl

/-- A text with a plain beginning may stand in front of a brace if its rest is plain as well. -/
theorem LegiblePrelude.append {front back : String} (legible : LegiblePrelude front)
    (plain : Plain back) : LegiblePrelude (front ++ back) := by
  obtain ⟨c, rest, chars, first⟩ := legible.start
  refine ⟨legible.plain.append plain, c, rest ++ back.toList, ?_, first⟩
  rw [String.toList_append, chars, List.cons_append]

/-- No digit is a delimiter. -/
theorem plain_digits (n : Nat) : Plain (digits n) := by
  intro c mem
  rw [digits, String.toList_ofList] at mem
  have absent : ∀ d : Char, d.isDigit = false → c ≠ d := by
    rintro d other rfl
    exact Decimal.not_mem_toDigits other n mem
  simp only [isDelimiter, absent ';' rfl, absent '\x7b' rfl, absent '\x7d' rfl, decide_false,
    Bool.or_self]

theorem Item.text_upToWidth (pixels : Nat) (rules : List Rule) :
    (Item.upToWidth pixels rules).text = "@media (max-width: " ++ digits pixels ++ "px) \x7b\n" ++
      concat (rules.map Rule.line) ++ "\x7d\n" := rfl

theorem Item.text_animation (name : String) (steps : List Rule) :
    (Item.animation name steps).text = "@keyframes " ++ name ++ " \x7b " ++
      concat (steps.map fun r => r.text ++ " ") ++ "\x7d\n" := rfl

theorem Item.adds {i : Item} (named : Plain i.name) (legible : ∀ r ∈ i.rules, LegibleRule r) :
    Adds i.text.toList [i.statement] := by
  cases i with
  | rule r =>
    show Adds r.line.toList [r.statement]
    rw [Rule.line, String.toList_append]
    exact (legible r List.mem_cons_self).adds rfl
  | upToWidth pixels rules =>
    have front : LegiblePrelude "@media (max-width: " := ⟨by decide, '@', _, rfl, rfl⟩
    have head : LegiblePrelude ("@media (max-width: " ++ digits pixels ++ "px)") :=
      (front.append (plain_digits pixels)).append (by decide)
    have block := adds_block head (adds_lines legible) '\n' '\n' rfl rfl
    have opening : "px) \x7b\n".toList = "px)".toList ++ [' ', '\x7b', '\n'] := by decide
    have closing : "\x7d\n".toList = ['\x7d', '\n'] := by decide
    have chars : (Item.upToWidth pixels rules).text.toList =
        ("@media (max-width: " ++ digits pixels ++ "px)").toList ++ ([' ', '\x7b', '\n'] ++
          ((concat (rules.map Rule.line)).toList ++ ['\x7d', '\n'])) := by
      simp only [Item.text_upToWidth, String.toList_append, List.append_assoc, opening, closing]
    rw [chars]
    exact block
  | animation name steps =>
    have front : LegiblePrelude "@keyframes " := ⟨by decide, '@', _, rfl, rfl⟩
    have block := adds_block (front.append named) (adds_steps legible) ' ' '\n' rfl rfl
    have opening : " \x7b ".toList = [' ', '\x7b', ' '] := by decide
    have closing : "\x7d\n".toList = ['\x7d', '\n'] := by decide
    have chars : (Item.animation name steps).text.toList = ("@keyframes " ++ name).toList ++
        ([' ', '\x7b', ' '] ++ ((concat (steps.map fun r => r.text ++ " ")).toList ++
          ['\x7d', '\n'])) := by
      simp only [Item.text_animation, String.toList_append, List.append_assoc, opening, closing]
    rw [chars]
    exact block

/-- A style sheet is read as its parts. -/
theorem statements?_text {sheet : Sheet} (names : ∀ i ∈ sheet, Plain i.name)
    (legible : ∀ i ∈ sheet, ∀ r ∈ i.rules, LegibleRule r) :
    statements? (text sheet) = some (sheet.map Item.statement) := by
  have all : Adds (text sheet).toList (sheet.map Item.statement) :=
    adds_concat fun i mem => Item.adds (names i mem) (legible i mem)
  obtain ⟨piece, ready, read⟩ := all {} rfl
  rw [statements?, read]
  exact if_pos ready

/-- A brace in the place of a value ends the rule. -/
example : statements? "#t \x7b top: 1px; \x7d body \x7b color: red; \x7d\n" =
    some [.block "#t" [.declaration "top" "1px"], .block "body" [.declaration "color" "red"]] := by
  rfl

end PageStudio.Css
