import Mathlib.Data.List.Basic
import PageStudio.Proofs.Text.Piece

/-!
# Reading markup

A reader goes over a text from left to right, one character at a time, and cuts it into tags,
comments and the text between them. It is strict where browsers forgive: a bracket that belongs to
no tag, a value without quotes and a comment with a `>` in it are no markup.

## Main statements

* `written_of_read?`: what is read makes up the whole text.
* `plain_of_read?`: no text that is read has a bracket in it.
* `nested_filter`: whether tags are nested does not depend on the text between them.
-/

namespace PageStudio.Html

/-- A piece of markup. A tag comes with its attributes, those without a value being flags. -/
inductive Token where
  | text (s : String)
  | opening (tag : String) (attributes : List (String × Option String))
  | closing (tag : String)
  | selfClosed (tag : String) (attributes : List (String × Option String))
  | comment (s : String)
deriving DecidableEq, Repr

/-- Where a reader stands, with what it has read of the piece that it is in. -/
inductive Position where
  | outside (text : List Char)
  /-- Behind a bracket that opens. -/
  | bracket
  | closingName (name : List Char)
  | openingName (name : List Char)
  /-- Behind a blank in a tag, where an attribute or the end of the tag may follow. -/
  | attributeName (tag : List Char) (attributes : List (String × Option String)) (name : List Char)
  | equals (tag : List Char) (attributes : List (String × Option String)) (name : List Char)
  | value (tag : List Char) (attributes : List (String × Option String)) (name value : List Char)
  /-- Behind a value. -/
  | quoted (tag : List Char) (attributes : List (String × Option String))
  | slash (tag : List Char) (attributes : List (String × Option String))
  | bang
  | hyphen
  | comment (body : List Char)
deriving DecidableEq, Repr

/-- A text that has ended, unless there is none. -/
def textToken (text : List Char) : List Token :=
  if text.isEmpty then [] else [.text (String.ofList text)]

/-- What one character makes of a position: the pieces that it ends, and the next position. -/
def step : Position → Char → Option (List Token × Position)
  | .outside text, c =>
    if c = '<' then some (textToken text, .bracket)
    else if c = '>' then none
    else some ([], .outside (text ++ [c]))
  | .bracket, c =>
    if c = '/' then some ([], .closingName [])
    else if c = '!' then some ([], .bang)
    else if c.isAlphanum then some ([], .openingName [c])
    else none
  | .closingName name, c =>
    if c = '>' then some ([.closing (String.ofList name)], .outside [])
    else if c.isAlphanum then some ([], .closingName (name ++ [c]))
    else none
  | .openingName name, c =>
    if c = ' ' then some ([], .attributeName name [] [])
    else if c = '>' then some ([.opening (String.ofList name) []], .outside [])
    else if c.isAlphanum then some ([], .openingName (name ++ [c]))
    else none
  | .attributeName tag as name, c =>
    if c = '=' then some ([], .equals tag as name)
    else if Text.isNameChar c then some ([], .attributeName tag as (name ++ [c]))
    else if name.isEmpty then if c = '/' then some ([], .slash tag as) else none
    else if c = ' ' then some ([], .attributeName tag (as ++ [(String.ofList name, none)]) [])
    else if c = '>' then
      some ([.opening (String.ofList tag) (as ++ [(String.ofList name, none)])], .outside [])
    else none
  | .equals tag as name, c => if c = '"' then some ([], .value tag as name []) else none
  | .value tag as name value, c =>
    if c = '"' then
      some ([], .quoted tag (as ++ [(String.ofList name, some (String.ofList value))]))
    else if c = '<' ∨ c = '>' then none
    else some ([], .value tag as name (value ++ [c]))
  | .quoted tag as, c =>
    if c = ' ' then some ([], .attributeName tag as [])
    else if c = '>' then some ([.opening (String.ofList tag) as], .outside [])
    else none
  | .slash tag as, c =>
    if c = '>' then some ([.selfClosed (String.ofList tag) as], .outside []) else none
  | .bang, c => if c = '-' then some ([], .hyphen) else none
  | .hyphen, c => if c = '-' then some ([], .comment []) else none
  | .comment body, c =>
    if c = '>' then
      (Text.dropBack? ['-', '-'] body).map fun s => ([.comment (String.ofList s)], .outside [])
    else some ([], .comment (body ++ [c]))

/-- What characters make of a position. -/
def feed : Position → List Char → Option (List Token × Position)
  | p, [] => some ([], p)
  | p, c :: cs =>
    (step p c).bind fun r => (feed r.2 cs).map fun r' => (r.1 ++ r'.1, r'.2)

/-- The pieces of markup, if the text is nothing else. -/
def read? (s : String) : Option (List Token) :=
  match feed (.outside []) s.toList with
  | some (tokens, .outside text) => some (tokens ++ textToken text)
  | _ => none

theorem feed_append {p q r : Position} {s s' : List Char} {ts us : List Token}
    (first : feed p s = some (ts, q)) (then_ : feed q s' = some (us, r)) :
    feed p (s ++ s') = some (ts ++ us, r) := by
  induction s generalizing p ts with
  | nil =>
    cases first
    exact then_
  | cons c s ih =>
    obtain ⟨⟨one, middle⟩, here, rest⟩ := Option.bind_eq_some_iff.mp first
    obtain ⟨⟨more, q'⟩, there, same⟩ := Option.map_eq_some_iff.mp rest
    cases same
    simp only [List.cons_append, feed, here, Option.bind_some, ih there, Option.map_some,
      List.append_assoc]

theorem feed_single {p q : Position} {c : Char} {ts : List Token}
    (one : step p c = some (ts, q)) : feed p [c] = some (ts, q) := by
  simp only [feed, one, Option.bind_some, Option.map_some, List.append_nil]

/-- Characters that only make the piece longer that the reader is in. -/
theorem feed_run {p : List Char → Position} {P : Char → Prop}
    (one : ∀ s c, P c → step (p s) c = some ([], p (s ++ [c]))) {cs : List Char}
    (all : ∀ c ∈ cs, P c) (s : List Char) : feed (p s) cs = some ([], p (s ++ cs)) := by
  induction cs generalizing s with
  | nil =>
    rw [List.append_nil]
    rfl
  | cons c cs ih =>
    have tail := ih (fun d hd => all d (List.mem_cons_of_mem _ hd)) (s ++ [c])
    rw [List.append_assoc] at tail
    exact feed_append (s := [c]) (feed_single (one s c (all c List.mem_cons_self))) tail

/-! ## What is read makes up the text -/

/-- The text of an attribute, with the blank in front of it. -/
def attributeChars (a : String × Option String) : List Char :=
  match a.2 with
  | some value => ' ' :: a.1.toList ++ ('=' :: '"' :: value.toList ++ ['"'])
  | none => ' ' :: a.1.toList

/-- The text of a piece of markup. -/
def Token.written : Token → List Char
  | text s => s.toList
  | opening tag as => '<' :: tag.toList ++ as.flatMap attributeChars ++ ['>']
  | closing tag => '<' :: '/' :: tag.toList ++ ['>']
  | selfClosed tag as => '<' :: tag.toList ++ as.flatMap attributeChars ++ [' ', '/', '>']
  | comment s => '<' :: '!' :: '-' :: '-' :: s.toList ++ ['-', '-', '>']

/-- What has been read of the piece that a reader is in. -/
def Position.pending : Position → List Char
  | outside text => text
  | bracket => ['<']
  | closingName name => '<' :: '/' :: name
  | openingName name => '<' :: name
  | attributeName tag as name => '<' :: tag ++ as.flatMap attributeChars ++ ' ' :: name
  | equals tag as name => '<' :: tag ++ as.flatMap attributeChars ++ ' ' :: name ++ ['=']
  | value tag as name text =>
    '<' :: tag ++ as.flatMap attributeChars ++ ' ' :: name ++ '=' :: '"' :: text
  | quoted tag as => '<' :: tag ++ as.flatMap attributeChars
  | slash tag as => '<' :: tag ++ as.flatMap attributeChars ++ [' ', '/']
  | bang => ['<', '!']
  | hyphen => ['<', '!', '-']
  | comment body => '<' :: '!' :: '-' :: '-' :: body

theorem written_textToken (text : List Char) : (textToken text).flatMap Token.written = text := by
  cases text with
  | nil => rfl
  | cons c text =>
    show (String.ofList (c :: text)).toList ++ [] = _
    rw [String.toList_ofList, List.append_nil]

/-- No character is lost. -/
theorem written_of_step {p q : Position} {c : Char} {ts : List Token}
    (one : step p c = some (ts, q)) :
    ts.flatMap Token.written ++ q.pending = p.pending ++ [c] := by
  cases p with
  | comment body =>
    simp only [step] at one
    split at one
    next last =>
      obtain ⟨s, found, same⟩ := Option.map_eq_some_iff.mp one
      cases same
      rw [Text.dropBack?_eq_some_iff.mp found, last]
      simp [Token.written, Position.pending]
    next =>
      cases one
      simp [Position.pending]
  | _ =>
    simp only [step] at one
    repeat' split at one
    all_goals cases one
    all_goals simp_all [Token.written, Position.pending, attributeChars, written_textToken]

theorem written_of_feed {p q : Position} {cs : List Char} {ts : List Token}
    (fed : feed p cs = some (ts, q)) :
    ts.flatMap Token.written ++ q.pending = p.pending ++ cs := by
  induction cs generalizing p ts with
  | nil =>
    cases fed
    exact (List.append_nil _).symm
  | cons c cs ih =>
    obtain ⟨⟨first, middle⟩, one, rest⟩ := Option.bind_eq_some_iff.mp fed
    obtain ⟨⟨more, q'⟩, there, same⟩ := Option.map_eq_some_iff.mp rest
    cases same
    rw [List.flatMap_append, List.append_assoc, ih there, ← List.append_assoc,
      written_of_step one, List.append_assoc]
    rfl

/-- The pieces that are read make up the text. -/
theorem written_of_read? {s : String} {ts : List Token} (read : read? s = some ts) :
    ts.flatMap Token.written = s.toList := by
  unfold read? at read
  split at read
  next tokens text fed =>
    cases read
    rw [List.flatMap_append, written_textToken]
    exact written_of_feed fed
  next => cases read

/-! ## Texts are plain -/

/-- A text has no bracket in it. -/
def Plain (s : List Char) : Prop := ∀ c ∈ s, c ≠ '<' ∧ c ≠ '>'

instance (s : List Char) : Decidable (Plain s) :=
  List.decidableBAll (fun c => c ≠ '<' ∧ c ≠ '>') s

theorem plain_nil : Plain [] := nofun

theorem Plain.append {s t : List Char} (first : Plain s) (second : Plain t) : Plain (s ++ t) := by
  intro c mem
  rcases List.mem_append.mp mem with here | there
  · exact first c here
  · exact second c there

/-- A text that a reader is in is plain so far. -/
def Position.Plain : Position → Prop
  | outside text => Html.Plain text
  | _ => True

theorem plain_of_mem_textToken {text : List Char} (plain : Plain text) {s : String}
    (mem : .text s ∈ textToken text) : Plain s.toList := by
  unfold textToken at mem
  split at mem
  next => cases mem
  next =>
    cases List.mem_singleton.mp mem
    rwa [String.toList_ofList]

theorem plain_of_step {p q : Position} {c : Char} {ts : List Token} (plain : p.Plain)
    (one : step p c = some (ts, q)) : (∀ s, .text s ∈ ts → Plain s.toList) ∧ q.Plain := by
  cases p with
  | outside text =>
    simp only [step] at one
    split at one
    next =>
      cases one
      exact ⟨fun s => plain_of_mem_textToken plain, trivial⟩
    next no =>
      split at one
      next => cases one
      next no' =>
        cases one
        have last : Plain [c] := fun d mem => by
          rw [List.mem_singleton.mp mem]
          exact ⟨no, no'⟩
        exact ⟨nofun, Plain.append plain last⟩
  | comment body =>
    simp only [step] at one
    split at one
    next =>
      obtain ⟨s, -, same⟩ := Option.map_eq_some_iff.mp one
      cases same
      exact ⟨by simp, plain_nil⟩
    next =>
      cases one
      exact ⟨nofun, trivial⟩
  | _ =>
    -- Every other piece that ends is a tag, with nothing read of a text behind it.
    simp only [step] at one
    repeat' split at one
    all_goals cases one
    all_goals simp [Position.Plain, plain_nil]

theorem plain_of_feed {p q : Position} {cs : List Char} {ts : List Token} (plain : p.Plain)
    (fed : feed p cs = some (ts, q)) : (∀ s, .text s ∈ ts → Plain s.toList) ∧ q.Plain := by
  induction cs generalizing p ts with
  | nil =>
    cases fed
    exact ⟨nofun, plain⟩
  | cons c cs ih =>
    obtain ⟨⟨first, middle⟩, one, rest⟩ := Option.bind_eq_some_iff.mp fed
    obtain ⟨⟨more, q'⟩, there, same⟩ := Option.map_eq_some_iff.mp rest
    cases same
    obtain ⟨here, next⟩ := plain_of_step plain one
    obtain ⟨later, last⟩ := ih next there
    refine ⟨fun s mem => ?_, last⟩
    rcases List.mem_append.mp mem with now | then_
    · exact here s now
    · exact later s then_

/-- No text that is read has a bracket in it. -/
theorem plain_of_read? {s : String} {ts : List Token} (read : read? s = some ts) :
    ∀ t, .text t ∈ ts → Plain t.toList := by
  unfold read? at read
  split at read
  next tokens text fed =>
    cases read
    obtain ⟨here, last⟩ := plain_of_feed (p := .outside []) plain_nil fed
    intro t mem
    rcases List.mem_append.mp mem with now | then_
    · exact here t now
    · exact plain_of_mem_textToken last then_
  next => cases read

/-! ## Nesting -/

/-- Elements without content: images, input fields and rules, and the outlines of icons. -/
def isVoid (tag : String) : Bool := ["img", "input", "hr", "path"].contains tag

/-- Whether a piece is more than text. -/
def Token.isMark : Token → Bool
  | text _ => false
  | _ => true

/-- The tags close each other in order, inside elements that are open, the innermost first. Void
elements close themselves, and no others do. -/
def Nested : List String → List Token → Prop
  | around, [] => around = []
  | around, .opening tag _ :: rest => isVoid tag = false ∧ Nested (tag :: around) rest
  | around, .closing tag :: rest => ∃ outer, around = tag :: outer ∧ Nested outer rest
  | around, .selfClosed tag _ :: rest => isVoid tag = true ∧ Nested around rest
  | around, .text _ :: rest | around, .comment _ :: rest => Nested around rest

/-- Text between tags does not matter for their nesting. -/
theorem nested_filter {around : List String} {ts : List Token} :
    Nested around (ts.filter Token.isMark) ↔ Nested around ts := by
  induction ts generalizing around with
  | nil => exact Iff.rfl
  | cons t ts ih =>
    cases t with
    | text s => exact ih
    | comment s => exact ih
    | opening tag as => exact and_congr_right fun _ => ih
    | selfClosed tag as => exact and_congr_right fun _ => ih
    | closing tag => exact exists_congr fun _ => and_congr_right fun _ => ih

end PageStudio.Html
