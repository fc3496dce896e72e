import Mathlib.Data.List.Basic
import PageStudio.Html.Escape
import PageStudio.Proofs.Text.Piece

/-!
# What escaping keeps out

The five special characters are replaced one after another, each in the whole text, and a comment
goes through two replacements. Both come to the same as one pass over the text: no replacement finds
anything in what an earlier one has put there. An escaped text has no bracket and no quote in it and
can be decoded. A text made fit for a comment has no `>`, without which no comment ends; two hyphens
may still meet in it.

## Main statements

* `escape_eq_onePass`: an escaped text, character by character, and what follows from it.
* `pair_escapeComment_iff`: where hyphens meet in a text made fit for a comment.
-/

namespace PageStudio.Html

open Text

/-! ## Between tags and in quotes -/

/-- Whether a character may stand in a value between double quotes. -/
def isValueChar (c : Char) : Bool := c != '<' && c != '>' && c != '"'

/-- The written form of one character. -/
def escapeChar (c : Char) : List Char :=
  if c = '&' then "&amp;".toList
  else if c = '<' then "&lt;".toList
  else if c = '>' then "&gt;".toList
  else if c = '"' then "&quot;".toList
  else if c = '\'' then "&#39;".toList
  else [c]

theorem escapeChar_of_mem {e : Char × List Char} (entity : e ∈ entities) :
    escapeChar e.1 = e.2 := by
  have each : ∀ e ∈ entities, escapeChar e.1 = e.2 := by decide
  exact each e entity

theorem escapeChar_of_not_mem {c : Char} (plain : c ∉ entities.map (·.1)) :
    escapeChar c = [c] := by
  simp only [entities, List.map_cons, List.map_nil, List.mem_cons, List.not_mem_nil, or_false,
    not_or] at plain
  obtain ⟨ampersand, less, greater, quote, apostrophe⟩ := plain
  simp only [escapeChar, ampersand, less, greater, quote, apostrophe, if_false]

/-- A character is written as its entity, or as itself where it has none. -/
theorem escapeChar_cases (c : Char) : (∃ e ∈ entities, c = e.1 ∧ escapeChar c = e.2) ∨
    c ∉ entities.map (·.1) ∧ escapeChar c = [c] := by
  by_cases special : c ∈ entities.map (·.1)
  · obtain ⟨e, entity, rfl⟩ := List.mem_map.mp special
    exact .inl ⟨e, entity, rfl, escapeChar_of_mem entity⟩
  · exact .inr ⟨special, escapeChar_of_not_mem special⟩

/-! ### One character after another -/

variable {table : List (Char × List Char)} {c d : Char} {s : String}

/-- Replacing goes on inside what has been put in place of a character, and nowhere else: each
character of the text can be followed on its own. -/
theorem replaceChars_eq_flatMap (table : List (Char × List Char)) (cs : List Char) :
    replaceChars table cs = cs.flatMap fun c => replaceChars table [c] := by
  induction table generalizing cs with
  | nil => exact (List.flatMap_singleton' cs).symm
  | cons entry table ih =>
    have step : ∀ t, replaceChars (entry :: table) t =
        replaceChars table (replace [entry.1] entry.2 t) := fun _ => rfl
    simp only [step, replace_singleton]
    rw [ih, List.flatMap_assoc]
    refine List.flatMap_congr fun c _ => ?_
    rw [List.flatMap_singleton, ← ih]

theorem replaceChars_of_not_mem (absent : c ∉ table.map (·.1)) : replaceChars table [c] = [c] := by
  induction table with
  | nil => rfl
  | cons entry table ih =>
    obtain ⟨other, later⟩ := not_or.mp (List.mem_cons.not.mp absent)
    have kept : replace [entry.1] entry.2 [c] = [c] := by
      rw [replace_singleton, List.flatMap_singleton, if_neg other]
    show replaceChars table (replace [entry.1] entry.2 [c]) = [c]
    rw [kept, ih later]

/-- An entity goes through all replacements unchanged, although it begins with a character that one
of them is for: that one comes first. -/
theorem replaceChars_entities (c : Char) : replaceChars entities [c] = escapeChar c := by
  have each : ∀ e ∈ entities, replaceChars entities [e.1] = e.2 := by decide
  rcases escapeChar_cases c with ⟨e, entity, rfl, written⟩ | ⟨plain, written⟩
  · rw [written, each e entity]
  · rw [written, replaceChars_of_not_mem plain]

theorem toList_escape (s : String) : (escape s).toList = s.toList.flatMap escapeChar := by
  rw [escape, String.toList_ofList, replaceChars_eq_flatMap]
  exact List.flatMap_congr fun c _ => replaceChars_entities c

theorem escape_append (s t : String) : escape (s ++ t) = escape s ++ escape t := by
  refine String.toList_inj.mp ?_
  rw [String.toList_append, toList_escape, toList_escape, toList_escape, String.toList_append,
    List.flatMap_append]

/-! ### Characters of an escaped text -/

/-- The characters that begin or end tags and quoted values. -/
def delimiters : List Char := ['<', '>', '"', '\'']

theorem not_mem_delimiters_of_mem_escapeChar (mem : d ∈ escapeChar c) : d ∉ delimiters := by
  have entityChars : ∀ e ∈ entities, e.2.all (· ∉ delimiters) = true := by decide
  have special : delimiters ⊆ entities.map (·.1) := by decide
  rcases escapeChar_cases c with ⟨e, entity, -, written⟩ | ⟨plain, written⟩
  · rw [written] at mem
    exact of_decide_eq_true (List.all_eq_true.mp (entityChars e entity) d mem)
  · rw [written, List.mem_singleton] at mem
    rw [mem]
    exact fun delimiter => plain (special delimiter)

theorem not_mem_delimiters_of_mem_escape (mem : d ∈ (escape s).toList) : d ∉ delimiters := by
  rw [toList_escape] at mem
  obtain ⟨c, -, mem⟩ := List.mem_flatMap.mp mem
  exact not_mem_delimiters_of_mem_escapeChar mem

/-- An escaped text may stand in a value. -/
theorem isValueChar_of_mem_escape (mem : d ∈ (escape s).toList) : isValueChar d = true := by
  have other := not_mem_delimiters_of_mem_escape mem
  simp only [delimiters, List.mem_cons, List.not_mem_nil, or_false, not_or] at other
  simp only [isValueChar, bne_iff_ne, Bool.and_eq_true, ne_eq, other, not_false_eq_true, and_self]

/-- In what is written for a character, an ampersand begins an entity. -/
theorem eq_entity_of_ampersand {before more : List Char}
    (written : escapeChar c = before ++ '&' :: more) : ∃ e ∈ entities, e.2 = '&' :: more := by
  have shape : ∀ e ∈ entities, e.2.head? = some '&' ∧ '&' ∉ e.2.tail := by decide
  rcases escapeChar_cases c with ⟨e, entity, -, same⟩ | ⟨plain, same⟩
  · rw [same] at written
    obtain ⟨-, once⟩ := shape e entity
    cases before with
    | nil => exact ⟨e, entity, written⟩
    | cons b before =>
      rw [written] at once
      exact absurd (List.mem_append_right before List.mem_cons_self) once
  · have here : '&' ∈ [c] := by
      rw [← same, written]
      exact List.mem_append_right before List.mem_cons_self
    rw [← List.mem_singleton.mp here] at plain
    exact absurd List.mem_cons_self plain

/-- Every ampersand of an escaped text begins an entity. -/
theorem exists_entity_of_suffix {cs rest : List Char}
    (suffix : '&' :: rest <:+ cs.flatMap escapeChar) : ∃ e ∈ entities, e.2 <+: '&' :: rest := by
  induction cs with
  | nil => exact absurd (List.suffix_nil.mp suffix) (List.cons_ne_nil _ _)
  | cons c cs ih =>
    obtain ⟨before, whole⟩ := suffix
    rw [List.flatMap_cons] at whole
    rcases List.append_eq_append_iff.mp whole with ⟨more, written, after⟩ | ⟨later, -, inside⟩
    · cases more with
      | nil => exact ih ⟨[], after⟩
      | cons a more =>
        obtain ⟨rfl, after⟩ := List.cons_eq_cons.mp after
        obtain ⟨e, entity, same⟩ := eq_entity_of_ampersand written
        rw [after]
        exact ⟨e, entity, cs.flatMap escapeChar, congrArg (· ++ _) same⟩
    · exact ih ⟨later, inside.symm⟩

/-! ## Decoding -/

/-- A text with the entities of the five special characters replaced, read from the front. -/
def decodeChars : List Char → List Char
  | '&' :: 'a' :: 'm' :: 'p' :: ';' :: rest => '&' :: decodeChars rest
  | '&' :: 'l' :: 't' :: ';' :: rest => '<' :: decodeChars rest
  | '&' :: 'g' :: 't' :: ';' :: rest => '>' :: decodeChars rest
  | '&' :: 'q' :: 'u' :: 'o' :: 't' :: ';' :: rest => '"' :: decodeChars rest
  | '&' :: '#' :: '3' :: '9' :: ';' :: rest => '\'' :: decodeChars rest
  | c :: rest => c :: decodeChars rest
  | [] => []

/-- The text that a written form stands for. -/
def decode (s : String) : String := String.ofList (decodeChars s.toList)

theorem decodeChars_cons {c : Char} (plain : c ≠ '&') (rest : List Char) :
    decodeChars (c :: rest) = c :: decodeChars rest := by
  rw [decodeChars]
  all_goals
    intros
    contradiction

theorem decodeChars_escapeChar (c : Char) (rest : List Char) :
    decodeChars (escapeChar c ++ rest) = c :: decodeChars rest := by
  rcases escapeChar_cases c with ⟨e, entity, rfl, written⟩ | ⟨plain, written⟩
  · rw [written]
    simp only [entities, List.mem_cons, List.not_mem_nil, or_false] at entity
    rcases entity with rfl | rfl | rfl | rfl | rfl <;> rfl
  · rw [written]
    refine decodeChars_cons (fun ampersand => plain ?_) rest
    rw [ampersand]
    exact List.mem_cons_self

/-- The written form of a text stands for the text. -/
theorem decode_escape (s : String) : decode (escape s) = s := by
  have chars : ∀ cs, decodeChars (cs.flatMap escapeChar) = cs := by
    intro cs
    induction cs with
    | nil => rfl
    | cons c cs ih => rw [List.flatMap_cons, decodeChars_escapeChar, ih]
  unfold decode
  rw [toList_escape, chars, String.ofList_toList]

/-- Replacing the special characters one after another comes to the same as writing each character
on its own. So parts of a text are escaped apart from each other, nothing that begins or ends a tag
or a value is left, every ampersand begins an entity, and no two texts are written alike. -/
theorem escape_eq_onePass (s : String) :
    escape s = String.ofList (s.toList.flatMap escapeChar) ∧
    (∀ t, escape (s ++ t) = escape s ++ escape t) ∧
    (∀ d ∈ (escape s).toList, d ∉ delimiters) ∧
    (∀ rest, '&' :: rest <:+ (escape s).toList → ∃ e ∈ entities, e.2 <+: '&' :: rest) ∧
    decode (escape s) = s ∧
    ∀ t, escape t = escape s → t = s := by
  refine ⟨?_, escape_append s, fun d => not_mem_delimiters_of_mem_escape, fun rest suffix => ?_,
    decode_escape s, fun t same => ?_⟩
  · rw [← toList_escape, String.ofList_toList]
  · rw [toList_escape] at suffix
    exact exists_entity_of_suffix suffix
  · calc t = decode (escape t) := (decode_escape t).symm
      _ = s := by rw [same, decode_escape]

/-- A text that has an entity in it already. -/
theorem escape_eq_onePass_entity :
    escape "'&lt;" = "&#39;&amp;lt;" ∧ '&' ∉ delimiters ∧
      (∃ e ∈ entities, e.2 <+: '&' :: "amp;lt;".toList) ∧
      decode (escape "'&lt;") = "'&lt;" ∧ "'" ++ "&lt;" = "'&lt;" := by
  obtain ⟨onePass, -, others, ampersands, decoded, injective⟩ := escape_eq_onePass "'&lt;"
  have written : escape "'&lt;" = "&#39;&amp;lt;" := onePass.trans (by decide)
  have characters : (escape "'&lt;").toList = "&#39;&amp;lt;".toList := congrArg _ written
  have here : '&' ∈ (escape "'&lt;").toList := by
    rw [characters]
    decide
  have behind : '&' :: "amp;lt;".toList <:+ (escape "'&lt;").toList := by
    rw [characters]
    decide
  exact ⟨written, others '&' here, ampersands _ behind, decoded, injective _ (by decide)⟩

/-! ## In comments -/

/-- The characters of a text inside a comment: hyphens side by side are taken two at a time from the
front and set apart. -/
def commentChars : List Char → List Char
  | '-' :: '-' :: rest => '-' :: ' ' :: '-' :: commentChars rest
  | '>' :: rest => "&gt;".toList ++ commentChars rest
  | c :: rest => c :: commentChars rest
  | [] => []

/-- The second replacement finds nothing in what the first one has put there. -/
theorem toList_escapeComment (s : String) : (escapeComment s).toList = commentChars s.toList := by
  rw [escapeComment, String.toList_ofList, replace_singleton]
  generalize s.toList = cs
  induction cs using commentChars.induct with
  | case1 rest ih =>
    have hyphens : replace ['-', '-'] "- -".toList ('-' :: '-' :: rest) =
        "- -".toList ++ replace ['-', '-'] "- -".toList rest :=
      replace_append (List.cons_ne_nil _ _) rest
    rw [hyphens, List.flatMap_append, ih]
    rfl
  | case2 rest ih =>
    have other : ¬ ['-', '-'] <+: '>' :: rest := fun front =>
      absurd (List.cons_prefix_cons.mp front).1 (by decide)
    rw [replace_cons other, List.flatMap_cons, ih]
    rfl
  | case3 c rest notHyphens notGreater ih =>
    have other : ¬ ['-', '-'] <+: c :: rest := by
      rintro ⟨after, whole⟩
      obtain ⟨rfl, rfl⟩ := List.cons_eq_cons.mp whole
      exact notHyphens _ rfl rfl
    rw [replace_cons other, List.flatMap_cons, ih, if_neg notGreater,
      commentChars.eq_3 c rest notHyphens notGreater]
    rfl
  | case4 => rfl

theorem ne_of_mem_commentChars {cs : List Char} {d : Char} (mem : d ∈ commentChars cs) :
    d ≠ '>' := by
  induction cs using commentChars.induct with
  | case1 rest ih =>
    simp only [commentChars, List.mem_cons] at mem
    rcases mem with rfl | rfl | rfl | later
    · decide
    · decide
    · decide
    · exact ih later
  | case2 rest ih =>
    have fit : ("&gt;".toList.all (· != '>')) = true := by decide
    simp only [commentChars, List.mem_append] at mem
    rcases mem with now | later
    · exact bne_iff_ne.mp (List.all_eq_true.mp fit d now)
    · exact ih later
  | case3 c rest notHyphens notGreater ih =>
    rw [commentChars.eq_3 c rest notHyphens notGreater] at mem
    rcases List.mem_cons.mp mem with rfl | later
    · exact notGreater
    · exact ih later
  | case4 => cases mem

/-- A text made fit for a comment has no `>` in it. -/
theorem ne_of_mem_escapeComment {s : String} {d : Char} (mem : d ∈ (escapeComment s).toList) :
    d ≠ '>' := by
  rw [toList_escapeComment] at mem
  exact ne_of_mem_commentChars mem

/-! ### Hyphens that meet -/

/-- A hyphen in front stays in front, and no other character becomes one. -/
theorem hyphen_prefix_commentChars_iff (cs : List Char) :
    ['-'] <+: commentChars cs ↔ ['-'] <+: cs := by
  induction cs using commentChars.induct with
  | case1 rest => simp [commentChars]
  | case2 rest => simp [commentChars]
  | case3 c rest notHyphens notGreater =>
    rw [commentChars.eq_3 c rest notHyphens notGreater, List.cons_prefix_cons,
      List.cons_prefix_cons]
    exact and_congr_right fun _ => iff_of_true List.nil_prefix List.nil_prefix
  | case4 => exact Iff.rfl

/-- The second of two hyphens that are set apart meets the next one, and no others meet. -/
theorem pair_commentChars_iff (cs : List Char) :
    ['-', '-'] <:+: commentChars cs ↔ ['-', '-', '-'] <:+: cs := by
  induction cs using commentChars.induct with
  | case1 rest ih =>
    have written : ['-', '-'] <:+: commentChars ('-' :: '-' :: rest) ↔
        ['-'] <+: rest ∨ ['-', '-', '-'] <:+: rest := by
      simp [commentChars, List.infix_cons_iff, hyphen_prefix_commentChars_iff, ih]
    have given : ['-', '-', '-'] <:+: '-' :: '-' :: rest ↔
        ['-'] <+: rest ∨ ['-', '-'] <+: rest ∨ ['-', '-', '-'] <:+: rest := by
      simp [List.infix_cons_iff]
    rw [written, given]
    constructor
    · exact Or.imp_right .inr
    · rintro (front | front | later)
      · exact .inl front
      · exact .inl ((List.prefix_append ['-'] ['-']).trans front)
      · exact .inr later
  | case2 rest ih =>
    have written : commentChars ('>' :: rest) = '&' :: 'g' :: 't' :: ';' :: commentChars rest := rfl
    simp [written, List.infix_cons_iff, ih]
  | case3 c rest notHyphens notGreater ih =>
    have alone : ∀ more, ¬ (c = '-' ∧ '-' :: more <+: rest) := by
      rintro more ⟨hyphen, after, rfl⟩
      exact notHyphens _ hyphen rfl
    rw [commentChars.eq_3 c rest notHyphens notGreater, List.infix_cons_iff,
      List.infix_cons_iff, ih]
    simp only [List.cons_prefix_cons, hyphen_prefix_commentChars_iff]
    exact or_congr_left (iff_of_false (fun front => alone [] ⟨front.1.symm, front.2⟩)
      fun front => alone ['-'] ⟨front.1.symm, front.2⟩)
  | case4 => simp [commentChars]

/-- Two hyphens stand side by side in a text made fit for a comment where three did before. -/
theorem pair_escapeComment_iff (s : String) :
    ['-', '-'] <:+: (escapeComment s).toList ↔ ['-', '-', '-'] <:+: s.toList := by
  rw [toList_escapeComment, pair_commentChars_iff]

/-- A text without hyphens and `>` is fit for a comment, and so it stays in front of another. -/
theorem escapeComment_append {front : String} (plain : ∀ c ∈ front.toList, c ≠ '-' ∧ c ≠ '>')
    (s : String) : escapeComment (front ++ s) = front ++ escapeComment s := by
  refine String.toList_inj.mp ?_
  rw [String.toList_append, toList_escapeComment, toList_escapeComment, String.toList_append]
  generalize front.toList = cs at plain
  induction cs with
  | nil => rfl
  | cons c cs ih =>
    obtain ⟨⟨notHyphen, notGreater⟩, later⟩ := List.forall_mem_cons.mp plain
    rw [List.cons_append, commentChars.eq_3 _ _ (fun _ hyphen _ => notHyphen hyphen) notGreater,
      ih later]
    rfl

end PageStudio.Html
