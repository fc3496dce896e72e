import Mathlib.Data.List.Basic
import PageStudio.Text.Slug

/-!
# The characters of slugs

A slug is made of characters that are not blank and that are their own lower-case forms, among them
the hyphens between its words. Every text of such characters is its own slug, so slugs are these
texts and no others.

## Main statements

* `isSlugChar_of_mem_slug`: the characters that a slug can have.
* `slug_eq_self`: a text of such characters is its own slug.
-/

namespace PageStudio.Text

/-! ## Lower-case partners have none of their own -/

/-- The code point that the partners of a run begin with. -/
def CaseRun.low (r : CaseRun) : Nat := (r.first + r.shift).toNat

/-- The code point that the partners of a run end with. -/
def CaseRun.high (r : CaseRun) : Nat := (r.last + r.shift).toNat

/-- Whether the partners of a run are every second code point at most. -/
def CaseRun.isSparse (r : CaseRun) : Bool := Nat.beq r.step 2 || Nat.beq r.first r.last

/-- Whether no letter of a run is between two code points, or only letters at odd distances from
the first one where those are `sparse`. -/
def CaseRun.misses (r : CaseRun) (low high : Nat) (sparse : Bool) : Bool :=
  Nat.blt r.last low || Nat.blt high r.first ||
    (sparse && Nat.beq r.step 2 && Nat.beq ((low + r.first) % 2) 1)

theorem caseRuns_miss :
    (caseRuns.all fun r => caseRuns.all fun s => s.misses r.low r.high r.isSparse) = true := by
  decide +kernel

theorem caseRuns_visible :
    (caseRuns.all fun r => blankRanges.all fun b =>
      Nat.blt r.high b.1 || Nat.blt b.2 r.low) = true := by
  decide +kernel

/-- Partners are characters, and none of them is the letter that becomes two. -/
theorem caseRuns_chars :
    (caseRuns.all fun r => decide (0 ≤ r.first + r.shift) &&
      (Nat.blt r.high 0xD800 || (Nat.blt 0xDFFF r.low && Nat.blt r.high 0x110000)) &&
      (Nat.blt r.high 'İ'.toNat || Nat.blt 'İ'.toNat r.low)) = true := by
  decide +kernel

variable {r s : CaseRun} {n : Nat}

theorem CaseRun.holds_iff : r.holds n = true ↔
    r.first ≤ n ∧ n ≤ r.last ∧ (n - r.first) % r.step = 0 := by
  simp only [CaseRun.holds, Bool.and_eq_true, decide_eq_true_eq, beq_iff_eq, and_assoc]

/-- The partner of a letter of a run lies between those of the first and the last one. -/
theorem CaseRun.partner_bounds (holds : r.holds n = true) :
    r.low ≤ (n + r.shift).toNat ∧ (n + r.shift).toNat ≤ r.high := by
  obtain ⟨first, last, -⟩ := CaseRun.holds_iff.mp holds
  unfold low high
  omega

/-- Where the runs miss each other, no letter of the second is the partner of one of the first. -/
theorem CaseRun.not_holds_partner (begins : 0 ≤ r.first + r.shift) (holds : r.holds n = true)
    (apart : s.misses r.low r.high r.isSparse = true) : s.holds (n + r.shift).toNat = false := by
  obtain ⟨low, high⟩ := r.partner_bounds holds
  obtain ⟨first, last, place⟩ := CaseRun.holds_iff.mp holds
  refine Bool.eq_false_iff.mpr fun also => ?_
  obtain ⟨first', last', place'⟩ := CaseRun.holds_iff.mp also
  simp only [misses, isSparse, Bool.or_eq_true, Bool.and_eq_true, Nat.blt_eq, Nat.beq_eq] at apart
  rcases apart with (before | behind) | ⟨⟨sparse, two⟩, odd⟩
  · omega
  · omega
  · -- All partners have the parity of the first one.
    have even : ((n + r.shift).toNat - r.low) % 2 = 0 := by
      unfold CaseRun.low
      rcases sparse with step | single
      · rw [step] at place
        omega
      · omega
    rw [two] at place'
    omega

/-- What is told of a letter of any run whose lower-case partner has a code point. -/
structure IsPartner (m : Nat) : Prop where
  small : ∀ s ∈ caseRuns, s.holds m = false
  visible : inRanges blankRanges m = false
  valid : m.isValidChar
  single : m ≠ 'İ'.toNat

theorem isPartner (mem : r ∈ caseRuns) (holds : r.holds n = true) :
    IsPartner (n + r.shift).toNat := by
  obtain ⟨low, high⟩ := r.partner_bounds holds
  have chars := List.all_eq_true.mp caseRuns_chars r mem
  simp only [Bool.and_eq_true, Bool.or_eq_true, Nat.blt_eq, decide_eq_true_eq] at chars
  obtain ⟨⟨begins, valid⟩, single⟩ := chars
  refine ⟨fun s other => ?_, ?_, ?_, ?_⟩
  · have misses := List.all_eq_true.mp (List.all_eq_true.mp caseRuns_miss r mem) s other
    exact CaseRun.not_holds_partner begins holds misses
  · refine Bool.eq_false_iff.mpr fun blank => ?_
    obtain ⟨b, range, inside⟩ := List.any_eq_true.mp blank
    have apart := List.all_eq_true.mp (List.all_eq_true.mp caseRuns_visible r mem) b range
    simp only [Bool.and_eq_true, Bool.or_eq_true, Nat.blt_eq, decide_eq_true_eq] at inside apart
    omega
  · rcases valid with below | ⟨above, last⟩
    · exact .inl (by omega)
    · exact .inr (by omega)
  · omega

/-! ## Characters of slugs -/

/-- Whether a slug can have a character: it is not blank and its own lower-case form. -/
def isSlugChar (c : Char) : Bool := !isBlank c && lower [c] == [c]

variable {c d : Char} {text : List Char}

theorem lowerChar_eq_self (small : ∀ r ∈ caseRuns, r.holds c.toNat = false) : lowerChar c = c := by
  have none : (caseRuns.find? fun r => r.holds c.toNat) = none :=
    List.find?_eq_none.mpr fun r mem => Bool.eq_false_iff.mp (small r mem)
  rw [lowerChar, none]

/-- A letter of no run is its own lower-case form, but for the one that becomes two. -/
theorem lower_singleton (small : ∀ r ∈ caseRuns, r.holds c.toNat = false) (single : c ≠ 'İ') :
    lower [c] = [c] := by
  have sigma : c ≠ 'Σ' := by
    rintro rfl
    have capital : (caseRuns.any fun r => r.holds 'Σ'.toNat) = true := by decide
    obtain ⟨r, mem, holds⟩ := List.any_eq_true.mp capital
    rw [small r mem] at holds
    cases holds
  have ascii : c.toLower = c := by
    have letters := small ⟨0x41, 0x5A, 1, 32⟩ List.mem_cons_self
    refine dif_neg fun capital => Bool.eq_false_iff.mp letters (CaseRun.holds_iff.mpr ?_)
    exact ⟨capital.1, capital.2, Nat.mod_one _⟩
  simp only [lower, lowerAfter, if_neg sigma, if_neg single, ascii, lowerChar_eq_self small,
    ite_self, List.append_nil]

theorem isSlugChar_iff : isSlugChar c = true ↔ isBlank c = false ∧ lower [c] = [c] := by
  rw [isSlugChar, Bool.and_eq_true, Bool.not_eq_true', beq_iff_eq]

/-- The lower-case form of a character that is not blank is fit for a slug. -/
theorem isSlugChar_lowerChar (visible : isBlank c = false) (wide : c ≠ 'İ') :
    isSlugChar (lowerChar c) = true := by
  rw [isSlugChar_iff]
  cases found : caseRuns.find? fun r => r.holds c.toNat with
  | none =>
    have small : ∀ r ∈ caseRuns, r.holds c.toNat = false := fun r mem =>
      Bool.eq_false_iff.mpr (List.find?_eq_none.mp found r mem)
    rw [lowerChar_eq_self small]
    exact ⟨visible, lower_singleton small wide⟩
  | some r =>
    have holds := List.find?_some found
    obtain ⟨small, unseen, valid, single⟩ :=
      isPartner (List.mem_of_find?_eq_some found) holds
    have code : (lowerChar c).toNat = (c.toNat + r.shift).toNat := by
      rw [lowerChar, found]
      show (Char.ofNat _).toNat = _
      rw [Char.ofNat, dif_pos valid]
      rfl
    rw [← code] at small unseen single
    exact ⟨unseen, lower_singleton small fun same => single (congrArg Char.toNat same)⟩

theorem isSlugChar_toLower (visible : isBlank c = false) (ascii : c.toNat < 128) :
    isSlugChar c.toLower = true := by
  have all : ∀ n < 128, isBlank (Char.ofNat n) = false →
      isSlugChar (Char.ofNat n).toLower = true := by decide +kernel
  have here := all c.toNat ascii
  rw [Char.ofNat_toNat] at here
  exact here visible

/-- The lower-case form of a text without blanks is fit for a slug. -/
theorem isSlugChar_of_mem_lowerAfter {before : List Char}
    (visible : ∀ c ∈ text, isBlank c = false) (mem : d ∈ lowerAfter before text) :
    isSlugChar d = true := by
  induction text generalizing before with
  | nil => cases mem
  | cons c rest ih =>
    obtain ⟨here, there⟩ := List.forall_mem_cons.mp visible
    simp only [lowerAfter] at mem
    rcases List.mem_append.mp mem with first | later
    · split at first
      next =>
        rw [List.mem_singleton] at first
        rw [first]
        split <;> decide
      next =>
        split at first
        next =>
          have both : (['i', '\u0307'].all isSlugChar) = true := by decide
          exact List.all_eq_true.mp both d first
        next wide =>
          split at first
          next ascii => exact List.mem_singleton.mp first ▸ isSlugChar_toLower here ascii
          next => exact List.mem_singleton.mp first ▸ isSlugChar_lowerChar here wide
    · exact ih there later

/-- A text that is fit for a slug is its own lower-case form. -/
theorem lowerAfter_eq_self {before : List Char} (fit : ∀ c ∈ text, isSlugChar c = true) :
    lowerAfter before text = text := by
  induction text generalizing before with
  | nil => rfl
  | cons c rest ih =>
    obtain ⟨here, there⟩ := List.forall_mem_cons.mp fit
    have own : lower [c] = [c] := (isSlugChar_iff.mp here).2
    have sigma : c ≠ 'Σ' := by
      rintro rfl
      exact absurd own (by decide)
    -- Only the form of the capital sigma depends on what is around it.
    simp only [lower, lowerAfter, if_neg sigma, List.append_nil] at own
    simp only [lowerAfter, if_neg sigma, own, ih there]
    rfl

/-! ## Words -/

theorem visible_of_mem_wordsFrom {word w : List Char} (begun : ∀ c ∈ word, isBlank c = false)
    (mem : w ∈ wordsFrom word text) : ∀ c ∈ w, isBlank c = false := by
  have whole : ∀ c ∈ word.reverse, isBlank c = false := fun c inside =>
    begun c (List.mem_reverse.mp inside)
  induction text generalizing word with
  | nil =>
    simp only [wordsFrom] at mem
    split at mem
    next => cases mem
    next => exact List.mem_singleton.mp mem ▸ whole
  | cons c rest ih =>
    simp only [wordsFrom] at mem
    split at mem
    next =>
      split at mem
      next => exact ih (List.forall_mem_nil _) mem (List.forall_mem_nil _)
      next =>
        rcases List.mem_cons.mp mem with rfl | later
        · exact whole
        · exact ih (List.forall_mem_nil _) later (List.forall_mem_nil _)
    next visible =>
      have longer : ∀ d ∈ c :: word, isBlank d = false :=
        List.forall_mem_cons.mpr ⟨Bool.eq_false_iff.mpr visible, begun⟩
      exact ih longer mem fun d inside => longer d (List.mem_reverse.mp inside)

/-- A text without blanks goes on with the word that has begun. -/
theorem wordsFrom_of_visible {word : List Char} (visible : ∀ c ∈ text, isBlank c = false) :
    wordsFrom word text =
      if (word.reverse ++ text).isEmpty then [] else [word.reverse ++ text] := by
  induction text generalizing word with
  | nil => simp [wordsFrom]
  | cons c rest ih =>
    obtain ⟨here, there⟩ := List.forall_mem_cons.mp visible
    rw [wordsFrom, if_neg (Bool.eq_false_iff.mp here), ih there]
    simp

/-- What is joined is made of the separator and the pieces. -/
theorem mem_joinWith {sep : List Char} {pieces : List (List Char)}
    (mem : d ∈ joinWith sep pieces) : d ∈ sep ∨ ∃ p ∈ pieces, d ∈ p := by
  induction pieces with
  | nil => cases mem
  | cons p rest ih =>
    cases rest with
    | nil =>
      have alone : joinWith sep [p] = p := by simp [joinWith]
      exact .inr ⟨p, List.mem_cons_self, alone ▸ mem⟩
    | cons q rest =>
      have whole : joinWith sep (p :: q :: rest) = p ++ (sep ++ joinWith sep (q :: rest)) := by
        simp [joinWith]
      rw [whole, List.mem_append, List.mem_append] at mem
      rcases mem with here | between | later
      · exact .inr ⟨p, List.mem_cons_self, here⟩
      · exact .inl between
      · exact (ih later).imp_right fun ⟨w, among, inside⟩ =>
          ⟨w, List.mem_cons_of_mem _ among, inside⟩

/-! ## Slugs -/

theorem isSlugChar_of_mem_slug {name : String} (mem : d ∈ (slug name).toList) :
    isSlugChar d = true := by
  rw [slug, String.toList_ofList] at mem
  rcases mem_joinWith mem with hyphen | ⟨_, word, inside⟩
  · rw [List.mem_singleton.mp hyphen]
    decide
  · obtain ⟨w, among, rfl⟩ := List.mem_map.mp word
    have visible := visible_of_mem_wordsFrom (List.forall_mem_nil _) among
    exact isSlugChar_of_mem_lowerAfter visible inside

/-- A text of such characters is its own slug. -/
theorem slug_eq_self {s : String} (fit : ∀ c ∈ s.toList, isSlugChar c = true) : slug s = s := by
  have visible : ∀ c ∈ s.toList, isBlank c = false := fun c mem =>
    (isSlugChar_iff.mp (fit c mem)).1
  have joined : joinWith ['-'] ((words s.toList).map lower) = s.toList := by
    rw [words, wordsFrom_of_visible visible]
    cases chars : s.toList with
    | nil => rfl
    | cons c rest =>
      have own : lower (c :: rest) = c :: rest := lowerAfter_eq_self (chars ▸ fit)
      simp [joinWith, own]
  rw [slug, joined, String.ofList_toList]

end PageStudio.Text
