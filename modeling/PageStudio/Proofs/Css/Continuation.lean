import PageStudio.Proofs.Css.Token

/-!
# Texts in front of a semicolon

What a semicolon and more text behind a style text change in its tokens. A token that has ended in
the text stays as it is, since none of them goes on with a semicolon; a token that has not takes the
semicolon in.

## Main statements

* `continues_token`: both hold for the first token of a text.
* `scan_append_semicolon`: where the last token has ended, the semicolon is a token of its own, and
  the text behind it has the tokens that it has by itself.
-/

namespace PageStudio.Css.Lexical

/-- How a reading goes on where a semicolon and `u` follow the text: what has ended is the same, and
what has not ends behind the semicolon. -/
structure Continues {α : Type} (alone followed : α × Rest) (u : List Char) : Prop where
  ended : ∀ rest, alone.2 = some rest → followed = (alone.1, some (rest ++ ';' :: u))
  cut : alone.2 = none → Within followed.2 u

variable {α β : Type} {alone followed : α × Rest} {u : List Char}

theorem continues_some (a : α) (rest u : List Char) :
    Continues (a, some rest) (a, some (rest ++ ';' :: u)) u :=
  ⟨fun _ same => Option.some.inj same ▸ rfl, nofun⟩

theorem continues_none (a b : α) {r : Rest} (within : Within r u) :
    Continues (a, none) (b, r) u := ⟨nofun, fun _ => within⟩

/-- What is read may be turned into something else. -/
theorem Continues.map (continues : Continues alone followed u) (f : α → β) :
    Continues (f alone.1, alone.2) (f followed.1, followed.2) u :=
  ⟨fun rest same => by rw [continues.ended rest same], continues.cut⟩

/-! ## Beginnings -/

theorem dropWhile_append_semicolon {p : Char → Bool} (stops : p ';' = false) (s u : List Char) :
    (s ++ ';' :: u).dropWhile p = s.dropWhile p ++ ';' :: u := by
  induction s with
  | nil => exact List.dropWhile_cons_of_neg (Bool.eq_false_iff.mp stops)
  | cons c s ih =>
    rw [List.cons_append, List.dropWhile_cons, List.dropWhile_cons, ih]
    split
    · rfl
    · rfl

theorem takeWhile_append_semicolon {p : Char → Bool} (stops : p ';' = false) (s u : List Char) :
    (s ++ ';' :: u).takeWhile p = s.takeWhile p := by
  induction s with
  | nil => exact List.takeWhile_cons_of_neg (Bool.eq_false_iff.mp stops)
  | cons c s ih =>
    rw [List.cons_append, List.takeWhile_cons, List.takeWhile_cons, ih]

/-- Whether a text begins with characters other than a semicolon does not depend on what follows. -/
theorem isPrefixOf_append_semicolon {p : List Char} (other : ';' ∉ p) (s u : List Char) :
    p.isPrefixOf (s ++ ';' :: u) = p.isPrefixOf s := by
  induction p generalizing s with
  | nil => rfl
  | cons c p ih =>
    have first := List.ne_of_not_mem_cons other
    have others := List.not_mem_of_not_mem_cons other
    cases s with
    | nil =>
      show (c == ';' && p.isPrefixOf u) = false
      rw [beq_eq_false_iff_ne.mpr first.symm]
      rfl
    | cons d s =>
      show (c == d && p.isPrefixOf (s ++ ';' :: u)) = _
      rw [ih others]
      rfl

theorem drop_append_semicolon {p s : List Char} (front : p.isPrefixOf s = true) (u : List Char) :
    (s ++ ';' :: u).drop p.length = s.drop p.length ++ ';' :: u :=
  List.drop_append_of_le_length (List.isPrefixOf_iff_prefix.mp front).length_le

/-! ## Names -/

theorem hexDigits_append_semicolon (bound : Nat) (s u : List Char) :
    hexDigits bound (s ++ ';' :: u) =
      ((hexDigits bound s).1, (hexDigits bound s).2 ++ ';' :: u) := by
  induction bound generalizing s with
  | zero => rfl
  | succ bound ih =>
    cases s with
    | nil => rfl
    | cons c s =>
      rw [List.cons_append, hexDigits, hexDigits, ih]
      split
      · rfl
      · rfl

theorem continues_escape (s u : List Char) : Continues (escape s) (escape (s ++ ';' :: u)) u := by
  cases s with
  | nil =>
    have plain : isHex ';' = false := by decide
    rw [List.nil_append, escape, escape, plain]
    exact continues_none _ _ (within_some List.suffix_rfl)
  | cons c s =>
    rw [List.cons_append, escape, escape]
    split
    · rw [hexDigits_append_semicolon]
      generalize hexDigits 5 s = read
      have blank : (if (read.2 ++ ';' :: u).head?.any isBlank then (read.2 ++ ';' :: u).tail
          else read.2 ++ ';' :: u) =
        (if read.2.head?.any isBlank then read.2.tail else read.2) ++ ';' :: u := by
        cases read.2 with
        | nil => rfl
        | cons d rest =>
          show (if isBlank d then rest ++ ';' :: u else d :: rest ++ ';' :: u) =
            (if isBlank d then rest else d :: rest) ++ ';' :: u
          split
          · rfl
          · rfl
      simp only [blank]
      exact continues_some _ _ _
    · exact continues_some c s u

theorem escape_append_semicolon {s rest : List Char} {c : Char} (ended : escape s = (c, some rest))
    (u : List Char) : escape (s ++ ';' :: u) = (c, some (rest ++ ';' :: u)) := by
  have followed := (continues_escape s u).ended rest (congrArg Prod.snd ended)
  rw [followed, ended]

theorem within_escape_append_semicolon {s rest u : List Char} {c d : Char}
    (cut : escape s = (c, none)) (followed : escape (s ++ ';' :: u) = (d, some rest)) :
    rest <:+ u :=
  (continues_escape s u).cut (congrArg Prod.snd cut) rest (congrArg Prod.snd followed)

theorem isEscaped_append_semicolon (s u : List Char) : isEscaped (s ++ ';' :: u) = isEscaped s := by
  cases s with
  | nil => rfl
  | cons c s => rfl

theorem startsLetter_append_semicolon (s u : List Char) :
    startsLetter (s ++ ';' :: u) = startsLetter s := by
  cases s with
  | nil => rfl
  | cons c s => rw [List.cons_append, startsLetter, startsLetter, isEscaped_append_semicolon]

theorem startsName_append_semicolon (s u : List Char) :
    startsName (s ++ ';' :: u) = startsName s := by
  rw [startsName, startsName, startsLetter_append_semicolon,
    isPrefixOf_append_semicolon (by decide), isPrefixOf_append_semicolon (by decide)]
  cases dash : ['-'].isPrefixOf s with
  | false => rfl
  | true =>
    have rest := drop_append_semicolon dash u
    rw [List.length_singleton] at rest
    rw [rest, startsLetter_append_semicolon]

theorem nameChar?_append_semicolon_of_none {s : List Char} (none : nameChar? s = none)
    (u : List Char) : nameChar? (s ++ ';' :: u) = Option.none := by
  cases s with
  | nil => rfl
  | cons c s =>
    rw [List.cons_append, nameChar?, isEscaped_append_semicolon]
    rw [nameChar?] at none
    split at none
    · cases none
    next plain =>
      rw [if_neg plain]
      split at none
      · cases none
      next escaped => rw [if_neg escaped]

theorem exists_nameChar?_append_semicolon {s : List Char} {read : Char × Rest}
    (first : nameChar? s = some read) (u : List Char) :
    ∃ followed, nameChar? (s ++ ';' :: u) = some followed ∧ Continues read followed u := by
  cases s with
  | nil => cases first
  | cons c s =>
    rw [List.cons_append, nameChar?, isEscaped_append_semicolon]
    rw [nameChar?] at first
    split at first
    next plain =>
      cases first
      exact ⟨_, if_pos plain, continues_some c s u⟩
    next plain =>
      split at first
      next escaped =>
        refine ⟨_, (if_neg plain).trans (if_pos escaped), ?_⟩
        exact Option.some.inj first ▸ continues_escape s u
      next => cases first

theorem continues_name (s u : List Char) : Continues (name s) (name (s ++ ';' :: u)) u := by
  induction s using name.induct with
  | case1 s first =>
    have followed : name (s ++ ';' :: u) = ([], some (s ++ ';' :: u)) := by
      rw [name, nameChar?_append_semicolon_of_none first]
    rw [name, first, followed]
    exact continues_some [] s u
  | case2 s c first =>
    obtain ⟨⟨d, r⟩, there, continues⟩ := exists_nameChar?_append_semicolon first u
    rw [name.eq_def s, first, name, there]
    have within : Within r u := continues.cut rfl
    cases r with
    | none => exact continues_none _ _ (within_none u)
    | some rest => exact continues_none _ _ ((within_name rest).trans (within rest rfl))
  | case3 s c rest first ih =>
    obtain ⟨followed, there, continues⟩ := exists_nameChar?_append_semicolon first u
    obtain rfl := continues.ended rest rfl
    rw [name.eq_def s, first, name, there]
    exact ih.map (c :: ·)

theorem isSome_nameChar?_append_semicolon (s u : List Char) :
    (nameChar? (s ++ ';' :: u)).isSome = (nameChar? s).isSome := by
  cases first : nameChar? s with
  | none => rw [nameChar?_append_semicolon_of_none first]
  | some read =>
    obtain ⟨followed, there, -⟩ := exists_nameChar?_append_semicolon first u
    rw [there]
    rfl

/-! ## Strings and addresses -/

theorem Continues.push {alone followed : Option (List Char) × Rest}
    (continues : Continues alone followed u) (c : Char) :
    Continues (Lexical.push c alone) (Lexical.push c followed) u :=
  continues.map (Option.map (c :: ·))

theorem drop_one_append_semicolon {s : List Char} (line : isEscaped s = false) (u : List Char) :
    (s ++ ';' :: u).drop 1 = s.drop 1 ++ ';' :: u := by
  cases s with
  | nil => cases line
  | cons c s => rfl

theorem continues_quoted {quote : Char} (other : quote ≠ ';') (s u : List Char) :
    Continues (quoted quote s) (quoted quote (s ++ ';' :: u)) u := by
  fun_induction quoted quote s with
  | case1 =>
    rw [List.nil_append, quoted, if_neg other.symm, if_neg (by decide), if_neg (by decide)]
    exact continues_none _ _ (within_quoted quote u)
  | case2 s =>
    rw [List.cons_append, quoted, if_pos rfl]
    exact continues_some _ s u
  | case3 s notQuote =>
    rw [List.cons_append, quoted, if_neg notQuote, if_pos rfl]
    exact continues_some _ ('\n' :: s) u
  | case4 s goesOn c escaped notQuote notLine =>
    rw [List.cons_append, quoted, if_neg notQuote, if_neg notLine, if_pos rfl,
      isEscaped_append_semicolon, if_pos goesOn]
    split
    next => exact continues_none _ _ (within_none u)
    next e rest followed =>
      have behind := within_escape_append_semicolon escaped followed
      exact continues_none _ _ ((within_quoted quote rest).trans behind)
  | case5 s goesOn e rest escaped notQuote notLine ih =>
    rw [List.cons_append, quoted, if_neg notQuote, if_neg notLine, if_pos rfl,
      isEscaped_append_semicolon, if_pos goesOn]
    have followed := escape_append_semicolon escaped u
    split
    next ended => cases ended.symm.trans followed
    next ended =>
      cases ended.symm.trans followed
      exact ih.push e
  | case6 s line notQuote notLine ih =>
    rw [List.cons_append, quoted, if_neg notQuote, if_neg notLine, if_pos rfl,
      isEscaped_append_semicolon, if_neg line,
      drop_one_append_semicolon (Bool.eq_false_iff.mpr line)]
    exact ih
  | case7 c s notQuote notLine notSlash ih =>
    rw [List.cons_append, quoted, if_neg notQuote, if_neg notLine, if_neg notSlash]
    exact ih.push c

theorem afterBadUrl_semicolon (u : List Char) : afterBadUrl (';' :: u) = afterBadUrl u := by
  rw [afterBadUrl, if_neg (by decide), if_neg (by simp)]

theorem continues_afterBadUrl {α : Type} (a : α) (s u : List Char) :
    Continues (a, afterBadUrl s) (a, afterBadUrl (s ++ ';' :: u)) u := by
  fun_induction afterBadUrl s with
  | case1 =>
    rw [List.nil_append, afterBadUrl_semicolon]
    exact continues_none _ _ (within_afterBadUrl u)
  | case2 s =>
    rw [List.cons_append, afterBadUrl, if_pos rfl]
    exact continues_some a s u
  | case3 c s notEnd escapes e escaped =>
    rw [List.cons_append, afterBadUrl, if_neg notEnd, isEscaped_append_semicolon, if_pos escapes]
    split
    next => exact continues_none _ _ (within_none u)
    next d rest followed =>
      have behind := within_escape_append_semicolon escaped followed
      exact continues_none _ _ ((within_afterBadUrl rest).trans behind)
  | case4 c s notEnd escapes e rest escaped ih =>
    rw [List.cons_append, afterBadUrl, if_neg notEnd, isEscaped_append_semicolon, if_pos escapes]
    have followed := escape_append_semicolon escaped u
    split
    next ended => cases ended.symm.trans followed
    next ended =>
      cases ended.symm.trans followed
      exact ih
  | case5 c s notEnd plain ih =>
    rw [List.cons_append, afterBadUrl, if_neg notEnd, isEscaped_append_semicolon, if_neg plain]
    exact ih

theorem dropBlanks_append_semicolon (s u : List Char) :
    dropBlanks (s ++ ';' :: u) = dropBlanks s ++ ';' :: u :=
  dropWhile_append_semicolon (by decide) s u

theorem continues_url (s u : List Char) : Continues (url s) (url (s ++ ';' :: u)) u := by
  fun_induction url s with
  | case1 =>
    rw [List.nil_append, url, if_neg (by decide), if_neg (by decide), if_neg (by decide),
      if_neg (by decide)]
    exact continues_none _ _ (within_url u)
  | case2 s =>
    rw [List.cons_append, url, if_pos rfl]
    exact continues_some _ s u
  | case3 c s notEnd blank behind =>
    -- Behind blanks nothing but the end of an address may stand.
    rw [List.cons_append, url, if_neg notEnd, if_pos blank, dropBlanks_append_semicolon, behind]
    show Continues _ (none, afterBadUrl (';' :: u)) u
    rw [afterBadUrl_semicolon]
    exact continues_none _ _ (within_afterBadUrl u)
  | case4 c s notEnd blank rest behind =>
    rw [List.cons_append, url, if_neg notEnd, if_pos blank, dropBlanks_append_semicolon, behind]
    exact continues_some _ rest u
  | case5 c s notEnd blank d rest behind other =>
    rw [List.cons_append, url, if_neg notEnd, if_pos blank, dropBlanks_append_semicolon, behind]
    show Continues _ (if d = ')' then _ else (none, afterBadUrl ((d :: rest) ++ ';' :: u))) u
    rw [if_neg other]
    exact continues_afterBadUrl none (d :: rest) u
  | case6 c s notEnd notBlank bad =>
    rw [List.cons_append, url, if_neg notEnd, if_neg notBlank, if_pos bad]
    exact continues_afterBadUrl none s u
  | case7 s escapes e escaped notEnd notBlank good =>
    rw [List.cons_append, url, if_neg notEnd, if_neg notBlank, if_neg good, if_pos rfl,
      isEscaped_append_semicolon, if_pos escapes]
    split
    next => exact continues_none _ _ (within_none u)
    next d rest followed =>
      have behind := within_escape_append_semicolon escaped followed
      exact continues_none _ _ ((within_url rest).trans behind)
  | case8 s escapes e rest escaped notEnd notBlank good ih =>
    rw [List.cons_append, url, if_neg notEnd, if_neg notBlank, if_neg good, if_pos rfl,
      isEscaped_append_semicolon, if_pos escapes]
    have followed := escape_append_semicolon escaped u
    split
    next ended => cases ended.symm.trans followed
    next ended =>
      cases ended.symm.trans followed
      exact ih.push e
  | case9 s line notEnd notBlank good =>
    rw [List.cons_append, url, if_neg notEnd, if_neg notBlank, if_neg good, if_pos rfl,
      isEscaped_append_semicolon, if_neg line]
    exact continues_afterBadUrl none s u
  | case10 c s notEnd notBlank good notSlash ih =>
    rw [List.cons_append, url, if_neg notEnd, if_neg notBlank, if_neg good, if_neg notSlash]
    exact ih.push c

theorem continues_afterComment {α : Type} (a : α) (s u : List Char) :
    Continues (a, afterComment s) (a, afterComment (s ++ ';' :: u)) u := by
  fun_induction afterComment s with
  | case1 => exact continues_none _ _ (within_afterComment u)
  | case2 c s ends =>
    have slash := (Bool.and_eq_true _ _ ▸ ends).2
    rw [List.cons_append, afterComment, isPrefixOf_append_semicolon (by decide), if_pos ends]
    exact drop_append_semicolon slash u ▸ continues_some a (s.drop 1) u
  | case3 c s goesOn ih =>
    rw [List.cons_append, afterComment, isPrefixOf_append_semicolon (by decide), if_neg goesOn]
    exact ih

/-! ## Numbers -/

theorem sign_append_semicolon (s u : List Char) :
    sign (s ++ ';' :: u) = ((sign s).1, (sign s).2 ++ ';' :: u) := by
  cases s with
  | nil => rfl
  | cons c s =>
    rw [List.cons_append, sign, sign]
    split
    · rfl
    · rfl

theorem startsDigits_append_semicolon (s u : List Char) :
    startsDigits (s ++ ';' :: u) = startsDigits s := by
  cases s with
  | nil => rfl
  | cons c s => rfl

theorem digits_append_semicolon (s u : List Char) :
    digits (s ++ ';' :: u) = ((digits s).1, (digits s).2 ++ ';' :: u) :=
  Prod.ext (takeWhile_append_semicolon (by decide) s u) (dropWhile_append_semicolon (by decide) s u)

theorem fraction_append_semicolon (s u : List Char) :
    fraction (s ++ ';' :: u) = ((fraction s).1, (fraction s).2 ++ ';' :: u) := by
  cases s with
  | nil => rfl
  | cons c s =>
    rw [List.cons_append, fraction, fraction, startsDigits_append_semicolon,
      digits_append_semicolon]
    split
    · rfl
    · rfl

theorem exponent_append_semicolon (s u : List Char) :
    exponent (s ++ ';' :: u) = ((exponent s).1, (exponent s).2 ++ ';' :: u) := by
  cases s with
  | nil => rfl
  | cons c s =>
    rw [List.cons_append, exponent, exponent, sign_append_semicolon, startsDigits_append_semicolon,
      digits_append_semicolon]
    split
    · rfl
    · rfl

theorem number_append_semicolon (s u : List Char) :
    number (s ++ ';' :: u) = ((number s).1, (number s).2 ++ ';' :: u) := by
  simp only [number, sign_append_semicolon, digits_append_semicolon, fraction_append_semicolon,
    exponent_append_semicolon]

theorem startsNumber_append_semicolon (s u : List Char) :
    startsNumber (s ++ ';' :: u) = startsNumber s := by
  rw [startsNumber, startsNumber, sign_append_semicolon, startsDigits_append_semicolon,
    fraction_append_semicolon]

theorem continues_numeric (s u : List Char) :
    Continues (numeric s) (numeric (s ++ ';' :: u)) u := by
  unfold numeric
  rw [number_append_semicolon]
  generalize number s = read
  obtain ⟨digits, rest⟩ := read
  simp only [startsName_append_semicolon, isPrefixOf_append_semicolon (p := ['%']) (by decide)]
  split
  · exact (continues_name rest u).map (some ∘ Token.dimension digits)
  · split
    next percent => exact drop_append_semicolon percent u ▸ continues_some _ (rest.drop 1) u
    next => exact continues_some _ rest u

/-! ## First tokens -/

theorem continues_nameToken {alone followed : List Char × Rest}
    (continues : Continues alone followed u) :
    Continues (nameToken alone.1 alone.2) (nameToken followed.1 followed.2) u := by
  obtain ⟨n, r⟩ := alone
  cases r with
  | none => exact continues_none _ _ (within_nameToken (continues.cut rfl) _)
  | some s =>
    obtain rfl := continues.ended s rfl
    cases s with
    | nil => exact continues_some _ [] u
    | cons c s =>
      by_cases bracket : c = '('
      · subst bracket
        show Continues (nameToken n (some ('(' :: s)))
          (nameToken n (some ('(' :: (s ++ ';' :: u)))) u
        have quotes : (dropBlanks s ++ ';' :: u).head?.any isQuote =
            (dropBlanks s).head?.any isQuote := by
          cases dropBlanks s with
          | nil => rfl
          | cons d t => rfl
        rw [nameToken, nameToken, dropBlanks_append_semicolon, quotes]
        split
        · exact (continues_url (dropBlanks s) u).map fun value =>
            some (value.elim Token.badUrl Token.url)
        · exact continues_some _ s u
      · have alone : ∀ t, nameToken n (some (c :: t)) = (some (.ident n), some (c :: t)) := by
          intro t
          unfold nameToken
          split
          next same => exact absurd (List.cons.inj (Option.some.inj same)).1 bracket
          next => rfl
        show Continues _ (nameToken n (some (c :: (s ++ ';' :: u)))) u
        rw [alone, alone]
        exact continues_some _ (c :: s) u

/-- A token goes on, or not, as the text that it is cut from. -/
theorem continues_token (c : Char) (s u : List Char) :
    Continues (token c s) (token c (s ++ ';' :: u)) u := by
  unfold token
  have starts : ∀ t, c :: (t ++ ';' :: u) = (c :: t) ++ ';' :: u := fun _ => rfl
  simp only [starts, startsNumber_append_semicolon, startsName_append_semicolon,
    isPrefixOf_append_semicolon (p := ['*']) (by decide),
    isPrefixOf_append_semicolon (p := ['-', '>']) (by decide),
    isPrefixOf_append_semicolon (p := ['!', '-', '-']) (by decide),
    isSome_nameChar?_append_semicolon, dropBlanks_append_semicolon]
  split
  · exact continues_some _ _ u
  split
  next quote =>
    have other : c ≠ ';' := by
      rintro rfl
      cases quote
    exact (continues_quoted other s u).map fun value =>
      some (value.elim Token.badString Token.string)
  split
  next opens =>
    have star := (Bool.and_eq_true _ _ ▸ opens).2
    exact drop_append_semicolon star u ▸ continues_afterComment _ _ u
  split
  · exact continues_numeric (c :: s) u
  split
  next closes =>
    have front := (Bool.and_eq_true _ _ ▸ closes).2
    exact drop_append_semicolon front u ▸ continues_some _ _ u
  split
  · exact continues_nameToken (continues_name (c :: s) u)
  split
  · exact (continues_name s u).map fun n => some (Token.hash n (startsName s))
  split
  · exact (continues_name s u).map (some ∘ Token.atKeyword)
  split
  next opens =>
    have front := (Bool.and_eq_true _ _ ▸ opens).2
    exact drop_append_semicolon front u ▸ continues_some _ _ u
  · exact continues_some _ s u

/-! ## Texts in front of a semicolon -/

theorem token_semicolon (u : List Char) : token ';' u = (some .semicolon, some u) := by rfl

/-- A semicolon behind a text that ends no token early is a token between those of both sides. -/
theorem scan_append_semicolon {s : List Char} (whole : (scan s).2 = true) (u : List Char) :
    scan (s ++ ';' :: u) = ((scan s).1 ++ .semicolon :: (scan u).1, (scan u).2) := by
  fun_induction scan s with
  | case1 => exact scan_cons (token_semicolon u)
  | case2 => cases whole
  | case3 c s t rest first ih =>
    have followed := (continues_token c s u).ended rest (congrArg Prod.snd first)
    rw [first] at followed
    rw [List.cons_append, scan_cons followed, ih whole, List.append_assoc]

end PageStudio.Css.Lexical
