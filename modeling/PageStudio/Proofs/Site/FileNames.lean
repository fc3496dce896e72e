import PageStudio.Proofs.Dict
import PageStudio.Proofs.Text.Numbering
import PageStudio.Proofs.Text.Piece
import PageStudio.Site.FileNames

/-!
# File names of pages are distinct

Of the numbered names of a page one is free within as many tries as there are names taken, since
different numbers make different names. So no two pages have the same file, and none has a name
that is not that of a page.

## Main statements

* `freeName_not_mem`, `firstFree_freeName`: the name that is chosen is the first free one.
* `get?_fileNames`: the name of every page is known by the id of the page.
* `nodup_fileOf`: different pages have different names.
* `fileNames_assigned`: the names of all pages.
-/

namespace PageStudio.Site

/-! ## Numbered names -/

/-- What stands between the stem of a file name and its ending. -/
def numberChars (n : Nat) : List Char := if n ≤ 1 then [] else '-' :: Nat.toDigits 10 n

theorem toList_numbered (stem : String) (n : Nat) :
    (numbered stem n).toList = stem.toList ++ (numberChars n ++ ".html".toList) := by
  unfold numbered numberChars
  split
  next => rw [String.toList_append, List.nil_append]
  next =>
    simp only [String.toList_append, String.toList_ofList, List.append_assoc]
    rfl

theorem numberChars_inj {m n : Nat} (hm : 1 ≤ m) (hn : 1 ≤ n)
    (same : numberChars m = numberChars n) : m = n := by
  unfold numberChars at same
  split at same
  next =>
    split at same
    next => omega
    next => cases same
  next =>
    split at same
    next => cases same
    next => exact Decimal.toDigits_inj (List.cons.inj same).2

/-- Different numbers make different names. -/
theorem numbered_inj {stem : String} {m n : Nat} (hm : 1 ≤ m) (hn : 1 ≤ n)
    (same : numbered stem m = numbered stem n) : m = n := by
  have chars := congrArg String.toList same
  rw [toList_numbered, toList_numbered] at chars
  exact numberChars_inj hm hn (List.append_cancel_right (List.append_cancel_left chars))

/-! ## Names that are free -/

section Free

variable {taken : List String} {stem : String}

/-- The search for a file name is that for any numbered name. -/
theorem freeNumber_eq_firstFree (taken : List String) (stem : String) (tries n : Nat) :
    freeNumber taken stem tries n = Text.firstFree (numbered stem) taken tries n := by
  induction tries generalizing n with
  | zero => rfl
  | succ tries ih => rw [freeNumber, Text.firstFree, ih]

theorem distinguishes_numbered (stem : String) : Text.Distinguishes (numbered stem) 1 :=
  fun _ _ => numbered_inj

/-- The number that is chosen is the least one whose name is free. -/
theorem isLeastFree_freeNumber (taken : List String) (stem : String) :
    Text.IsLeastFree (numbered stem) taken 1 (freeNumber taken stem taken.length 1) := by
  rw [freeNumber_eq_firstFree]
  exact (Text.isLeastFree_firstFree (distinguishes_numbered stem) (Nat.le_refl _)).1

/-- The name that is chosen is free. -/
theorem freeName_not_mem : freeName taken stem ∉ taken := (isLeastFree_freeNumber taken stem).free

/-- The name of a page behind names that are given away: its stem alone where that is free, and
else with the least number from two on whose name is free. -/
inductive FirstFree (given : List String) (stem : String) : String → Prop
  | plain (free : stem ++ ".html" ∉ given) : FirstFree given stem (stem ++ ".html")
  | numbered {k : Nat} (two_le : 2 ≤ k) (plain_given : stem ++ ".html" ∈ given)
    (smaller_given : ∀ j, 2 ≤ j → j < k →
      stem ++ "-" ++ String.ofList (Nat.toDigits 10 j) ++ ".html" ∈ given)
    (free : stem ++ "-" ++ String.ofList (Nat.toDigits 10 k) ++ ".html" ∉ given) :
    FirstFree given stem (stem ++ "-" ++ String.ofList (Nat.toDigits 10 k) ++ ".html")

/-- Which names are given away matters, and not in what order. -/
theorem FirstFree.congr {given given' : List String} {name : String}
    (first : FirstFree given stem name) (same : ∀ n, n ∈ given ↔ n ∈ given') :
    FirstFree given' stem name := by
  cases first with
  | plain free => exact .plain (mt (same _).mpr free)
  | numbered two_le plain_given smaller_given free =>
    exact .numbered two_le ((same _).mp plain_given)
      (fun j least below => (same _).mp (smaller_given j least below)) (mt (same _).mpr free)

theorem firstFree_freeName (taken : List String) (stem : String) :
    FirstFree taken stem (freeName taken stem) := by
  obtain ⟨least, free, passed⟩ := isLeastFree_freeNumber taken stem
  unfold freeName
  generalize freeNumber taken stem taken.length 1 = k at least free passed ⊢
  have written : ∀ j, 2 ≤ j →
      numbered stem j = stem ++ "-" ++ String.ofList (Nat.toDigits 10 j) ++ ".html" :=
    fun j two_le => if_neg (by omega)
  rcases Nat.eq_or_lt_of_le least with rfl | more
  · exact .plain free
  · rw [written k more] at free ⊢
    refine .numbered more (passed 1 (Nat.le_refl 1) more) (fun j two_le below => ?_) free
    rw [← written j two_le]
    exact passed j (Nat.le_of_succ_le two_le) below

end Free

/-! ## The names of pages -/

/-- The form of the file names of pages: safe characters and the ending of pages. -/
def IsPageFile (name : String) : Prop :=
  ∃ front : List Char, name.toList = front ++ ".html".toList ∧ ∀ c ∈ front, Text.isNameChar c = true

theorem isNameChar_of_mem_numberChars {n : Nat} {c : Char} (mem : c ∈ numberChars n) :
    Text.isNameChar c = true := by
  unfold numberChars at mem
  split at mem
  next => cases mem
  next =>
    rcases List.mem_cons.mp mem with rfl | digit
    · rfl
    · have digit := Nat.isDigit_of_mem_toDigits (by omega) (by omega) digit
      simp [Text.isNameChar, Char.isAlphanum, digit]

theorem isPageFile_freeName {taken : List String} {stem : String}
    (safe : ∀ c ∈ stem.toList, Text.isNameChar c = true) : IsPageFile (freeName taken stem) := by
  refine ⟨stem.toList ++ numberChars (freeNumber taken stem taken.length 1), ?_, ?_⟩
  · rw [freeName, toList_numbered, List.append_assoc]
  · intro c mem
    rcases List.mem_append.mp mem with inside | number
    · exact safe c inside
    · exact isNameChar_of_mem_numberChars number

/-- A file name of a page has no other characters than safe ones and those of its ending. -/
theorem IsPageFile.not_mem {name : String} (page : IsPageFile name) {c : Char}
    (outside : Text.isNameChar c = false) (other : c ∉ ".html".toList) : c ∉ name.toList := by
  obtain ⟨front, chars, safe⟩ := page
  rw [chars]
  intro mem
  rcases List.mem_append.mp mem with inside | ending
  · rw [safe c inside] at outside
    cases outside
  · exact other ending

theorem getLast?_of_isPageFile {name : String} (page : IsPageFile name) :
    name.toList.getLast? = some 'l' := by
  obtain ⟨front, chars, -⟩ := page
  rw [chars, List.getLast?_append]
  rfl

/-- No page has a name with another ending. -/
theorem IsPageFile.ne {name other : String} (page : IsPageFile name)
    (ending : other.toList.getLast? ≠ some 'l') : name ≠ other := by
  rintro rfl
  exact ending (getLast?_of_isPageFile page)

theorem isNameChar_of_mem_stem {p : Page} : ∀ c ∈ (stem p).toList, Text.isNameChar c = true := by
  unfold stem
  simp only
  split
  next => exact List.all_eq_true.mp (by decide)
  next =>
    intro c mem
    rw [String.toList_ofList] at mem
    exact (List.mem_filter.mp mem).2

theorem stem_ne_empty (p : Page) : stem p ≠ "" := by
  unfold stem
  simp only
  split
  next => decide
  next some_char => exact fun empty => some_char (String.isEmpty_iff.mpr empty)

theorem isPageFile_of_mem {e : String × String} : {taken : List String} → {pages : List Page} →
    e ∈ namesFrom taken pages → IsPageFile e.2
  | _, [], mem => nomatch mem
  | taken, p :: rest, mem => by
    rcases List.mem_cons.mp mem with rfl | later
    · refine isPageFile_freeName fun c inside => ?_
      split at inside
      next => exact List.all_eq_true.mp (by decide) c inside
      next => exact isNameChar_of_mem_stem c inside
    · exact isPageFile_of_mem later

theorem map_fst_namesFrom : (taken : List String) → (pages : List Page) →
    (namesFrom taken pages).map (·.1) = pages.map (·.id)
  | _, [] => rfl
  | _, p :: rest => congrArg (p.id :: ·) (map_fst_namesFrom _ rest)

/-- Pages further back are named behind all names that are given away up to there. -/
theorem namesFrom_append (taken : List String) (front back : List Page) :
    namesFrom taken (front ++ back) = namesFrom taken front ++
      namesFrom (((namesFrom taken front).map (·.2)).reverse ++ taken) back := by
  induction front generalizing taken with
  | nil => rfl
  | cons p front ih =>
    simp only [List.cons_append, namesFrom, ih, List.map_cons, List.reverse_cons,
      List.append_assoc, List.nil_append]

/-- The names of pages are distinct and none was taken. -/
theorem nodup_map_snd_namesFrom : (taken : List String) → (pages : List Page) →
    ((namesFrom taken pages).map (·.2)).Nodup ∧
      ∀ name ∈ (namesFrom taken pages).map (·.2), name ∉ taken
  | _, [] => ⟨List.nodup_nil, nofun⟩
  | taken, p :: rest => by
    have here : freeName taken (if taken.isEmpty then "index" else stem p) ∉ taken :=
      freeName_not_mem
    obtain ⟨distinct, free⟩ := nodup_map_snd_namesFrom
      (freeName taken (if taken.isEmpty then "index" else stem p) :: taken) rest
    refine ⟨List.nodup_cons.mpr ⟨fun again => ?_, distinct⟩, ?_⟩
    · exact free _ again List.mem_cons_self
    · intro name mem
      rcases List.mem_cons.mp mem with rfl | later
      · exact here
      · exact fun old => free name later (List.mem_cons_of_mem _ old)

/-- The file of the page of an id, and the address `#` where there is no such page. -/
def fileOf (pages : List Page) (id : String) : String := ((fileNames pages).get? id).getD "#"

variable {pages : List Page}

/-- The name of every page is known by the id of the page. -/
theorem get?_fileNames {id : String} (page : id ∈ pages.map (·.id)) :
    (fileNames pages).get? id = some (fileOf pages id) := by
  rw [← map_fst_namesFrom [] pages] at page
  have known : ((fileNames pages).get? id).isSome = true :=
    (Dict.mem_keys_iff _).mp (Dict.mem_keys_ofList.mpr page)
  obtain ⟨name, found⟩ := Option.isSome_iff_exists.mp known
  rw [fileOf, found]
  rfl

theorem fileOf_of_not_mem {id : String} (none : id ∉ pages.map (·.id)) :
    fileOf pages id = "#" := by
  rw [← map_fst_namesFrom [] pages] at none
  unfold fileOf
  cases found : (fileNames pages).get? id with
  | none => rfl
  | some name =>
    exact absurd (Dict.mem_keys_ofList.mp ((Dict.mem_keys_iff _).mpr (found ▸ rfl))) none

/-- The names by the ids of the pages are those that are given to the pages in turn. -/
theorem map_fileOf (distinct : (pages.map (·.id)).Nodup) :
    pages.map (fun p => fileOf pages p.id) = (namesFrom [] pages).map (·.2) := by
  have once : ((namesFrom [] pages).map (·.1)).Nodup := by
    rw [map_fst_namesFrom]
    exact distinct
  calc pages.map (fun p => fileOf pages p.id)
      = (pages.map (·.id)).map (fileOf pages) := by rw [List.map_map]; rfl
    _ = ((namesFrom [] pages).map (·.1)).map (fileOf pages) := by rw [map_fst_namesFrom]
    _ = (namesFrom [] pages).map fun e => fileOf pages e.1 := by rw [List.map_map]; rfl
    _ = (namesFrom [] pages).map (·.2) := List.map_congr_left fun e mem => by
        have found : (fileNames pages).get? e.1 = some e.2 := Dict.get?_ofList_of_mem once mem
        rw [fileOf, found]
        rfl

/-- The first pages have the names that they have without those behind them. -/
theorem map_fileOf_front {front back : List Page}
    (distinct : ((front ++ back).map (·.id)).Nodup) :
    front.map (fun p => fileOf (front ++ back) p.id) = (namesFrom [] front).map (·.2) ∧
      back.map (fun p => fileOf (front ++ back) p.id) =
        (namesFrom ((namesFrom [] front).map (·.2)).reverse back).map (·.2) := by
  have names := map_fileOf distinct
  rw [List.map_append, namesFrom_append, List.append_nil, List.map_append] at names
  refine List.append_inj names ?_
  calc (front.map fun p => fileOf (front ++ back) p.id).length
      = ((namesFrom [] front).map (·.1)).length := by
        rw [map_fst_namesFrom, List.length_map, List.length_map]
    _ = ((namesFrom [] front).map (·.2)).length := by rw [List.length_map, List.length_map]

/-- A page that is not the first gets the first free name behind those of the pages before it. -/
theorem firstFree_fileOf {earlier later : List Page} {p : Page}
    (distinct : ((earlier ++ p :: later).map (·.id)).Nodup) (some_earlier : earlier ≠ []) :
    FirstFree (earlier.map fun q => fileOf (earlier ++ p :: later) q.id) (stem p)
      (fileOf (earlier ++ p :: later) p.id) := by
  obtain ⟨front, back⟩ := map_fileOf_front distinct
  rw [← front] at back
  have given : (earlier.map fun q => fileOf (earlier ++ p :: later) q.id).reverse.isEmpty =
      false := by
    simp [some_earlier]
  simp only [namesFrom, List.map_cons, given, Bool.false_eq_true, if_false] at back
  rw [(List.cons.inj back).1]
  exact (firstFree_freeName _ _).congr fun name => List.mem_reverse

/-- Different pages have different names. -/
theorem nodup_fileOf (distinct : (pages.map (·.id)).Nodup) :
    (pages.map fun p => fileOf pages p.id).Nodup := by
  rw [map_fileOf distinct]
  exact (nodup_map_snd_namesFrom [] pages).1

theorem isPageFile_fileOf {id : String} (page : id ∈ pages.map (·.id)) :
    IsPageFile (fileOf pages id) := by
  have found := get?_fileNames page
  rw [fileNames, Dict.get?_ofList] at found
  exact isPageFile_of_mem (List.mem_reverse.mp (Dict.mem_of_find? found))

theorem fileOf_head {p : Page} {rest : List Page}
    (distinct : ((p :: rest).map (·.id)).Nodup) : fileOf (p :: rest) p.id = "index.html" :=
  (List.cons.inj (map_fileOf distinct)).1

/-- A page that is put behind the others changes none of their names. -/
theorem get?_fileNames_concat {p q : Page} (distinct : (pages.map (·.id)).Nodup)
    (new : q.id ∉ pages.map (·.id)) (mem : p ∈ pages) :
    (fileNames (pages ++ [q])).get? p.id = (fileNames pages).get? p.id := by
  have all : ((pages ++ [q]).map (·.id)).Nodup := by
    rw [List.map_append, List.nodup_append]
    refine ⟨distinct, List.nodup_singleton _, ?_⟩
    rintro i old j added rfl
    cases List.mem_singleton.mp added
    exact new old
  have same : pages.map (fun p => fileOf (pages ++ [q]) p.id) =
      pages.map fun p => fileOf pages p.id := by
    rw [(map_fileOf_front all).1, map_fileOf distinct]
  have page : p.id ∈ pages.map (·.id) := List.mem_map_of_mem mem
  have page' : p.id ∈ (pages ++ [q]).map (·.id) := by
    rw [List.map_append]
    exact List.mem_append_left _ page
  rw [get?_fileNames page', get?_fileNames page, List.map_inj_left.mp same p mem]

/-- Every page has a file name, which is told by the id of the page, and no two have the same. The
first page is the index. Any other one is called after its stem, with the least number that is free
behind the names of the pages before it where the stem alone is not. So no page has the file of the
style sheet or of the script, or one in another folder, and a page that is put behind the others
changes none of their names. -/
theorem fileNames_assigned {pages : List Page} (distinct : (pages.map (·.id)).Nodup) :
    (∀ p ∈ pages, (fileNames pages).get? p.id = some (fileOf pages p.id)) ∧
    (pages.map fun p => fileOf pages p.id).Nodup ∧
    (∀ p ∈ pages.head?, fileOf pages p.id = "index.html") ∧
    (∀ earlier p later, pages = earlier ++ p :: later → earlier ≠ [] →
      stem p ≠ "" ∧ (∀ c ∈ (stem p).toList, c.isAlphanum = true ∨ c = '-') ∧
        FirstFree (earlier.map fun q => fileOf pages q.id) (stem p) (fileOf pages p.id)) ∧
    (∀ p ∈ pages, fileOf pages p.id ≠ "styles.css" ∧ fileOf pages p.id ≠ "script.js" ∧
      '/' ∉ (fileOf pages p.id).toList ∧ '\\' ∉ (fileOf pages p.id).toList) ∧
    ∀ q : Page, q.id ∉ pages.map (·.id) → ∀ p ∈ pages,
      (fileNames (pages ++ [q])).get? p.id = (fileNames pages).get? p.id := by
  refine ⟨fun p mem => get?_fileNames (List.mem_map_of_mem mem), nodup_fileOf distinct, ?_, ?_, ?_,
    fun q new p mem => get?_fileNames_concat distinct new mem⟩
  · intro p first
    cases pages with
    | nil => cases first
    | cons p' rest =>
      cases first
      exact fileOf_head distinct
  · rintro earlier p later rfl some_earlier
    refine ⟨stem_ne_empty p, fun c mem => ?_, firstFree_fileOf distinct some_earlier⟩
    simpa [Text.isNameChar] using isNameChar_of_mem_stem c mem
  · intro p mem
    have file := isPageFile_fileOf (List.mem_map_of_mem (f := (·.id)) mem)
    exact ⟨file.ne (by decide), file.ne (by decide), file.not_mem rfl (by decide),
      file.not_mem rfl (by decide)⟩

/-- Pages of which one is called like the number of another, one has a name without safe characters,
and one is called like the first. -/
def crowdedPages : List Page :=
  [{ id := "a", name := "Home" }, { id := "b", name := "About" }, { id := "c", name := "About 2" },
    { id := "d", name := "ABOUT" }, { id := "e", name := " ¡!" }, { id := "f", name := "Index" }]

theorem fileNames_assigned_crowdedPages :
    let added : Page := { id := "g", name := "About" }
    (crowdedPages.map (·.id)).Nodup ∧ added.id ∉ crowdedPages.map (·.id) ∧
      crowdedPages.map (fun p => fileOf crowdedPages p.id) =
        ["index.html", "about.html", "about-2.html", "about-3.html", "page.html", "index-2.html"] ∧
      FirstFree ["index.html", "about.html", "about-2.html"] "about" "about-3.html" ∧
      (fileNames (crowdedPages ++ [added])).get? "d" = some "about-3.html" := by
  intro added
  have distinct : (crowdedPages.map (·.id)).Nodup := by decide
  have new : added.id ∉ crowdedPages.map (·.id) := by decide
  have names : crowdedPages.map (fun p => fileOf crowdedPages p.id) = ["index.html", "about.html",
      "about-2.html", "about-3.html", "page.html", "index-2.html"] := by decide +kernel
  obtain ⟨known, -, -, named, -, kept⟩ := fileNames_assigned distinct
  have third : fileOf crowdedPages "d" = "about-3.html" :=
    Option.some.inj (congrArg (·[3]?) names)
  have earlier : (crowdedPages.take 3).map (fun p => fileOf crowdedPages p.id) =
      ["index.html", "about.html", "about-2.html"] := by
    rw [List.map_take, names]
    rfl
  have about : stem { id := "d", name := "ABOUT" } = "about" := by decide
  have mem : ({ id := "d", name := "ABOUT" } : Page) ∈ crowdedPages := by decide
  obtain ⟨-, -, first⟩ := named (crowdedPages.take 3) _ (crowdedPages.drop 4) rfl nofun
  rw [earlier, about, third] at first
  refine ⟨distinct, new, names, first, ?_⟩
  rw [kept added new _ mem, known _ mem, third]

end PageStudio.Site
