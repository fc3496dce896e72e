import PageStudio.Project.Folder
import PageStudio.Proofs.Dict
import PageStudio.Proofs.Text.Piece

/-!
# Plain names in folders

A plain name is a single part of a path. Such a name leads into the folder itself, and one behind
another into a folder of that. A file that is written there is found there, is no folder, and leaves
all other files as they were.
-/

namespace PageStudio

/-! ## Paths -/

namespace Path

/-- A name that is one part of a path, can be given to something, and stands neither for nothing nor
for the folder itself or the one around it. -/
structure Plain (name : String) : Prop where
  nonempty : name ≠ ""
  not_dot : name ≠ "."
  not_dots : name ≠ ".."
  no_slash : '/' ∉ name.toList
  no_zero : '\x00' ∉ name.toList
  short : name.utf8ByteSize ≤ longestName

theorem plain_iff {name : String} : Plain name ↔ name ≠ "" ∧ name ≠ "." ∧ name ≠ ".." ∧
    '/' ∉ name.toList ∧ '\x00' ∉ name.toList ∧ name.utf8ByteSize ≤ longestName :=
  ⟨fun ⟨a, b, c, d, e, f⟩ => ⟨a, b, c, d, e, f⟩, fun ⟨a, b, c, d, e, f⟩ => ⟨a, b, c, d, e, f⟩⟩

instance (name : String) : Decidable (Plain name) := decidable_of_iff _ plain_iff.symm

variable {dir name : String}

theorem toList_ne_nil (plain : Plain name) : name.toList ≠ [] :=
  fun none => plain.nonempty (String.toList_eq_nil_iff.mp none)

/-- A plain name is taken from a folder by putting a slash between them. -/
theorem join_eq (there : Plain dir) (plain : Plain name) : join dir name = dir ++ "/" ++ name := by
  unfold join
  split
  next rest slash => exact absurd (slash ▸ List.mem_cons_self) plain.no_slash
  next =>
    split
    next empty =>
      exact absurd (List.getLast?_eq_none_iff.mp empty) (toList_ne_nil there)
    next slash => exact absurd (List.mem_of_getLast? slash) there.no_slash
    next => rfl

theorem toList_join (there : Plain dir) (plain : Plain name) :
    (join dir name).toList = dir.toList ++ '/' :: name.toList := by
  rw [join_eq there plain, String.toList_append, String.toList_append, List.append_assoc]
  rfl

theorem parts_plain (plain : Plain name) : parts name = [name] := by
  rw [parts, Text.splitAt, Text.splitFrom_of_not_mem plain.no_slash]
  exact congrArg (fun s => [s]) String.ofList_toList

theorem parts_join (there : Plain dir) (plain : Plain name) :
    parts (join dir name) = [dir, name] := by
  rw [parts, toList_join there plain, Text.splitAt, Text.splitFrom_append there.no_slash,
    Text.splitAt, Text.splitFrom_of_not_mem plain.no_slash]
  exact congrArg₂ (fun s t => [s, t]) String.ofList_toList String.ofList_toList

theorem ofParts_join (there : Plain dir) (plain : Plain name) :
    ofParts [dir, name] = join dir name := (join_eq there plain).symm

theorem join_inj {other : String} (there : Plain dir) (plain : Plain name) (plain' : Plain other)
    (same : join dir name = join dir other) : name = other := by
  have parts := congrArg parts same
  rw [parts_join there plain, parts_join there plain'] at parts
  exact (List.cons.inj (List.cons.inj parts).2).1

theorem ne_join {other : String} (there : Plain dir) (plain : Plain name) (plain' : Plain other) :
    other ≠ join dir name := by
  intro same
  have parts := congrArg parts same
  rw [parts_plain plain', parts_join there plain] at parts
  cases parts

/-- A name that is taken from a folder is behind the last slash of the path. -/
theorem exists_toList_join (dir : String) (name_slash : '/' ∉ name.toList) :
    (join dir name).toList = name.toList ∨
      ∃ front, (join dir name).toList = front ++ '/' :: name.toList := by
  unfold join
  split
  next rest slash => exact absurd (slash ▸ List.mem_cons_self) name_slash
  next =>
    split
    next empty =>
      rw [String.toList_append, List.getLast?_eq_none_iff.mp empty]
      exact .inl rfl
    next slash =>
      obtain ⟨front, chars⟩ := List.getLast?_eq_some_iff.mp slash
      rw [String.toList_append, chars, List.append_assoc]
      exact .inr ⟨front, rfl⟩
    next =>
      rw [String.toList_append, String.toList_append, List.append_assoc]
      exact .inr ⟨dir.toList, rfl⟩

/-- It is the last part of the path. -/
theorem exists_parts_join (dir : String) (name_slash : '/' ∉ name.toList) :
    ∃ front, parts (join dir name) = front ++ [name] := by
  rcases exists_toList_join dir name_slash with alone | ⟨front, behind⟩
  · refine ⟨[], ?_⟩
    rw [parts, alone, Text.splitAt, Text.splitFrom_of_not_mem name_slash]
    exact congrArg (fun s => [s]) String.ofList_toList
  · obtain ⟨pieces, cut⟩ := Text.exists_splitFrom_append front [] name_slash
    refine ⟨pieces.map String.ofList, ?_⟩
    rw [parts, behind, Text.splitAt, cut, List.map_append]
    exact congrArg (_ ++ [·]) String.ofList_toList

/-- A path can be walked: it starts here and is not too long. -/
def Walkable (path : String) : Prop := isAbsolute path = false ∧ canFollow path = true

theorem walkable_plain (plain : Plain name) : Walkable name := by
  have short := plain.short
  refine ⟨beq_eq_false_iff_ne.mpr fun first => ?_, ?_⟩
  · exact plain.no_slash (List.mem_of_head? first)
  simp only [canFollow, Bool.and_eq_true, decide_eq_true_eq, Bool.not_eq_true',
    List.contains_eq_mem, decide_eq_false_iff_not]
  unfold longestName at short
  unfold longestPath
  exact ⟨by omega, plain.no_zero⟩

theorem walkable_join (there : Plain dir) (plain : Plain name) : Walkable (join dir name) := by
  have front := there.short
  have back := plain.short
  have size : (join dir name).utf8ByteSize = dir.utf8ByteSize + 1 + name.utf8ByteSize := by
    rw [join_eq there plain, String.utf8ByteSize_append, String.utf8ByteSize_append]
    rfl
  refine ⟨beq_eq_false_iff_ne.mpr fun first => ?_, ?_⟩
  · rw [toList_join there plain, List.head?_append_of_ne_nil _ (toList_ne_nil there)] at first
    exact there.no_slash (List.mem_of_head? first)
  simp only [canFollow, Bool.and_eq_true, decide_eq_true_eq, Bool.not_eq_true',
    List.contains_eq_mem, decide_eq_false_iff_not]
  unfold longestName at front back
  unfold longestPath
  refine ⟨by omega, fun zero => ?_⟩
  rw [toList_join there plain, List.mem_append, List.mem_cons] at zero
  rcases zero with zero | same | zero
  · exact there.no_zero zero
  · cases same
  · exact plain.no_zero zero

end Path

/-! ## Folders -/

namespace Folder

open PageStudio.Path

variable {f : Folder} {dir name path text : String} {ps : List String}

theorem hasFolder_nil (f : Folder) : f.hasFolder [] = true := rfl

/-- A plain name leads one part further. -/
theorem enter_plain (there : f.hasFolder ps = true) (plain : Plain name) :
    f.enter ps name = some (ps ++ [name]) := by
  have fits : canName name = true := decide_eq_true plain.short
  have other : ∀ {s}, name ≠ s → (name == s) = false := fun ne => beq_eq_false_iff_ne.mpr ne
  simp only [enter, there, other plain.nonempty, other plain.not_dot, other plain.not_dots, fits,
    Bool.not_true, Bool.or_self, Bool.false_eq_true, if_false, if_true]

theorem placeOf_plain (f : Folder) (plain : Plain name) : f.placeOf name = some [name] := by
  obtain ⟨relative, follows⟩ := walkable_plain plain
  simp only [placeOf, relative, follows, Bool.not_true, Bool.or_self, Bool.false_eq_true, if_false,
    parts_plain plain, List.foldlM_cons, List.foldlM_nil, enter_plain f.hasFolder_nil plain]
  rfl

theorem placeOf_join (there : f.hasFolder [dir] = true) (front : Plain dir) (plain : Plain name) :
    f.placeOf (join dir name) = some [dir, name] := by
  obtain ⟨relative, follows⟩ := walkable_join front plain
  have first : f.enter [] dir = some [dir] := enter_plain f.hasFolder_nil front
  have second : f.enter [dir] name = some [dir, name] := enter_plain there plain
  simp only [placeOf, relative, follows, Bool.not_true, Bool.or_self, Bool.false_eq_true, if_false,
    parts_join front plain, List.foldlM_cons, List.foldlM_nil, first, second, Option.bind_eq_bind,
    Option.bind_some]
  rfl

/-- The folder with another text at a path. -/
def withFile (f : Folder) (path text : String) : Folder :=
  { f with files := f.files.insert path text }

/-- A file needs no folder but those around it. -/
theorem hasFolder_withFile (f : Folder) (path text : String) (ps : List String) :
    (f.withFile path text).hasFolder ps = (f.hasFolder ps || isInside ps path) := by
  have keys : (f.withFile path text).files.keys.any (isInside ps) =
      (f.files.keys.any (isInside ps) || isInside ps path) := by
    rw [Bool.eq_iff_iff, Bool.or_eq_true, List.any_eq_true, List.any_eq_true]
    constructor
    · rintro ⟨k, mem, inside⟩
      rcases (Dict.mem_keys_insert _).mp mem with rfl | old
      · exact .inr inside
      · exact .inl ⟨k, old, inside⟩
    · rintro (⟨k, old, inside⟩ | inside)
      · exact ⟨k, (Dict.mem_keys_insert _).mpr (.inr old), inside⟩
      · exact ⟨path, (Dict.mem_keys_insert _).mpr (.inl rfl), inside⟩
  unfold hasFolder
  rw [keys, ← Bool.or_assoc]
  rfl

/-- A plain name stands in no folder but this one. -/
theorem isInside_plain (plain : Plain name) (some : ps ≠ []) : isInside ps name = false := by
  have short : ¬ [name].length > ps.length := Nat.not_lt.mpr (List.length_pos_iff.mpr some)
  rw [isInside, parts_plain plain, decide_eq_false short, Bool.false_and]

/-- A file is written where a path leads and no folder is. -/
theorem write_eq (place : f.placeOf path = some ps) (inside : ps.head? ≠ some "..")
    (free : f.hasFolder ps = false) (text : String) :
    f.write path text = some (f.withFile (ofParts ps) text) := by
  have here : (ps.head? == some "..") = false := beq_eq_false_iff_ne.mpr inside
  simp only [write, place, Option.bind_eq_bind, Option.bind_some, free, here, Bool.false_eq_true,
    if_false, withFile]

theorem head?_ne (plain : Plain name) (rest : List String) : (name :: rest).head? ≠ some ".." :=
  fun same => plain.not_dots (Option.some.inj same)

theorem write_plain (plain : Plain name) (free : f.hasFolder [name] = false) (text : String) :
    f.write name text = some (f.withFile name text) :=
  write_eq (placeOf_plain f plain) (head?_ne plain []) free text

theorem write_join (there : f.hasFolder [dir] = true) (front : Plain dir) (plain : Plain name)
    (free : f.hasFolder [dir, name] = false) (text : String) :
    f.write (join dir name) text = some (f.withFile (join dir name) text) := by
  rw [write_eq (placeOf_join there front plain) (head?_ne front [name]) free text,
    ofParts_join front plain]

/-- What is written under a plain name is found there. -/
theorem look_plain (plain : Plain name) (found : f.files.get? name = some text) :
    f.look name = .text text := by
  have own : f.files.get? (ofParts [name]) = some text := found
  simp only [look, placeOf_plain f plain, own]

/-- Where neither a file nor a folder has a plain name, nothing is found. -/
theorem look_plain_of_absent (plain : Plain name) (noFile : f.files.get? name = none)
    (noFolder : f.hasFolder [name] = false) : f.look name = .missing := by
  have own : f.files.get? (ofParts [name]) = none := noFile
  simp only [look, placeOf_plain f plain, own, noFolder, Bool.false_eq_true, if_false]

/-- A folder of a plain name is made, unless a file has the name. -/
theorem makeFolder_plain (plain : Plain dir) : f.makeFolder dir = f.makeAt [dir] := by
  obtain ⟨relative, follows⟩ := walkable_plain plain
  have steps : (parts dir).filter (· != "") = [dir] := by
    rw [parts_plain plain]
    exact List.filter_cons_of_pos (bne_iff_ne.mpr plain.nonempty)
  have last : ([dir].getLast? == some ".") = false :=
    beq_eq_false_iff_ne.mpr fun same => plain.not_dot (Option.some.inj same)
  have first : makeNext (f, []) dir = (f.makeAt [dir]).map fun made => (made, [dir]) := by
    have entered : f.enter [] dir = some [dir] := enter_plain f.hasFolder_nil plain
    simp only [makeNext, entered, Option.bind_eq_bind, Option.bind_some, Option.map_eq_bind]
    rfl
  unfold makeFolder
  rw [relative, follows]
  show (if (_ == some ".") = true then _ else _) = _
  rw [steps, last]
  show (makeNext (f, []) dir >>= _) >>= _ = _
  rw [first]
  cases f.makeAt [dir] with
  | none => rfl
  | some made => rfl

/-- What is made is there. -/
theorem hasFolder_of_makeAt {g : Folder} (made : f.makeAt ps = some g) : g.hasFolder ps = true := by
  unfold makeAt at made
  split at made
  next there =>
    cases made
    exact there
  next =>
    split at made
    next => cases made
    next =>
      cases made
      simp only [hasFolder, List.contains_cons, beq_self_eq_true, Bool.true_or, Bool.or_true]

/-- In it there are no other folders than before. -/
theorem hasFolder_join_of_makeAt {g : Folder} (front : Plain dir) (plain : Plain name)
    (made : f.makeAt [dir] = some g) : g.hasFolder [dir, name] = f.hasFolder [dir, name] := by
  unfold makeAt at made
  split at made
  next =>
    cases made
    rfl
  next =>
    split at made
    next => cases made
    next =>
      cases made
      have other : (ofParts [dir, name] == dir) = false := by
        rw [ofParts_join front plain]
        exact beq_eq_false_iff_ne.mpr (ne_join front plain front).symm
      have own : ofParts [dir] = dir := rfl
      simp only [hasFolder, own, List.contains_cons, other, Bool.false_or]

/-- A name that stands for itself is the last part of the place where its path leads. -/
theorem getLast?_placeOf_join (slash : '/' ∉ name.toList) (other : name ∉ ["", ".", ".."])
    (place : f.placeOf (join dir name) = some ps) : ps.getLast? = some name := by
  obtain ⟨front, cut⟩ := exists_parts_join dir slash
  unfold placeOf at place
  split at place
  next => cases place
  next =>
    rw [cut, List.foldlM_append] at place
    obtain ⟨qs, -, last⟩ := Option.bind_eq_some_iff.mp place
    rw [List.foldlM_cons] at last
    obtain ⟨rs, entered, same⟩ := Option.bind_eq_some_iff.mp last
    cases same
    simp only [List.mem_cons, List.not_mem_nil, or_false, not_or] at other
    simp only [enter, beq_eq_false_iff_ne.mpr other.1, beq_eq_false_iff_ne.mpr other.2.1,
      beq_eq_false_iff_ne.mpr other.2.2, Bool.or_self, Bool.false_eq_true, if_false] at entered
    split at entered
    next => cases entered
    next =>
      split at entered
      next =>
        cases entered
        exact List.getLast?_concat
      next => cases entered

/-- A text is written where a path leads and no folder is. What is beside the folder is lost. -/
theorem exists_of_write {g : Folder} (written : f.write path text = some g) :
    ∃ ps, f.placeOf path = some ps ∧ f.hasFolder ps = false ∧
      g = if ps.head? = some ".." then f else f.withFile (ofParts ps) text := by
  obtain ⟨ps, place, rest⟩ := Option.bind_eq_some_iff.mp written
  split at rest
  next => cases rest
  next free =>
    refine ⟨ps, place, Bool.eq_false_iff.mpr free, ?_⟩
    split at rest
    next around =>
      cases rest
      rw [if_pos (eq_of_beq around)]
    next inside =>
      cases rest
      rw [if_neg (mt beq_iff_eq.mpr inside)]
      rfl

/-! ## Folders that are made -/

theorem files_makeAt {g : Folder} (made : f.makeAt ps = some g) : g.files = f.files := by
  unfold makeAt at made
  split at made
  next =>
    cases made
    rfl
  next =>
    split at made
    next => cases made
    next =>
      cases made
      rfl

theorem files_makeNext {place place' : Folder × List String} {part : String}
    (made : makeNext place part = some place') : place'.1.files = place.1.files := by
  obtain ⟨ps, -, rest⟩ := Option.bind_eq_some_iff.mp made
  obtain ⟨g, here, same⟩ := Option.bind_eq_some_iff.mp rest
  cases same
  exact files_makeAt here

theorem files_foldlM_makeNext {names : List String} {place place' : Folder × List String}
    (made : names.foldlM makeNext place = some place') : place'.1.files = place.1.files := by
  induction names generalizing place with
  | nil =>
    cases made
    rfl
  | cons part rest ih =>
    rw [List.foldlM_cons] at made
    obtain ⟨next, here, there⟩ := Option.bind_eq_some_iff.mp made
    exact (ih there).trans (files_makeNext here)

/-- Making folders leaves all files as they are. -/
theorem files_makeFolder {g : Folder} (made : f.makeFolder path = some g) : g.files = f.files := by
  obtain ⟨-, -, rest⟩ := Option.bind_eq_some_iff.mp made
  dsimp only at rest
  split at rest
  next =>
    obtain ⟨place, around, rest⟩ := Option.bind_eq_some_iff.mp rest
    obtain ⟨ps, -, rest⟩ := Option.bind_eq_some_iff.mp rest
    split at rest
    next =>
      cases rest
      exact files_foldlM_makeNext around
    next => cases rest
  next =>
    obtain ⟨place, all, same⟩ := Option.bind_eq_some_iff.mp rest
    cases same
    exact files_foldlM_makeNext all

/-! ## Many files -/

/-- The folder with texts under names in a folder of it. -/
def withFiles (f : Folder) (dir : String) (files : List (String × String)) : Folder :=
  files.foldl (fun f x => f.withFile (join dir x.1) x.2) f

theorem folders_withFiles (f : Folder) (dir : String) (files : List (String × String)) :
    (f.withFiles dir files).folders = f.folders := by
  induction files generalizing f with
  | nil => rfl
  | cons x rest ih => exact ih _

theorem mem_keys_withFiles {files : List (String × String)} :
    path ∈ (f.withFiles dir files).files.keys ↔
      path ∈ f.files.keys ∨ ∃ x ∈ files, path = join dir x.1 := by
  induction files generalizing f with
  | nil => simp only [withFiles, List.foldl_nil, List.not_mem_nil, false_and, exists_false, or_false]
  | cons x rest ih =>
    show path ∈ ((f.withFile (join dir x.1) x.2).withFiles dir rest).files.keys ↔ _
    rw [ih, withFile, Dict.mem_keys_insert, or_assoc, or_left_comm]
    simp only [List.mem_cons, or_and_right, exists_or, exists_eq_left]

/-- Other files stay as they were. -/
theorem get?_withFiles_of_other {files : List (String × String)}
    (other : ∀ x ∈ files, path ≠ join dir x.1) :
    (f.withFiles dir files).files.get? path = f.files.get? path := by
  induction files generalizing f with
  | nil => rfl
  | cons x rest ih =>
    obtain ⟨here, there⟩ := List.forall_mem_cons.mp other
    show ((f.withFile (join dir x.1) x.2).withFiles dir rest).files.get? path = _
    rw [ih there, withFile, Dict.get?_insert, if_neg here]

/-- Each text is found under its name, where no name is given twice. -/
theorem get?_withFiles {files : List (String × String)} (front : Plain dir)
    (plain : ∀ x ∈ files, Plain x.1) (once : (files.map (·.1)).Nodup) {x : String × String}
    (mem : x ∈ files) : (f.withFiles dir files).files.get? (join dir x.1) = some x.2 := by
  induction files generalizing f with
  | nil => cases mem
  | cons y rest ih =>
    obtain ⟨first, later⟩ := List.nodup_cons.mp once
    obtain ⟨here, there⟩ := List.forall_mem_cons.mp plain
    show ((f.withFile (join dir y.1) y.2).withFiles dir rest).files.get? _ = _
    rcases List.mem_cons.mp mem with rfl | mem
    · have other : ∀ z ∈ rest, join dir x.1 ≠ join dir z.1 := by
        intro z hz same
        have names : x.1 = z.1 := join_inj front here (there z hz) same
        exact first (List.mem_map.mpr ⟨z, hz, names.symm⟩)
      rw [get?_withFiles_of_other other, withFile, Dict.get?_insert, if_pos rfl]
    · exact ih there later mem

/-- No folder comes to be where a plain name is in a folder. -/
theorem hasFolder_withFile_join (front : Plain dir) (plain : Plain name) (other : String) :
    (f.withFile (join dir name) text).hasFolder [dir, other] = f.hasFolder [dir, other] := by
  have outside : isInside [dir, other] (join dir name) = false := by
    rw [isInside, parts_join front plain]
    rfl
  rw [hasFolder_withFile, outside, Bool.or_false]

end Folder

end PageStudio
