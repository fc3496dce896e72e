import PageStudio.Proofs.Json.Inversion

/-!
# Objects read as records

A text without faults has the tree of its value (`eq_toSource_of_toJson?`), so that what is read
from it is told by the value. Where the value is an object, a record has the fields of the known
members, if none of their names stands there twice (`Fields.read?_object_iff`).
-/

namespace PageStudio.Json

/-! ## Values without faults -/

mutual
/-- What has no faults is the tree of its value. -/
theorem eq_toSource_of_toJson? : {v : Source} → {j : Json} → v.toJson? = some j → v = j.toSource
  | .null, _, found | .bool _, _, found => by
    cases found
    rfl
  | .number n, _, found => by
    obtain ⟨m, rfl, rfl⟩ := Option.map_eq_some_iff.mp found
    rfl
  | .string s, _, found => by
    obtain ⟨t, rfl, rfl⟩ := Option.map_eq_some_iff.mp found
    rfl
  | .array items, _, found => by
    obtain ⟨values, all, rfl⟩ := Option.map_eq_some_iff.mp found
    rw [toSource, eq_itemsToSource_of_itemsToJson? all]
  | .object members, _, found => by
    obtain ⟨values, all, rfl⟩ := Option.map_eq_some_iff.mp found
    rw [toSource, eq_membersToSource_of_membersToJson? all]
  | .tooDeep _, _, found | .broken, _, found => by cases found

theorem eq_itemsToSource_of_itemsToJson? : {items : List Source} → {values : List Json} →
    Source.itemsToJson? items = some values → items = itemsToSource values
  | [], _, found => by
    cases found
    rfl
  | v :: rest, _, found => by
    obtain ⟨j, first, found⟩ := exists_of_bind_eq_some found
    obtain ⟨others, all, same⟩ := exists_of_bind_eq_some found
    cases same
    rw [itemsToSource, eq_toSource_of_toJson? first, eq_itemsToSource_of_itemsToJson? all]

theorem eq_membersToSource_of_membersToJson? : {members : List (Option String × Source)} →
    {values : List (String × Json)} → Source.membersToJson? members = some values →
      members = membersToSource values
  | [], _, found => by
    cases found
    rfl
  | (k, v) :: rest, _, found => by
    obtain ⟨name, named, found⟩ := exists_of_bind_eq_some found
    obtain ⟨j, first, found⟩ := exists_of_bind_eq_some found
    obtain ⟨others, all, same⟩ := exists_of_bind_eq_some found
    cases same
    cases named
    rw [membersToSource, eq_toSource_of_toJson? first, eq_membersToSource_of_membersToJson? all]
end

mutual
/-- The tree of a value has no faults. -/
theorem toJson?_toSource : (v : Json) → v.toSource.toJson? = some v
  | .null | .bool _ | .number _ | .string _ => rfl
  | .array items => by
    rw [toSource, Source.toJson?, itemsToJson?_itemsToSource items]
    rfl
  | .object members => by
    rw [toSource, Source.toJson?, membersToJson?_membersToSource members]
    rfl

theorem itemsToJson?_itemsToSource : (items : List Json) →
    Source.itemsToJson? (itemsToSource items) = some items
  | [] => rfl
  | v :: rest => by
    rw [itemsToSource, Source.itemsToJson?, toJson?_toSource v, itemsToJson?_itemsToSource rest]
    rfl

theorem membersToJson?_membersToSource : (members : List (String × Json)) →
    Source.membersToJson? (membersToSource members) = some members
  | [] => rfl
  | (k, v) :: rest => by
    rw [membersToSource, Source.membersToJson?, toJson?_toSource v,
      membersToJson?_membersToSource rest]
    rfl
end

mutual
theorem wellFormed_toSource : (v : Json) → v.toSource.wellFormed = true
  | .null | .bool _ | .number _ | .string _ => rfl
  | .array items => itemsWellFormed_itemsToSource items
  | .object members => membersWellFormed_membersToSource members

theorem itemsWellFormed_itemsToSource : (items : List Json) →
    Source.itemsWellFormed (itemsToSource items) = true
  | [] => rfl
  | v :: rest => by
    rw [itemsToSource, Source.itemsWellFormed, wellFormed_toSource v,
      itemsWellFormed_itemsToSource rest]
    rfl

theorem membersWellFormed_membersToSource : (members : List (String × Json)) →
    Source.membersWellFormed (membersToSource members) = true
  | [] => rfl
  | (k, v) :: rest => by
    rw [membersToSource, Source.membersWellFormed, wellFormed_toSource v,
      membersWellFormed_membersToSource rest]
    rfl
end

theorem toSource_eq_null_iff {v : Json} : v.toSource = .null ↔ v = .null := by
  cases v <;> simp [toSource]

/-- A lenient reader takes every value without faults, and looks at it with its members in order. -/
theorem Reader.lenient_toSource {α : Type} (read : Reader α) (v : Json) :
    Reader.lenient read v.toSource = some (read v.sorted.toSource) := by
  rw [Reader.lenient, Source.generic?, toJson?_toSource]
  rfl

theorem Reader.optional_null {α : Type} (read : Reader α) :
    Reader.optional read (Json.null).toSource = some none := rfl

theorem Reader.optional_toSource {α : Type} (read : Reader α) {v : Json} (given : v ≠ .null) :
    Reader.optional read v.toSource = (read v.toSource).map some := by
  unfold Reader.optional
  split
  next null => exact absurd (toSource_eq_null_iff.mp null) given
  next => rfl

/-! ## Known members -/

variable {names seen : List String} {members : List (String × Json)}

/-- None of the names stands at two members. -/
def NamedOnce (names : List String) (members : List (String × Json)) : Prop :=
  ((members.map (·.1)).filter names.contains).Nodup

instance (names : List String) (members : List (String × Json)) :
    Decidable (NamedOnce names members) := List.nodupDecidable _

/-- The members of these names. -/
def known (names : List String) (members : List (String × Json)) : List (String × Source) :=
  (members.filter fun m => names.contains m.1).map fun m => (m.1, m.2.toSource)

theorem known_cons_of_mem {k : String} (v : Json) (mine : k ∈ names) :
    known names ((k, v) :: members) = (k, v.toSource) :: known names members := by
  unfold known
  rw [List.filter_cons, if_pos (List.contains_iff_mem.mpr mine)]
  rfl

theorem known_cons_of_not_mem {k : String} (v : Json) (other : k ∉ names) :
    known names ((k, v) :: members) = known names members := by
  unfold known
  rw [List.filter_cons, if_neg fun h => other (List.contains_iff_mem.mp h)]

theorem namedOnce_cons_iff {k : String} {v : Json} : NamedOnce names ((k, v) :: members) ↔
    (k ∈ names → ∀ m ∈ members, m.1 ≠ k) ∧ NamedOnce names members := by
  unfold NamedOnce
  rw [List.map_cons, List.filter_cons]
  by_cases mine : k ∈ names
  · have elsewhere : k ∉ (members.map (·.1)).filter names.contains ↔ ∀ m ∈ members, m.1 ≠ k := by
      simp only [List.mem_filter, List.mem_map, List.contains_iff_mem, mine, and_true, not_exists,
        not_and, ne_eq]
    rw [if_pos (List.contains_iff_mem.mpr mine), List.nodup_cons, elsewhere]
    exact and_congr_left fun _ => ⟨fun h _ => h, fun h => h mine⟩
  · rw [if_neg fun h => mine (List.contains_iff_mem.mp h)]
    exact ⟨fun once => ⟨fun h => absurd h mine, once⟩, And.right⟩

/-- What a search for members finds behind one of a known name that is new. -/
theorem Fields.scan_cons_of_new {k : String} {v : Json} (mine : k ∈ names) (new : k ∉ seen) :
    scan names seen (membersToSource ((k, v) :: members)) =
      ⟨(k, v.toSource) :: (scan names (k :: seen) (membersToSource members)).found,
        (scan names (k :: seen) (membersToSource members)).complete⟩ := by
  rw [membersToSource, scan, if_pos (List.contains_iff_mem.mpr mine),
    if_neg fun h => new (List.contains_iff_mem.mp h)]

/-- Members of other names are passed over. -/
theorem Fields.scan_cons_of_unknown {k : String} {v : Json} (other : k ∉ names) :
    scan names seen (membersToSource ((k, v) :: members)) =
      scan names seen (membersToSource members) := by
  rw [membersToSource, scan, if_neg fun h => other (List.contains_iff_mem.mp h),
    if_pos (wellFormed_toSource v)]

/-- A search for members gets to the end where every known name is new. -/
theorem Fields.complete_scan_iff : (scan names seen (membersToSource members)).complete = true ↔
    NamedOnce names members ∧ ∀ m ∈ members, m.1 ∈ names → m.1 ∉ seen := by
  induction members generalizing seen with
  | nil => exact ⟨fun _ => ⟨List.nodup_nil, List.forall_mem_nil _⟩, fun _ => rfl⟩
  | cons m rest ih =>
    obtain ⟨k, v⟩ := m
    rw [namedOnce_cons_iff, List.forall_mem_cons]
    by_cases mine : k ∈ names
    · by_cases again : k ∈ seen
      · rw [membersToSource, scan, if_pos (List.contains_iff_mem.mpr mine),
          if_pos (List.contains_iff_mem.mpr again)]
        exact ⟨fun h => absurd h Bool.false_ne_true, fun h => absurd again (h.2.1 mine)⟩
      · rw [scan_cons_of_new mine again, ih]
        simp only [mine, again, List.mem_cons]
        grind
    · rw [scan_cons_of_unknown mine, ih]
      simp only [mine]
      grind

theorem Fields.found_scan (complete : (scan names seen (membersToSource members)).complete = true) :
    (scan names seen (membersToSource members)).found = known names members := by
  induction members generalizing seen with
  | nil => rfl
  | cons m rest ih =>
    obtain ⟨k, v⟩ := m
    by_cases mine : k ∈ names
    · have new : k ∉ seen := (complete_scan_iff.mp complete).2 _ List.mem_cons_self mine
      rw [scan_cons_of_new mine new] at complete ⊢
      rw [known_cons_of_mem v mine]
      exact congrArg _ (ih complete)
    · rw [scan_cons_of_unknown mine] at complete ⊢
      rw [known_cons_of_not_mem v mine]
      exact ih complete

/-- An object is a record where no known name stands there twice, and then it has the fields of its
known members. -/
theorem Fields.read?_object_iff {fields : Fields} :
    Fields.read? names (Json.object members).toSource = some fields ↔
      NamedOnce names members ∧ fields = ⟨known names members, true⟩ := by
  have complete : (scan names [] (membersToSource members)).complete = true ↔
      NamedOnce names members :=
    complete_scan_iff.trans ⟨And.left, fun once => ⟨once, fun _ _ _ => List.not_mem_nil⟩⟩
  rw [← complete, Fields.read?, toSource, Fields.ofSource, Option.ite_none_right_eq_some,
    Option.some.injEq]
  refine and_congr_right fun all => ?_
  have whole : scan names [] (membersToSource members) = ⟨known names members, true⟩ := by
    rw [← found_scan all, ← all]
  rw [whole]
  exact eq_comm

/-- The field of a known name is the member of that name. -/
theorem Fields.get?_known {name : String} (mine : name ∈ names) :
    Fields.get? ⟨known names members, true⟩ name = (members.lookup name).map toSource := by
  show (known names members).lookup name = _
  induction members with
  | nil => rfl
  | cons m rest ih =>
    obtain ⟨k, v⟩ := m
    rw [List.lookup_cons]
    by_cases same : name = k
    · subst same
      rw [known_cons_of_mem v mine, List.lookup_cons, beq_self_eq_true]
      rfl
    · rw [beq_eq_false_iff_ne.mpr same, ← ih]
      by_cases too : k ∈ names
      · rw [known_cons_of_mem v too, List.lookup_cons, beq_eq_false_iff_ne.mpr same]
      · rw [known_cons_of_not_mem v too]

/-! ## Fields of an object -/

section

variable {α : Type} {record : Fields} {name : String} {member : Option Json} {read : Reader α}

/-- A field that forgives has what its member is read as, if anything. -/
theorem Fields.lenient_eq (here : record.get? name = member.map toSource) (read : Reader α) :
    record.lenient name read = some (member.bind fun v => read v.sorted.toSource) := by
  rw [lenient, withDefault, here]
  cases member with
  | none => rfl
  | some v => exact Reader.lenient_toSource read v

/-- Whether a member is missing, `null` or has a value that is read. -/
def Reader.fits (read : Reader α) : Option Json → Bool
  | none | some .null => true
  | some v => (read v.toSource).isSome

/-- Any other field that may be missing is read where its member fits. -/
theorem Fields.optional_eq_some_iff (here : record.get? name = member.map toSource)
    (refuses_null : read .null = none) {x : Option α} : record.optional name read = some x ↔
      read.fits member = true ∧ x = member.bind fun v => read v.toSource := by
  rw [optional, withDefault, here]
  cases member with
  | none =>
    exact ⟨fun found => ⟨rfl, (Option.some.inj found).symm⟩, fun h => congrArg some h.2.symm⟩
  | some v =>
    rw [Option.map_some, Option.bind_some]
    by_cases null : v = .null
    · subst null
      show Reader.optional read (Json.null).toSource = some x ↔ _
      rw [Reader.optional_null, toSource, refuses_null, Option.some.injEq]
      exact ⟨fun same => ⟨rfl, same.symm⟩, fun h => h.2.symm⟩
    · have fits : read.fits (some v) = (read v.toSource).isSome := by
        cases v with
        | null => exact absurd rfl null
        | _ => rfl
      show Reader.optional read v.toSource = some x ↔ _
      rw [Reader.optional_toSource read null, fits]
      cases read v.toSource with
      | none => exact ⟨nofun, fun h => absurd h.1 nofun⟩
      | some a =>
        rw [Option.map_some, Option.some.injEq]
        exact ⟨fun same => ⟨rfl, same.symm⟩, fun h => h.2.symm⟩

end

end PageStudio.Json
