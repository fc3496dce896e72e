import Mathlib.Data.List.Nodup
import PageStudio.Dict

/-!
# Dictionaries made from entries

Lookup in a dictionary that is put together from a list of entries, and the keys after a change.
What the laws beside the definition say of one insertion is said here of many.
-/

namespace PageStudio.Dict

variable {κ α : Type} [KeyOrder κ]

/-! ## Keys -/

theorem mem_keys_insert (d : Dict κ α) {k l : κ} {v : α} :
    l ∈ (d.insert k v).keys ↔ l = k ∨ l ∈ d.keys := by
  rw [mem_keys_iff, mem_keys_iff, get?_insert]
  by_cases h : l = k
  · simp only [h, if_true, Option.isSome_some, true_or]
  · simp only [h, if_false, false_or]

theorem mem_keys_erase (d : Dict κ α) {k l : κ} :
    l ∈ (d.erase k).keys ↔ l ≠ k ∧ l ∈ d.keys := by
  rw [mem_keys_iff, mem_keys_iff, get?_erase]
  by_cases h : l = k
  · simp only [h, if_true, Option.isSome_none, Bool.false_eq_true, ne_eq, not_true, false_and]
  · simp only [h, if_false, ne_eq, not_false_eq_true, true_and]

/-- The entries are in strict order of their keys, so no key occurs twice. -/
theorem keys_nodup (d : Dict κ α) : d.keys.Nodup := by
  refine List.Pairwise.map _ (fun a b before same => ?_) d.ascending
  rw [same, KeyOrder.irrefl] at before
  cases before

/-- Of two values for one key the later one counts. -/
theorem insert_insert (d : Dict κ α) (k : κ) (v w : α) :
    (d.insert k v).insert k w = d.insert k w := by
  refine ext_get? fun l => ?_
  rw [get?_insert, get?_insert, get?_insert]
  split
  · rfl
  · rfl

/-! ## Lookup among entries -/

theorem find?_append (k : κ) (es fs : List (κ × α)) :
    find? k (es ++ fs) = (find? k es).or (find? k fs) := by
  induction es with
  | nil => rfl
  | cons e rest ih =>
    simp only [List.cons_append, find?]
    split
    · rfl
    · exact ih

/-- Nothing is found exactly for the keys that no entry has. -/
theorem find?_eq_none_iff {k : κ} {es : List (κ × α)} :
    find? k es = none ↔ ∀ v, (k, v) ∉ es := by
  induction es with
  | nil => exact ⟨fun _ _ => List.not_mem_nil, fun _ => rfl⟩
  | cons e rest ih =>
    obtain ⟨l, w⟩ := e
    simp only [find?]
    split
    next same =>
      subst same
      constructor
      · intro h
        cases h
      · intro h
        exact absurd List.mem_cons_self (h w)
    next differ =>
      rw [ih]
      refine ⟨fun h v hv => ?_, fun h v hv => h v (List.mem_cons_of_mem _ hv)⟩
      rcases List.mem_cons.mp hv with same | hv
      · exact differ (congrArg Prod.fst same)
      · exact h v hv

/-- Where no key occurs twice, lookup finds every entry. -/
theorem find?_eq_some_of_mem {es : List (κ × α)} (once : (es.map (·.1)).Nodup) {k : κ} {v : α}
    (h : (k, v) ∈ es) : find? k es = some v := by
  induction es with
  | nil => cases h
  | cons e rest ih =>
    obtain ⟨first, rest_once⟩ := List.nodup_cons.mp once
    rcases List.mem_cons.mp h with rfl | h
    · simp only [find?, if_true]
    · have differ : k ≠ e.1 := fun same => first (List.mem_map.mpr ⟨(k, v), h, same⟩)
      simp only [find?, if_neg differ]
      exact ih rest_once h

/-- Where no key occurs twice, the order of the entries does not matter to lookup. -/
theorem find?_perm {es fs : List (κ × α)} (once : (es.map (·.1)).Nodup) (perm : es.Perm fs)
    (k : κ) : find? k es = find? k fs := by
  cases found : find? k fs with
  | none =>
    refine find?_eq_none_iff.mpr fun v hv => ?_
    exact find?_eq_none_iff.mp found v (perm.mem_iff.mp hv)
  | some v => exact find?_eq_some_of_mem once (perm.mem_iff.mpr (mem_of_find? found))

theorem find?_reverse {es : List (κ × α)} (once : (es.map (·.1)).Nodup) (k : κ) :
    find? k es.reverse = find? k es :=
  (find?_perm once (List.reverse_perm es).symm k).symm

/-- What comes from the entries of one key comes from its value. -/
theorem flatMap_entries {β : Type} (d : Dict κ α) (k : κ) (f : α → List β) :
    d.entries.flatMap (fun e => if e.1 = k then f e.2 else []) = ((d.get? k).map f).getD [] := by
  have once : (d.entries.map (·.1)).Nodup := d.keys_nodup
  unfold get?
  generalize d.entries = es at once ⊢
  induction es with
  | nil => rfl
  | cons e rest ih =>
    obtain ⟨first, rest_once⟩ := List.nodup_cons.mp once
    rw [List.flatMap_cons]
    simp only [find?]
    by_cases here : e.1 = k
    · have others : ∀ x ∈ rest, (if x.1 = k then f x.2 else []) = [] := by
        intro x hx
        exact if_neg fun same => first (List.mem_map.mpr ⟨x, hx, same.trans here.symm⟩)
      rw [if_pos here, if_pos here.symm, List.flatMap_eq_nil_iff.mpr others, List.append_nil]
      rfl
    · rw [if_neg here, if_neg (Ne.symm here), List.nil_append]
      exact ih rest_once

/-! ## Many insertions -/

/-- Of entries that are put in one after another, the last one of a key is found. -/
theorem get?_foldl_insert (d : Dict κ α) (es : List (κ × α)) (k : κ) :
    (es.foldl (fun d e => d.insert e.1 e.2) d).get? k = (find? k es.reverse).or (d.get? k) := by
  induction es generalizing d with
  | nil => rfl
  | cons e rest ih =>
    rw [List.foldl_cons, ih, get?_insert, List.reverse_cons, find?_append]
    simp only [find?]
    cases find? k rest.reverse with
    | some v => rfl
    | none =>
      split
      · rfl
      · rfl

/-- The last entry of a key is its value in the dictionary of the entries. -/
theorem get?_ofList (es : List (κ × α)) (k : κ) :
    (ofList es).get? k = find? k es.reverse := by
  unfold ofList
  rw [get?_foldl_insert, get?_empty, Option.or_none]

/-- Entries that come later override earlier ones. -/
theorem get?_ofList_append (es fs : List (κ × α)) (k : κ) :
    (ofList (es ++ fs)).get? k = ((ofList fs).get? k).or ((ofList es).get? k) := by
  rw [get?_ofList, get?_ofList, get?_ofList, List.reverse_append, find?_append]

theorem erase_ofList (es : List (κ × α)) (k : κ) :
    (ofList es).erase k = ofList (es.filter fun e => !decide (k = e.1)) := by
  refine ext_get? fun l => ?_
  rw [get?_erase, get?_ofList, get?_ofList, ← List.filter_reverse,
    find?_filter (fun m => !decide (k = m))]
  by_cases same : l = k
  · simp only [same, if_true, decide_true, Bool.not_true, Bool.false_eq_true, if_false]
  · simp only [same, Ne.symm same, if_false, decide_false, Bool.not_false, if_true]

theorem get?_union (lower upper : Dict κ α) (k : κ) :
    (lower.union upper).get? k = (upper.get? k).or (lower.get? k) := by
  unfold union
  rw [get?_foldl_insert, find?_reverse upper.keys_nodup]
  rfl

/-- Every value of a dictionary is one of the entries it is made from. -/
theorem mem_of_get?_ofList {es : List (κ × α)} {k : κ} {v : α}
    (found : (ofList es).get? k = some v) : (k, v) ∈ es := by
  rw [get?_ofList] at found
  exact List.mem_reverse.mp (mem_of_find? found)

/-- The keys of a dictionary are those of the entries it is made from. -/
theorem mem_keys_ofList {es : List (κ × α)} {k : κ} :
    k ∈ (ofList es).keys ↔ k ∈ es.map (·.1) := by
  rw [mem_keys_iff]
  constructor
  · intro found
    obtain ⟨v, hv⟩ := Option.isSome_iff_exists.mp found
    exact List.mem_map.mpr ⟨(k, v), mem_of_get?_ofList hv, rfl⟩
  · intro h
    obtain ⟨⟨l, v⟩, hv, rfl⟩ := List.mem_map.mp h
    rw [get?_ofList]
    cases found : find? l es.reverse with
    | some _ => rfl
    | none => exact absurd (List.mem_reverse.mpr hv) (find?_eq_none_iff.mp found v)

/-- The value of a key where every key has the value of a function. -/
theorem get?_ofList_map (keys : List κ) (value : κ → α) (k : κ) :
    (ofList (keys.map fun k => (k, value k))).get? k =
      if k ∈ keys then some (value k) else none := by
  let d := ofList (keys.map fun k => (k, value k))
  have entry : ∀ {v}, d.get? k = some v → k ∈ keys ∧ v = value k := by
    intro v found
    obtain ⟨l, mem, same⟩ := List.mem_map.mp (mem_of_get?_ofList found)
    cases same
    exact ⟨mem, rfl⟩
  split
  next mem =>
    have known : k ∈ d.keys :=
      mem_keys_ofList.mpr (List.mem_map.mpr ⟨(k, value k), List.mem_map_of_mem mem, rfl⟩)
    obtain ⟨v, found⟩ := Option.isSome_iff_exists.mp (d.mem_keys_iff.mp known)
    exact (entry found).2 ▸ found
  next absent =>
    cases found : d.get? k with
    | none => rfl
    | some v => exact absurd (entry found).1 absent

/-- Where no key occurs twice, a dictionary has all the entries that it is made from. -/
theorem get?_ofList_of_mem {es : List (κ × α)} (once : (es.map (·.1)).Nodup) {k : κ} {v : α}
    (mem : (k, v) ∈ es) : (ofList es).get? k = some v := by
  rw [get?_ofList, find?_reverse once]
  exact find?_eq_some_of_mem once mem

theorem perm_keys_ofList {es : List (κ × α)} (once : (es.map (·.1)).Nodup) :
    (ofList es).keys.Perm (es.map (·.1)) :=
  (List.perm_ext_iff_of_nodup (keys_nodup _) once).mpr fun _ => mem_keys_ofList

/-- A dictionary with all the keys of another hides it. -/
theorem get?_or_of_keys_subset {lower upper : Dict κ α}
    (sub : ∀ k ∈ lower.keys, k ∈ upper.keys) (k : κ) :
    (upper.get? k).or (lower.get? k) = upper.get? k := by
  cases mine : upper.get? k with
  | some v => rfl
  | none =>
    cases others : lower.get? k with
    | none => rfl
    | some v =>
      have mem := sub k (lower.mem_keys_iff.mpr (by rw [others]; rfl))
      rw [mem_keys_iff, mine] at mem
      cases mem

/-! ## Changed values -/

theorem find?_map {β : Type} (f : κ → α → β) (k : κ) (es : List (κ × α)) :
    find? k (es.map fun e => (e.1, f e.1 e.2)) = (find? k es).map (f k) := by
  induction es with
  | nil => rfl
  | cons e rest ih =>
    by_cases h : k = e.1
    · simp only [List.map_cons, find?, h, if_true, Option.map_some]
    · simp only [List.map_cons, find?, h, if_false, ih]

/-- A change of the values leaves them with their keys. -/
theorem get?_mapWithKey {β : Type} (f : κ → α → β) (d : Dict κ α) (k : κ) :
    (d.mapWithKey f).get? k = (d.get? k).map (f k) := find?_map f k d.entries

theorem keys_mapWithKey {β : Type} (f : κ → α → β) (d : Dict κ α) :
    (d.mapWithKey f).keys = d.keys := by
  simp only [keys, mapWithKey, List.map_map, Function.comp_def]

/-! ## Dictionaries that count as the same -/

/-- What does not tell values apart that count as the same does not tell such entries apart. -/
theorem map_find?_of_beq [BEq α] {β : Type} {f : α → β}
    (respects : ∀ v w, (v == w) = true → f v = f w) {es fs : List (κ × α)}
    (same : (es == fs) = true) (k : κ) : (find? k es).map f = (find? k fs).map f := by
  induction es generalizing fs with
  | nil =>
    cases fs with
    | nil => rfl
    | cons y fs => cases same
  | cons x es ih =>
    cases fs with
    | nil => cases same
    | cons y fs =>
      obtain ⟨l, v⟩ := x
      obtain ⟨m, w⟩ := y
      obtain ⟨here, there⟩ := (Bool.and_eq_true _ _).mp same
      obtain ⟨keys, values⟩ := (Bool.and_eq_true _ _).mp here
      cases eq_of_beq keys
      unfold find?
      split
      next => exact congrArg some (respects v w values)
      next => exact ih there

theorem map_get?_of_beq [BEq α] {β : Type} {f : α → β}
    (respects : ∀ v w, (v == w) = true → f v = f w) {d e : Dict κ α} (same : (d == e) = true)
    (k : κ) : (d.get? k).map f = (e.get? k).map f :=
  map_find?_of_beq respects same k

/-- A dictionary counts as the same as itself where each of its values does. -/
theorem beq_self_iff [BEq α] {d : Dict κ α} :
    (d == d) = true ↔ ∀ e ∈ d.entries, (e.2 == e.2) = true := by
  show (d.entries == d.entries) = true ↔ _
  induction d.entries with
  | nil => exact iff_of_true rfl (List.forall_mem_nil _)
  | cons e rest ih =>
    have here : (e == e) = (e.2 == e.2) := congrArg (· && _) (beq_self_eq_true e.1)
    rw [List.cons_beq_cons, Bool.and_eq_true, ih, here, List.forall_mem_cons]

end PageStudio.Dict
