import PageStudio.Proofs.Json.Reading
import PageStudio.Proofs.Json.Source

/-!
# What was read

From what a reader has found back to the value: items and fields have been read somewhere, and
a reader that looks at all of a value has found nothing in it too deep (`Bounded`).

## Main statements

* `Bounded`: a reader takes the text of a value only where the levels suffice.
* `bounded_list`, `bounded_dict`, `bounded_record`: such readers, put together.
-/

namespace PageStudio.Json

variable {α β : Type}

/-! ## Items and fields -/

/-- What is read behind something was read from that. -/
theorem exists_of_bind_eq_some {x : Option α} {rest : α → Option β} {b : β}
    (read : (x >>= rest) = some b) : ∃ a, x = some a ∧ rest a = some b :=
  Option.bind_eq_some_iff.mp read

/-- So it is where reading tells why it fails. -/
theorem exists_of_bind_eq_ok {ε : Type} {x : Except ε α} {rest : α → Except ε β} {b : β}
    (read : (x >>= rest) = .ok b) : ∃ a, x = .ok a ∧ rest a = .ok b := by
  cases x with
  | error e => cases read
  | ok a => exact ⟨a, rfl, read⟩

theorem eq_ok_of_mapError_eq_ok {ε δ : Type} {x : Except ε α} {f : ε → δ} {a : α}
    (read : x.mapError f = .ok a) : x = .ok a := by
  cases x with
  | error e => cases read
  | ok b =>
    cases read
    rfl

/-- Where items are read, each is, and every result comes from one. -/
theorem forall_of_mapM_eq_some {read : α → Option β} {items : List α} {results : List β}
    (all : items.mapM read = some results) :
    (∀ a ∈ items, ∃ b, read a = some b) ∧ ∀ b ∈ results, ∃ a ∈ items, read a = some b := by
  induction items generalizing results with
  | nil =>
    cases all
    exact ⟨nofun, nofun⟩
  | cons a items ih =>
    rw [List.mapM_cons] at all
    obtain ⟨b, first, all⟩ := exists_of_bind_eq_some all
    obtain ⟨others, rest, same⟩ := exists_of_bind_eq_some all
    cases same
    obtain ⟨each, from_⟩ := ih rest
    refine ⟨List.forall_mem_cons.mpr ⟨⟨b, first⟩, each⟩, List.forall_mem_cons.mpr ⟨?_, ?_⟩⟩
    · exact ⟨a, List.mem_cons_self, first⟩
    · intro c mem
      obtain ⟨d, there, found⟩ := from_ c mem
      exact ⟨d, List.mem_cons_of_mem _ there, found⟩

/-- Where each item can be read, all are. -/
theorem exists_mapM_eq_some {read : α → Option β} {items : List α}
    (each : ∀ a ∈ items, ∃ b, read a = some b) : ∃ results, items.mapM read = some results := by
  induction items with
  | nil => exact ⟨[], rfl⟩
  | cons a items ih =>
    obtain ⟨⟨b, first⟩, others⟩ := List.forall_mem_cons.mp each
    obtain ⟨rest, found⟩ := ih others
    refine ⟨b :: rest, ?_⟩
    rw [List.mapM_cons, first, found]
    rfl

theorem Reader.exists_of_mem_list {read : Reader α} {v : Source} {items : List α}
    (all : Reader.list read v = some items) : ∀ a ∈ items, ∃ w, read w = some a := by
  cases v with
  | array vs =>
    intro a mem
    obtain ⟨w, -, found⟩ := (forall_of_mapM_eq_some all).2 a mem
    exact ⟨w, found⟩
  | _ => cases all

/-- A value of a dictionary has been read from a member. -/
theorem Reader.exists_of_get?_table {read : Reader α} {v : Source} {d : Dict String α}
    (all : Reader.table read v = some d) {k : String} {a : α} (has : d.get? k = some a) :
    ∃ w, read w = some a := by
  cases v with
  | object members =>
    obtain ⟨entries, found, rfl⟩ := Option.map_eq_some_iff.mp all
    obtain ⟨m, -, one⟩ := (forall_of_mapM_eq_some found).2 _ (Dict.mem_of_get?_ofList has)
    obtain ⟨name, -, one⟩ := exists_of_bind_eq_some one
    obtain ⟨key, -, one⟩ := exists_of_bind_eq_some one
    obtain ⟨b, value, same⟩ := exists_of_bind_eq_some one
    cases same
    exact ⟨_, value⟩
  | _ => cases all

/-- A field that may be missing has its default or was read. -/
theorem Fields.exists_of_withDefault {fields : Fields} {name : String} {read : Reader α}
    {default a : α} (found : fields.withDefault name read default = some a) :
    a = default ∨ ∃ v, read v = some a := by
  unfold Fields.withDefault at found
  split at found
  next =>
    cases found
    exact .inl rfl
  next v _ => exact .inr ⟨v, found⟩

theorem Reader.exists_of_optional {read : Reader α} {v : Source} {a : α}
    (found : Reader.optional read v = some (some a)) : ∃ w, read w = some a := by
  unfold Reader.optional at found
  split at found
  next => cases found
  next =>
    obtain ⟨b, value, same⟩ := Option.map_eq_some_iff.mp found
    cases same
    exact ⟨_, value⟩

theorem Fields.exists_of_optional {fields : Fields} {name : String} {read : Reader α} {a : α}
    (found : fields.optional name read = some (some a)) : ∃ v, read v = some a := by
  rcases Fields.exists_of_withDefault found with missing | ⟨v, value⟩
  · cases missing
  · exact Reader.exists_of_optional value

/-! ## Heights -/

@[simp] theorem height_bool (b : Bool) : (Json.bool b).height = 0 := rfl

@[simp] theorem height_number (n : Number) : (Json.number n).height = 0 := rfl

@[simp] theorem height_string (s : String) : (Json.string s).height = 0 := rfl

@[simp] theorem height_ofFloat (x : Float) : (ofFloat x).height = 0 := by
  unfold ofFloat
  split <;> rfl

theorem itemsHeight_le_iff {items : List Json} {n : Nat} :
    itemsHeight items ≤ n ↔ ∀ v ∈ items, v.height ≤ n := by
  induction items with
  | nil => exact ⟨fun _ => nofun, fun _ => Nat.zero_le n⟩
  | cons v rest ih => rw [itemsHeight, Nat.max_le, ih, List.forall_mem_cons]

theorem membersHeight_le_iff {members : List (String × Json)} {n : Nat} :
    membersHeight members ≤ n ↔ ∀ m ∈ members, m.2.height ≤ n := by
  induction members with
  | nil => exact ⟨fun _ => nofun, fun _ => Nat.zero_le n⟩
  | cons m rest ih => rw [membersHeight, Nat.max_le, ih, List.forall_mem_cons]

theorem itemsWithin_eq_map (levels : Nat) (items : List Json) :
    itemsWithin levels items = items.map (within levels) := by
  induction items with
  | nil => rfl
  | cons v rest ih => exact congrArg _ ih

theorem membersWithin_eq_map (levels : Nat) (members : List (String × Json)) :
    membersWithin levels members = members.map fun m => (some m.1, m.2.within levels) := by
  induction members with
  | nil => rfl
  | cons m rest ih => exact congrArg _ ih

theorem Source.height_le_itemsHeight {v : Source} {items : List Source} (mem : v ∈ items) :
    v.height ≤ Source.itemsHeight items := by
  induction items with
  | nil => cases mem
  | cons w rest ih =>
    rcases List.mem_cons.mp mem with rfl | there
    · exact Nat.le_max_left _ _
    · exact Nat.le_trans (ih there) (Nat.le_max_right _ _)

/-- The fields that are found among members are some of them. -/
theorem Fields.mem_of_mem_scan {names seen : List String} {name : String} {w : Source}
    {members : List (Option String × Source)}
    (mem : (name, w) ∈ (Fields.scan names seen members).found) : (some name, w) ∈ members := by
  fun_induction Fields.scan names seen members with
  | case1 | case2 | case3 | case6 => cases mem
  | case4 seen k v rest known new fields ih =>
    rcases List.mem_cons.mp mem with same | later
    · cases same
      exact List.mem_cons_self
    · exact List.mem_cons_of_mem _ (ih later)
  | case5 seen k v rest unknown formed ih => exact List.mem_cons_of_mem _ (ih mem)

/-- A field is less high than its record. -/
theorem Fields.height_lt {names : List String} {v w : Source} {fields : Fields} {name : String}
    (found : Fields.read? names v = some fields) (field : fields.get? name = some w) :
    w.height < v.height := by
  have mem : (name, w) ∈ (Fields.ofSource names v).found := by
    simp only [Fields.read?, Option.ite_none_right_eq_some, Option.some.injEq] at found
    rw [found.2]
    rw [Fields.get?, lookup_eq_find?] at field
    exact Dict.mem_of_find? field
  cases v with
  | object members =>
    exact Nat.lt_succ_of_le (Source.height_le_membersHeight (Fields.mem_of_mem_scan mem))
  | array items => exact Nat.lt_succ_of_le (Source.height_le_itemsHeight (List.of_mem_zip mem).2)
  | _ => cases mem

/-! ## Readers that look at everything -/

/-- A reader takes the text of a value only where the levels that are left suffice for it. -/
def Bounded (read : Reader α) (v : Json) : Prop :=
  ∀ ⦃levels : Nat⦄ ⦃a : α⦄, read (v.within levels) = some a → v.height ≤ levels

/-- What has no levels needs none. -/
theorem Scalar.height_le {v : Json} (scalar : v.Scalar) (levels : Nat) : v.height ≤ levels := by
  cases v with
  | array items => exact scalar.elim
  | object members => exact scalar.elim
  | _ => exact Nat.zero_le _

theorem Scalar.bounded {v : Json} (scalar : v.Scalar) (read : Reader α) : Bounded read v :=
  fun levels _ _ => scalar.height_le levels

theorem Bounded.optional {read : Reader α} {v : Json} (bounded : Bounded read v) :
    Bounded (Reader.optional read) v := by
  intro levels a found
  unfold Reader.optional at found
  split at found
  next null =>
    cases v with
    | null => exact Nat.zero_le _
    | array items => cases levels <;> cases null
    | object members => cases levels <;> cases null
    | _ => cases null
  next =>
    obtain ⟨b, value, -⟩ := Option.map_eq_some_iff.mp found
    exact bounded value

/-- The items of an array are one level inside. -/
theorem bounded_list {read : Reader α} {write : β → Json} {items : List β}
    (each : ∀ b ∈ items, Bounded read (write b)) :
    Bounded (Reader.list read) (.array (items.map write)) := by
  intro levels found all
  cases levels with
  | zero => cases all
  | succ levels =>
    refine Nat.succ_le_succ (itemsHeight_le_iff.mpr (List.forall_mem_map.mpr fun b mem => ?_))
    replace all : (itemsWithin levels (items.map write)).mapM read = some found := all
    rw [itemsWithin_eq_map, List.map_map] at all
    obtain ⟨a, value⟩ := (forall_of_mapM_eq_some all).1 _ (List.mem_map_of_mem mem)
    exact each b mem value

/-- So are the members of a dictionary. -/
theorem bounded_dict {κ : Type} [KeyOrder κ] {key? : String → Option κ} {read : Reader α}
    {key : β → String} {write : β → Json} {entries : List β}
    (each : ∀ e ∈ entries, Bounded read (write e)) :
    Bounded (Reader.dict key? read) (.object (entries.map fun e => (key e, write e))) := by
  intro levels found all
  cases levels with
  | zero => cases all
  | succ levels =>
    refine Nat.succ_le_succ (membersHeight_le_iff.mpr (List.forall_mem_map.mpr fun e mem => ?_))
    obtain ⟨read, all, -⟩ := Option.map_eq_some_iff.mp all
    rw [Nat.add_sub_cancel, membersWithin_eq_map, List.map_map] at all
    obtain ⟨m, one⟩ := (forall_of_mapM_eq_some all).1 _ (List.mem_map_of_mem mem)
    obtain ⟨name, -, one⟩ := exists_of_bind_eq_some one
    obtain ⟨k, -, one⟩ := exists_of_bind_eq_some one
    obtain ⟨a, value, -⟩ := exists_of_bind_eq_some one
    exact each e mem value

/-! ## Records -/

/-- The fields of a record are those that were written, with some levels left for each. -/
def Fields.Keeps (fields : Fields) (levels : Nat) (written : List (String × Option Json)) : Prop :=
  ∀ w ∈ written, ∀ v, w.2 = some v → fields.get? w.1 = some (v.within levels)

/-- The height of a record, field by field. -/
theorem height_ofFields_le {written : List (String × Option Json)} {levels : Nat}
    (each : ∀ w ∈ written, ∀ v, w.2 = some v → v.height ≤ levels) :
    (ofFields written).height ≤ levels + 1 := by
  refine Nat.succ_le_succ (membersHeight_le_iff.mpr fun m mem => ?_)
  obtain ⟨w, there, same⟩ := List.mem_filterMap.mp mem
  obtain ⟨v, has, rfl⟩ := Option.map_eq_some_iff.mp same
  exact each w there v has

/-- The written fields of a record, with some levels left for each. -/
def foundWithin (levels : Nat) (written : List (String × Option Json)) : List (String × Source) :=
  written.filterMap fun w => w.2.map fun v => (w.1, v.within levels)

theorem foundWithin_names_sublist (levels : Nat) (written : List (String × Option Json)) :
    ((foundWithin levels written).map (·.1)).Sublist (written.map (·.1)) := by
  have same : (foundWithin levels written).map (·.1) =
      (written.filterMap fun w => w.2.map fun v => (w.1, v)).map (·.1) := by
    unfold foundWithin
    simp only [List.map_filterMap, Option.map_map]
    rfl
  rw [same]
  exact names_filterMap_sublist written

/-- The fields of a written record are all found. -/
theorem Fields.ofSource_within {written : List (String × Option Json)}
    (once : (written.map (·.1)).Nodup) (levels : Nat) :
    Fields.ofSource (written.map (·.1)) ((ofFields written).within (levels + 1)) =
      ⟨foundWithin levels written, true⟩ := by
  have names := foundWithin_names_sublist levels written
  have same : membersWithin levels (written.filterMap fun w => w.2.map fun v => (w.1, v)) =
      (foundWithin levels written).map fun m => (some m.1, m.2) := by
    rw [membersWithin_eq_map]
    unfold foundWithin
    simp only [List.map_filterMap, Option.map_map]
    rfl
  show Fields.scan _ [] (membersWithin levels _) = _
  rw [same]
  exact Fields.scan_eq (fun m mem => names.subset (List.mem_map_of_mem mem))
    (fun _ _ => List.not_mem_nil) (once.sublist names)

theorem Fields.keeps_foundWithin {written : List (String × Option Json)}
    (once : (written.map (·.1)).Nodup) (levels : Nat) :
    Keeps ⟨foundWithin levels written, true⟩ levels written := by
  intro w mem v has
  have found : (w.1, v.within levels) ∈ foundWithin levels written :=
    List.mem_filterMap.mpr ⟨w, mem, by rw [has]; rfl⟩
  show (foundWithin levels written).lookup w.1 = _
  rw [lookup_eq_find?]
  exact Dict.find?_eq_some_of_mem (once.sublist (foundWithin_names_sublist levels written)) found

/-- A record is bounded where its fields are. -/
theorem bounded_record {names : List String} {written : List (String × Option Json)}
    (order : written.map (·.1) = names) (once : names.Nodup) {rest : Fields → Option α}
    (body : ∀ (fields : Fields) (levels : Nat) (a : α), fields.Keeps levels written →
      rest fields = some a → ∀ w ∈ written, ∀ v, w.2 = some v → v.height ≤ levels) :
    Bounded (fun s => Fields.read? names s >>= rest) (ofFields written) := by
  intro levels a all
  obtain ⟨fields, complete, read⟩ := exists_of_bind_eq_some all
  cases levels with
  | zero => cases complete
  | succ levels =>
    subst order
    unfold Fields.read? at complete
    rw [Fields.ofSource_within once] at complete
    cases complete
    exact height_ofFields_le (body _ levels a (Fields.keeps_foundWithin once levels) read)

theorem height_le_one_of_scalars {members : List (String × Json)}
    (scalars : ∀ m ∈ members, m.2.Scalar) : (Json.object members).height ≤ 1 :=
  Nat.succ_le_succ (membersHeight_le_iff.mpr fun m mem => (scalars m mem).height_le 0)

/-- A reader of a record takes no object without levels. -/
theorem bounded_scalars {names : List String} {members : List (String × Json)}
    (scalars : ∀ m ∈ members, m.2.Scalar) {rest : Fields → Option α} :
    Bounded (fun s => Fields.read? names s >>= rest) (.object members) := by
  intro levels a all
  cases levels with
  | zero => cases all
  | succ levels => exact Nat.le_trans (height_le_one_of_scalars scalars) (Nat.le_add_left 1 levels)

namespace Fields.Keeps

variable {fields : Fields} {levels : Nat} {written : List (String × Option Json)}
  {w : String × Option Json} {read : Reader α} {v : Json} {a : α}

theorem required (keeps : fields.Keeps levels written) (mem : w ∈ written) (has : w.2 = some v)
    (bounded : Bounded read v) (found : fields.required w.1 read = some a) :
    v.height ≤ levels := by
  unfold Fields.required at found
  rw [keeps w mem v has] at found
  exact bounded found

theorem withDefault (keeps : fields.Keeps levels written) (mem : w ∈ written) (has : w.2 = some v)
    (bounded : Bounded read v) {default : α}
    (found : fields.withDefault w.1 read default = some a) : v.height ≤ levels := by
  unfold Fields.withDefault at found
  rw [keeps w mem v has] at found
  exact bounded found

theorem optional (keeps : fields.Keeps levels written) (mem : w ∈ written) (has : w.2 = some v)
    (bounded : Bounded read v) {x : Option α} (found : fields.optional w.1 read = some x) :
    v.height ≤ levels := keeps.withDefault mem has bounded.optional found

end Fields.Keeps

end PageStudio.Json
