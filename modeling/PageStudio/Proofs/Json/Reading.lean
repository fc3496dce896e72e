import Mathlib.Data.List.Nodup
import Mathlib.Data.List.Perm.Basic
import PageStudio.Json.Reading
import PageStudio.Proofs.Dict

/-!
# Reading what was written

The members of an object have no order of their own: a value keeps them as they were written, a
sorted one by name. So that a reader takes a written value back is said of every arrangement of
members (`Reads`), of lists, dictionaries and records one lemma each. A record is read field by
field from what `Holds` says of them.
-/

namespace PageStudio.Json

open List

variable {f : Json → Json} {α β : Type}

/-! ## Arrangements of members -/

theorem itemsToSource_eq (items : List Json) : itemsToSource items = items.map toSource := by
  induction items with
  | nil => rfl
  | cons v rest ih => exact congrArg _ ih

theorem membersToSource_eq (members : List (String × Json)) :
    membersToSource members = members.map fun m => (some m.1, m.2.toSource) := by
  induction members with
  | nil => rfl
  | cons m rest ih => exact congrArg _ ih

/-- A function puts the members of objects in some order and changes nothing else, as long as no
object has two members of one name. -/
structure Arranges (f : Json → Json) : Prop where
  null : f .null = .null
  bool : ∀ b, f (.bool b) = .bool b
  number : ∀ n, f (.number n) = .number n
  string : ∀ s, f (.string s) = .string s
  array : ∀ items, f (.array items) = .array (items.map f)
  object : ∀ members, (members.map (·.1)).Nodup →
    ∃ arranged, f (.object members) = .object arranged ∧
      arranged ~ members.map fun m => (m.1, f m.2)

/-- A single member has one place. -/
theorem Arranges.single (h : Arranges f) (name : String) (v : Json) :
    f (.object [(name, v)]) = .object [(name, f v)] := by
  obtain ⟨arranged, result, perm⟩ := h.object [(name, v)] (List.nodup_singleton name)
  rw [result, perm.eq_singleton]

theorem arranges_id : Arranges id where
  null := rfl
  bool _ := rfl
  number _ := rfl
  string _ := rfl
  array items := by rw [List.map_id]; rfl
  object members _ := ⟨members, rfl, .of_eq (List.map_id members).symm⟩

theorem sortedItems_eq (items : List Json) : sortedItems items = items.map sorted := by
  induction items with
  | nil => rfl
  | cons v rest ih => exact congrArg _ ih

/-- A member of a new name is put somewhere among the others. -/
theorem insertMember_perm {k : String} (v : Json) {members : List (String × Json)}
    (new : k ∉ members.map (·.1)) : insertMember k v members ~ (k, v) :: members := by
  induction members with
  | nil => exact Perm.refl _
  | cons m rest ih =>
    obtain ⟨l, w⟩ := m
    simp only [List.map_cons, List.mem_cons, not_or] at new
    obtain ⟨differ, new⟩ := new
    simp only [insertMember, if_neg differ]
    split
    next => exact Perm.refl _
    next => exact ((ih new).cons _).trans (Perm.swap ..)

/-- Members with names of their own are all kept when they are put in order. -/
theorem sortedMembers_perm {front members : List (String × Json)}
    (once : ((front ++ members).map (·.1)).Nodup) :
    sortedMembers front members ~ front ++ members.map fun m => (m.1, m.2.sorted) := by
  induction members generalizing front with
  | nil => exact .of_eq (List.append_nil _).symm
  | cons m rest ih =>
    obtain ⟨k, v⟩ := m
    have moved : (front ++ (k, v) :: rest).map (·.1) ~ k :: (front ++ rest).map (·.1) := by
      rw [List.map_append, List.map_append, List.map_cons]
      exact perm_middle
    obtain ⟨new, others⟩ := List.nodup_cons.mp (moved.nodup_iff.mp once)
    rw [List.map_append] at new
    have inserted : insertMember k v.sorted front ~ (k, v.sorted) :: front :=
      insertMember_perm _ fun mem => new (List.mem_append_left _ mem)
    have names : (insertMember k v.sorted front ++ rest).map (·.1) ~
        k :: (front ++ rest).map (·.1) := (inserted.append_right rest).map _
    show sortedMembers (insertMember k v.sorted front) rest ~ _
    calc sortedMembers (insertMember k v.sorted front) rest
        ~ insertMember k v.sorted front ++ rest.map fun m => (m.1, m.2.sorted) :=
          ih (names.nodup_iff.mpr (moved.nodup_iff.mp once))
      _ ~ (k, v.sorted) :: front ++ rest.map fun m => (m.1, m.2.sorted) := inserted.append_right _
      _ ~ front ++ (k, v.sorted) :: rest.map fun m => (m.1, m.2.sorted) := perm_middle.symm

/-- Members may be put in the order of their names. -/
theorem arranges_sorted : Arranges sorted where
  null := rfl
  bool _ := rfl
  number _ := rfl
  string _ := rfl
  array items := congrArg Json.array (sortedItems_eq items)
  object _ once := ⟨_, rfl, sortedMembers_perm once⟩

/-! ## Readers of arranged values -/

/-- A reader takes a value to a result, however the members of the value are arranged. -/
def Reads (f : Json → Json) (read : Reader α) (v : Json) (a : α) : Prop :=
  read (f v).toSource = some a

namespace Arranges

theorem text (h : Arranges f) (s : String) : Reads f Reader.text (.string s) s := by
  unfold Reads
  rw [h.string]
  rfl

theorem flag (h : Arranges f) (b : Bool) : Reads f Reader.flag (.bool b) b := by
  unfold Reads
  rw [h.bool]
  rfl

theorem name (h : Arranges f) (s : String) : Reads f Reader.name (.string s) s := by
  unfold Reads
  rw [h.string]
  rfl

theorem float (h : Arranges f) {x : Float} (finite : x.isFinite = true) :
    Reads f Reader.float (ofFloat x) x := by
  unfold Reads ofFloat
  rw [if_pos finite, h.number]
  rfl

theorem word32 (h : Arranges f) (n : UInt32) :
    Reads f Reader.word32 (.number (.natural n.toNat)) n := by
  unfold Reads Reader.word32
  rw [h.number]
  show ((if n.toNat < UInt32.size then some n.toNat else none).map UInt32.ofNat) = some n
  rw [if_pos n.toNat_lt, Option.map_some, UInt32.ofNat_toNat]

theorem word64 (h : Arranges f) (n : UInt64) :
    Reads f Reader.word64 (.number (.natural n.toNat)) n := by
  unfold Reads Reader.word64
  rw [h.number]
  show ((if n.toNat < UInt64.size then some n.toNat else none).map UInt64.ofNat) = some n
  rw [if_pos n.toNat_lt, Option.map_some, UInt64.ofNat_toNat]

end Arranges

/-! ## Lists and dictionaries -/

/-- Items that are read back one by one are read back as a list. -/
theorem mapM_map_eq_some {write : α → β} {read : β → Option α} {items : List α}
    (each : ∀ a ∈ items, read (write a) = some a) : (items.map write).mapM read = some items := by
  induction items with
  | nil => rfl
  | cons a rest ih =>
    rw [List.map_cons, List.mapM_cons, each a List.mem_cons_self,
      ih fun b hb => each b (List.mem_cons_of_mem _ hb)]
    rfl

theorem Arranges.list (h : Arranges f) {read : Reader α} {write : α → Json} {items : List α}
    (each : ∀ a ∈ items, Reads f read (write a) a) :
    Reads f (Reader.list read) (.array (items.map write)) items := by
  unfold Reads
  rw [h.array]
  show (itemsToSource ((items.map write).map f)).mapM read = some items
  rw [itemsToSource_eq, List.map_map, List.map_map]
  exact mapM_map_eq_some each

/-- A dictionary is read back where its keys and its values are. -/
theorem Arranges.dict {κ : Type} [KeyOrder κ] (h : Arranges f) {key? : String → Option κ}
    {g : κ → String} (keys : ∀ k, key? (g k) = some k) {read : Reader α} {write : α → Json}
    {d : Dict κ α} (each : ∀ e ∈ d.entries, Reads f read (write e.2) e.2) :
    Reads f (Reader.dict key? read) (.object (d.entries.map fun e => (g e.1, write e.2))) d := by
  have names : ((d.entries.map fun e => (g e.1, write e.2)).map (·.1)).Nodup := by
    have same : (d.entries.map fun e => (g e.1, write e.2)).map (·.1) = d.keys.map g := by
      unfold Dict.keys
      rw [List.map_map, List.map_map]
      rfl
    rw [same]
    refine d.keys_nodup.map fun k l equal => ?_
    have found := keys k
    rw [equal, keys] at found
    exact (Option.some.inj found).symm
  obtain ⟨arranged, result, perm⟩ := h.object _ names
  rw [List.map_map] at perm
  obtain ⟨entries, rfl, order⟩ :=
    (congrFun₂ (List.eq_map_comp_perm _) arranged d.entries).mpr perm
  have decoded : (entries.map fun e => (some (g e.1), (f (write e.2)).toSource)).mapM
      (fun (m : Option String × Source) => do
        let k ← m.1
        let k ← key? k
        let v ← read m.2
        return (k, v)) = some entries := by
    refine mapM_map_eq_some fun e he => ?_
    have value : read (f (write e.2)).toSource = some e.2 := each e (order.mem_iff.mp he)
    simp only [keys, value, Option.bind_eq_bind, Option.bind_some, Option.pure_def]
  have once : (entries.map (·.1)).Nodup := (order.map _).nodup_iff.mpr d.keys_nodup
  have same : Dict.ofList entries = d := by
    refine Dict.ext_get? fun k => ?_
    rw [Dict.get?_ofList, Dict.find?_reverse once]
    exact Dict.find?_perm once order k
  unfold Reads
  rw [result]
  show Option.map Dict.ofList ((membersToSource _).mapM _) = some d
  rw [membersToSource_eq, List.map_map]
  exact (congrArg (Option.map Dict.ofList) decoded).trans (congrArg some same)

/-- A dictionary by names is read back where its values are. -/
theorem Arranges.table (h : Arranges f) {read : Reader α} {write : α → Json}
    {d : Dict String α} (each : ∀ e ∈ d.entries, Reads f read (write e.2) e.2) :
    Reads f (Reader.table read) (.object (d.entries.map fun e => (e.1, write e.2))) d :=
  h.dict (g := id) (fun _ => rfl) each

/-! ## Records -/

theorem lookup_eq_find? (name : String) (l : List (String × α)) :
    l.lookup name = Dict.find? name l := by
  induction l with
  | nil => rfl
  | cons e rest ih =>
    rw [List.lookup_cons, Dict.find?, ih]
    by_cases same : name = e.1
    · rw [if_pos same, beq_iff_eq.mpr same]
    · rw [if_neg same, beq_eq_false_iff_ne.mpr same]

/-- Members with known names of their own are all found. -/
theorem Fields.scan_eq {names seen : List String} {members : List (String × Source)}
    (known : ∀ m ∈ members, m.1 ∈ names) (new : ∀ m ∈ members, m.1 ∉ seen)
    (once : (members.map (·.1)).Nodup) :
    Fields.scan names seen (members.map fun m => (some m.1, m.2)) = ⟨members, true⟩ := by
  induction members generalizing seen with
  | nil => rfl
  | cons m rest ih =>
    obtain ⟨first, rest_once⟩ := List.nodup_cons.mp once
    have mine : names.contains m.1 = true :=
      List.contains_iff_mem.mpr (known m List.mem_cons_self)
    have unseen : ¬ seen.contains m.1 = true := fun again =>
      new m List.mem_cons_self (List.contains_iff_mem.mp again)
    have others : ∀ n ∈ rest, n.1 ∉ m.1 :: seen := by
      intro n hn again
      rcases List.mem_cons.mp again with same | again
      · exact first (List.mem_map.mpr ⟨n, hn, same⟩)
      · exact new n (List.mem_cons_of_mem _ hn) again
    simp only [List.map_cons, Fields.scan, mine, unseen, if_true]
    rw [ih (fun n hn => known n (List.mem_cons_of_mem _ hn)) others rest_once]
    rfl

/-- The fields of a record are those that were written, where a missing one was not. -/
def Fields.Holds (fields : Fields) (f : Json → Json) (written : List (String × Option Json)) :
    Prop :=
  ∀ name v, (name, v) ∈ written → fields.get? name = v.map fun j => (f j).toSource

/-- The names of the fields that have a value. -/
theorem names_filterMap_sublist (written : List (String × Option Json)) :
    (written.filterMap fun w => w.2.map fun v => (w.1, v)).map (·.1) <+ written.map (·.1) := by
  induction written with
  | nil => exact Sublist.refl _
  | cons w rest ih =>
    obtain ⟨name, v⟩ := w
    cases v with
    | none => exact ih.cons _
    | some v => exact ih.cons_cons _

/-- The fields of a record are found in some order, each once. -/
theorem Arranges.exists_found (h : Arranges f) {written : List (String × Option Json)}
    (once : (written.map (·.1)).Nodup) :
    ∃ found, Fields.ofSource (written.map (·.1)) (f (ofFields written)).toSource = ⟨found, true⟩ ∧
      found ~ (written.filterMap fun w => w.2.map fun v => (w.1, (f v).toSource)) ∧
      (found.map (·.1)).Nodup := by
  have sub := names_filterMap_sublist written
  obtain ⟨arranged, result, perm⟩ := h.object _ (once.sublist sub)
  -- The members, in the order in which they stand after they are arranged.
  let found : List (String × Source) := arranged.map fun m => (m.1, m.2.toSource)
  have order : found ~ written.filterMap fun w => w.2.map fun v => (w.1, (f v).toSource) := by
    refine (perm.map _).trans (.of_eq ?_)
    rw [List.map_map, List.map_filterMap]
    simp only [Option.map_map]
    rfl
  have found_once : (found.map (·.1)).Nodup := by
    refine ((perm.map _).map _).nodup_iff.mpr ?_
    rw [List.map_map, List.map_map]
    exact once.sublist sub
  have known : ∀ m ∈ found, m.1 ∈ written.map (·.1) := by
    intro m mem
    obtain ⟨w, hw, value⟩ := List.mem_filterMap.mp (order.mem_iff.mp mem)
    obtain ⟨v, -, rfl⟩ := Option.map_eq_some_iff.mp value
    exact List.mem_map.mpr ⟨w, hw, rfl⟩
  refine ⟨found, ?_, order, found_once⟩
  have members : membersToSource arranged = found.map fun m => (some m.1, m.2) := by
    rw [membersToSource_eq, List.map_map]
    rfl
  unfold ofFields
  rw [result]
  simp only [toSource, Fields.ofSource, members]
  exact Fields.scan_eq known (fun _ _ => List.not_mem_nil) found_once

/-- A record is read from the fields that it was written from. -/
theorem Arranges.record (h : Arranges f) {names : List String}
    {written : List (String × Option Json)} (order : written.map (·.1) = names)
    (once : names.Nodup) {rest : Fields → Option α} {a : α}
    (body : ∀ fields : Fields, fields.Holds f written → rest fields = some a) :
    (Fields.read? names (f (ofFields written)).toSource >>= rest) = some a := by
  subst order
  obtain ⟨found, result, perm, found_once⟩ := h.exists_found once
  have mem_found {name : String} {s : Source} : (name, s) ∈ found ↔
      ∃ v, (name, some v) ∈ written ∧ s = (f v).toSource := by
    rw [perm.mem_iff, List.mem_filterMap]
    simp only [Option.map_eq_some_iff, Prod.mk.injEq]
    constructor
    · rintro ⟨w, hw, v, has, rfl, rfl⟩
      exact ⟨v, has ▸ hw, rfl⟩
    · rintro ⟨v, hw, rfl⟩
      exact ⟨_, hw, v, rfl, rfl, rfl⟩
  unfold Fields.read?
  rw [result]
  refine body _ fun name v mem => ?_
  show found.lookup name = _
  rw [lookup_eq_find?]
  cases v with
  | some v => exact Dict.find?_eq_some_of_mem found_once (mem_found.mpr ⟨v, mem, rfl⟩)
  | none =>
    refine Dict.find?_eq_none_iff.mpr fun s found => ?_
    obtain ⟨v, hw, -⟩ := mem_found.mp found
    -- No name was written with a value and without one.
    have same := Dict.find?_eq_some_of_mem once hw
    rw [Dict.find?_eq_some_of_mem once mem] at same
    cases same

/-- A record without optional fields is an object with all of them. -/
theorem ofFields_map_some (members : List (String × Json)) :
    ofFields (members.map fun m => (m.1, some m.2)) = .object members := by
  unfold ofFields
  rw [List.filterMap_map]
  exact congrArg Json.object List.filterMap_some

/-- An object is read from its members. -/
theorem Arranges.members (h : Arranges f) {names : List String} {members : List (String × Json)}
    (order : members.map (·.1) = names) (once : names.Nodup) {rest : Fields → Option α} {a : α}
    (body : ∀ fields : Fields,
      fields.Holds f (members.map fun m => (m.1, some m.2)) → rest fields = some a) :
    (Fields.read? names (f (.object members)).toSource >>= rest) = some a := by
  rw [← ofFields_map_some members]
  refine h.record ?_ once body
  rw [List.map_map]
  exact order

/-- What is read first is known, so the rest can be read. -/
theorem bind_eq_some {x : Option α} {a : α} {rest : α → Option β} {b : β} (first : x = some a)
    (then_ : rest a = some b) : (x >>= rest) = some b := by
  rw [first]
  exact then_

/-! ## Fields -/

/-- A value without items or members. -/
def Scalar : Json → Prop
  | .array _ | .object _ => False
  | _ => True

theorem Arranges.scalar (h : Arranges f) {v : Json} (scalar : v.Scalar) : f v = v := by
  cases v with
  | null => exact h.null
  | bool b => exact h.bool b
  | number n => exact h.number n
  | string s => exact h.string s
  | array items => exact scalar.elim
  | object members => exact scalar.elim

theorem generic?_scalar {v : Json} (scalar : v.Scalar) : v.toSource.generic? = some v := by
  cases v with
  | array items => exact scalar.elim
  | object members => exact scalar.elim
  | _ => rfl

/-- A reader that refuses `null` reads as an optional one what it reads. -/
theorem Reads.optional {read : Reader α} {v : Json} {a : α} (reads : Reads f read v a)
    (refuses : read .null = none) : Reads f (Reader.optional read) v (some a) := by
  unfold Reads at reads ⊢
  unfold Reader.optional
  split
  next null =>
    rw [null, refuses] at reads
    cases reads
  next =>
    rw [reads]
    rfl

/-- A value that may be `null` is read back where it is not. -/
theorem Arranges.nullable (h : Arranges f) {read : Reader α} {write : α → Json} {x : Option α}
    (refuses : read .null = none) (reads : ∀ a, x = some a → Reads f read (write a) a) :
    Reads f (Reader.optional read) ((x.map write).getD .null) x := by
  cases x with
  | some a => exact (reads a rfl).optional refuses
  | none =>
    unfold Reads
    rw [Option.map_none, Option.getD_none, h.null]
    rfl

namespace Fields.Holds

variable {fields : Fields} {written : List (String × Option Json)} {name : String}
  {read : Reader α} {write : α → Json} {v : Json} {a : α}

theorem required (holds : fields.Holds f written) (mem : (name, some v) ∈ written)
    (reads : Reads f read v a) : fields.required name read = some a := by
  unfold Fields.required
  rw [holds name _ mem]
  exact reads

theorem withDefault (holds : fields.Holds f written) (mem : (name, some v) ∈ written)
    (reads : Reads f read v a) (default : α) :
    fields.withDefault name read default = some a := by
  unfold Fields.withDefault
  rw [holds name _ mem]
  exact reads

theorem missing (holds : fields.Holds f written) (mem : (name, none) ∈ written) (read : Reader α)
    (default : α) : fields.withDefault name read default = some default := by
  unfold Fields.withDefault
  rw [holds name _ mem]
  rfl

theorem optional (holds : fields.Holds f written) (x : Option α)
    (mem : (name, x.map write) ∈ written) (refuses : read .null = none)
    (reads : ∀ a, x = some a → Reads f read (write a) a) :
    fields.optional name read = some x := by
  cases x with
  | none => exact holds.missing mem _ _
  | some a => exact holds.withDefault mem ((reads a rfl).optional refuses) _

theorem text (holds : fields.Holds f written) (h : Arranges f) (x : Option String)
    (mem : (name, x.map .string) ∈ written) : fields.optional name Reader.text = some x :=
  holds.optional x mem rfl fun s _ => h.text s

/-- A scalar that is well shaped survives a lenient reader. -/
theorem lenient (holds : fields.Holds f written) (h : Arranges f) (x : Option α)
    (mem : (name, x.map write) ∈ written)
    (reads : ∀ a, x = some a → Reads f read (write a) a) (scalar : ∀ a, (write a).Scalar) :
    fields.lenient name read = some x := by
  cases x with
  | none => exact holds.missing mem _ _
  | some a =>
    refine holds.withDefault mem ?_ _
    have value := reads a rfl
    unfold Reads at value ⊢
    unfold Reader.lenient
    rw [h.scalar (scalar a)] at value ⊢
    rw [generic?_scalar (scalar a), Option.map_some, value]

end Fields.Holds

/-! ## Height -/

theorem Source.height_le_membersHeight {m : Option String × Source}
    {members : List (Option String × Source)} (mem : m ∈ members) :
    m.2.height ≤ Source.membersHeight members := by
  induction members with
  | nil => cases mem
  | cons n rest ih =>
    rcases List.mem_cons.mp mem with rfl | there
    · exact Nat.le_max_left _ _
    · exact Nat.le_trans (ih there) (Nat.le_max_right _ _)

theorem Arranges.height_array (h : Arranges f) (items : List Json) :
    (f (.array items)).toSource.height =
      Source.itemsHeight (items.map fun v => (f v).toSource) + 1 := by
  rw [h.array, toSource, itemsToSource_eq, List.map_map]
  rfl

/-- A record is higher than every field of it. -/
theorem Arranges.height_lt_record (h : Arranges f) {written : List (String × Option Json)}
    (once : (written.map (·.1)).Nodup) {name : String} {v : Json}
    (mem : (name, some v) ∈ written) :
    (f v).toSource.height < (f (ofFields written)).toSource.height := by
  obtain ⟨arranged, result, perm⟩ := h.object _ (once.sublist (names_filterMap_sublist written))
  have member : (name, f v) ∈ arranged :=
    perm.mem_iff.mpr (List.mem_map.mpr ⟨(name, v), List.mem_filterMap.mpr ⟨_, mem, rfl⟩, rfl⟩)
  unfold ofFields
  rw [result, toSource, membersToSource_eq]
  have here : (some name, (f v).toSource) ∈ arranged.map fun m => (some m.1, m.2.toSource) :=
    List.mem_map.mpr ⟨_, member, rfl⟩
  exact Nat.lt_succ_of_le (Source.height_le_membersHeight here)

end PageStudio.Json
