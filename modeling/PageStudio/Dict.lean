/-!
# Dictionaries

A dictionary keeps its entries in ascending order of their keys, each key once, and carries the
proof. So two dictionaries with the same entries are equal, and every walk through one goes in key
order.

## Main statements

* `Dict.get?_insert`, `Dict.get?_erase`: what an operation does to the entries, seen by lookup.
* `Dict.ext_get?`: a dictionary is its lookup function.
-/

namespace PageStudio

/-- A strict total order on keys that can be computed. -/
class KeyOrder (κ : Type) where
  same : DecidableEq κ
  /-- Whether one key comes before another. -/
  before : κ → κ → Bool
  irrefl : ∀ a, before a a = false
  trans : ∀ a b c, before a b = true → before b c = true → before a c = true
  connected : ∀ a b, before a b = false → before b a = false → a = b

attribute [reducible, instance] KeyOrder.same

/-- Texts are ordered by the code points of their characters. -/
instance : KeyOrder String where
  same := inferInstance
  before a b := decide (a < b)
  irrefl a := decide_eq_false (String.lt_irrefl a)
  trans _ _ _ h₁ h₂ :=
    decide_eq_true (String.lt_trans (of_decide_eq_true h₁) (of_decide_eq_true h₂))
  connected _ _ h₁ h₂ :=
    String.le_antisymm (String.not_lt.1 (of_decide_eq_false h₂))
      (String.not_lt.1 (of_decide_eq_false h₁))

/-- A finite map with its entries in key order. -/
structure Dict (κ : Type) (α : Type) [KeyOrder κ] where
  entries : List (κ × α)
  ascending : entries.Pairwise fun a b => KeyOrder.before a.1 b.1 = true

namespace Dict

variable {κ α β : Type} [KeyOrder κ]

@[ext] theorem ext {d e : Dict κ α} (h : d.entries = e.entries) : d = e := by
  cases d; cases e; cases h; rfl

instance [DecidableEq α] : DecidableEq (Dict κ α) := fun d e =>
  decidable_of_iff (d.entries = e.entries) ⟨ext, fun h => h ▸ rfl⟩

instance [BEq α] : BEq (Dict κ α) := ⟨fun d e => d.entries == e.entries⟩

/-- The dictionary without entries. -/
def empty : Dict κ α := ⟨[], .nil⟩

instance : EmptyCollection (Dict κ α) := ⟨empty⟩
instance : Inhabited (Dict κ α) := ⟨empty⟩

/-- The keys in ascending order. -/
def keys (d : Dict κ α) : List κ := d.entries.map (·.1)

/-- The number of entries. -/
def size (d : Dict κ α) : Nat := d.entries.length

/-- Whether there is no entry. -/
def isEmpty (d : Dict κ α) : Bool := d.entries.isEmpty

/-! ## Lookup -/

/-- The value of a key among entries. -/
def find? (k : κ) : List (κ × α) → Option α
  | [] => none
  | (l, v) :: rest => if k = l then some v else find? k rest

/-- The value of a key. -/
def get? (d : Dict κ α) (k : κ) : Option α := find? k d.entries

/-- Whether a key has a value. -/
def contains (d : Dict κ α) (k : κ) : Bool := (d.get? k).isSome

/-! ## Insertion -/

/-- Puts an entry at its place, over one with the same key. -/
def insertEntry (k : κ) (v : α) : List (κ × α) → List (κ × α)
  | [] => [(k, v)]
  | (l, w) :: rest =>
    if k = l then (k, v) :: rest
    else if KeyOrder.before k l then (k, v) :: (l, w) :: rest
    else (l, w) :: insertEntry k v rest

/-- After an insertion there are the new entry and old ones. -/
theorem mem_insertEntry {k : κ} {v : α} {x : κ × α} {es : List (κ × α)}
    (h : x ∈ insertEntry k v es) : x = (k, v) ∨ x ∈ es := by
  induction es with
  | nil => simpa [insertEntry] using h
  | cons e rest ih =>
    obtain ⟨l, w⟩ := e
    simp only [insertEntry] at h
    split at h
    · rcases List.mem_cons.1 h with h | h
      · exact .inl h
      · exact .inr (List.mem_cons_of_mem _ h)
    · split at h
      · rcases List.mem_cons.1 h with h | h
        · exact .inl h
        · exact .inr h
      · rcases List.mem_cons.1 h with h | h
        · exact .inr (h ▸ List.mem_cons_self)
        · rcases ih h with h | h
          · exact .inl h
          · exact .inr (List.mem_cons_of_mem _ h)

/-- An insertion keeps the entries in order. -/
theorem ascending_insertEntry (k : κ) (v : α) {es : List (κ × α)}
    (h : es.Pairwise fun a b => KeyOrder.before a.1 b.1 = true) :
    (insertEntry k v es).Pairwise fun a b => KeyOrder.before a.1 b.1 = true := by
  induction es with
  | nil => simp [insertEntry]
  | cons e rest ih =>
    obtain ⟨l, w⟩ := e
    have ⟨front, tail⟩ := List.pairwise_cons.1 h
    simp only [insertEntry]
    split
    · next same => subst same; exact List.pairwise_cons.2 ⟨front, tail⟩
    · next differ =>
      split
      · next first =>
        refine List.pairwise_cons.2 ⟨fun x hx => ?_, h⟩
        rcases List.mem_cons.1 hx with rfl | hx
        · exact first
        · exact KeyOrder.trans _ _ _ first (front x hx)
      · next later =>
        have before : KeyOrder.before l k = true := by
          cases hb : KeyOrder.before l k with
          | true => rfl
          | false => exact absurd (KeyOrder.connected _ _ (by simpa using later) hb) differ
        refine List.pairwise_cons.2 ⟨fun x hx => ?_, ih tail⟩
        rcases mem_insertEntry hx with rfl | hx
        · exact before
        · exact front x hx

/-- The dictionary with a value for a key, in place of the one it had. -/
def insert (d : Dict κ α) (k : κ) (v : α) : Dict κ α :=
  ⟨insertEntry k v d.entries, ascending_insertEntry k v d.ascending⟩

/-- The dictionary of entries put in one after another, so the last value of a key counts. -/
def ofList (es : List (κ × α)) : Dict κ α := es.foldl (fun d e => d.insert e.1 e.2) empty

/-- The entries of both dictionaries, those of `upper` where both have a key. -/
def union (lower upper : Dict κ α) : Dict κ α :=
  upper.entries.foldl (fun d e => d.insert e.1 e.2) lower

/-! ## Removal -/

/-- The entries that pass a test. -/
def filter (keep : κ → α → Bool) (d : Dict κ α) : Dict κ α :=
  ⟨d.entries.filter fun e => keep e.1 e.2, d.ascending.filter _⟩

/-- The dictionary without a key. -/
def erase (d : Dict κ α) (k : κ) : Dict κ α := d.filter fun l _ => !decide (k = l)

/-! ## Values -/

/-- The dictionary with every value changed. -/
def mapWithKey (f : κ → α → β) (d : Dict κ α) : Dict κ β :=
  ⟨d.entries.map fun e => (e.1, f e.1 e.2), List.pairwise_map.2 d.ascending⟩

/-! ## Laws -/

theorem find?_insertEntry (k l : κ) (v : α) (es : List (κ × α)) :
    find? l (insertEntry k v es) = if l = k then some v else find? l es := by
  induction es with
  | nil => simp [insertEntry, find?]
  | cons e rest ih =>
    obtain ⟨m, w⟩ := e
    simp only [insertEntry]
    split
    · next same =>
      subst same
      by_cases h : l = k <;> simp [find?, h]
    · next differ =>
      split
      · simp [find?]
      · by_cases h : l = k
        · subst h
          simp only [find?, ih, if_true]
          rw [if_neg differ]
        · by_cases hm : l = m
          · subst hm; simp [find?, h]
          · simp [find?, ih, h, hm]

/-- Lookup after an insertion. -/
@[simp] theorem get?_insert (d : Dict κ α) (k l : κ) (v : α) :
    (d.insert k v).get? l = if l = k then some v else d.get? l :=
  find?_insertEntry k l v d.entries

/-- Nothing is found in the empty dictionary. -/
@[simp] theorem get?_empty (k : κ) : (empty : Dict κ α).get? k = none := rfl

theorem find?_filter (keep : κ → Bool) (k : κ) (es : List (κ × α)) :
    find? k (es.filter fun e => keep e.1) = if keep k then find? k es else none := by
  induction es with
  | nil => simp [find?]
  | cons e rest ih =>
    obtain ⟨l, v⟩ := e
    by_cases hl : keep l <;> by_cases h : k = l <;> simp_all [find?]

/-- Lookup after a removal. -/
@[simp] theorem get?_erase (d : Dict κ α) (k l : κ) :
    (d.erase k).get? l = if l = k then none else d.get? l := by
  have h := find?_filter (fun m => !decide (k = m)) l d.entries
  by_cases e : l = k
  · subst e; simpa [erase, filter, get?] using h
  · have e' : ¬ k = l := fun h => e h.symm
    simpa [erase, filter, get?, e, e'] using h

theorem find?_eq_none_of_before {k : κ} {es : List (κ × α)}
    (h : ∀ e ∈ es, KeyOrder.before k e.1 = true) : find? k es = none := by
  induction es with
  | nil => rfl
  | cons e rest ih =>
    have first := h e List.mem_cons_self
    have differ : k ≠ e.1 := fun same => by
      rw [← same, KeyOrder.irrefl] at first
      exact Bool.noConfusion first
    simp only [find?, if_neg differ]
    exact ih fun x hx => h x (List.mem_cons_of_mem _ hx)

theorem find?_of_mem {es : List (κ × α)}
    (asc : es.Pairwise fun a b => KeyOrder.before a.1 b.1 = true)
    {k : κ} {v : α} (h : (k, v) ∈ es) : find? k es = some v := by
  induction es with
  | nil => simp at h
  | cons e rest ih =>
    have ⟨front, tail⟩ := List.pairwise_cons.1 asc
    rcases List.mem_cons.1 h with rfl | h
    · simp [find?]
    · have differ : k ≠ e.1 := fun same => by
        have := front (k, v) h
        rw [← same, KeyOrder.irrefl] at this
        exact Bool.noConfusion this
      simp only [find?, if_neg differ]
      exact ih tail h

theorem mem_of_find? {es : List (κ × α)} {k : κ} {v : α} (h : find? k es = some v) :
    (k, v) ∈ es := by
  induction es with
  | nil => simp [find?] at h
  | cons e rest ih =>
    obtain ⟨l, w⟩ := e
    simp only [find?] at h
    split at h
    · next same => cases h; exact same ▸ List.mem_cons_self
    · exact List.mem_cons_of_mem _ (ih h)

/-- What lookup finds is an entry, and every entry is found. -/
theorem get?_eq_some_iff (d : Dict κ α) {k : κ} {v : α} :
    d.get? k = some v ↔ (k, v) ∈ d.entries :=
  ⟨mem_of_find?, find?_of_mem d.ascending⟩

/-- The keys are those with a value. -/
theorem mem_keys_iff (d : Dict κ α) {k : κ} : k ∈ d.keys ↔ (d.get? k).isSome = true := by
  constructor
  · intro h
    obtain ⟨⟨l, v⟩, he, rfl⟩ := List.mem_map.1 h
    rw [(d.get?_eq_some_iff).2 he]; rfl
  · intro h
    obtain ⟨v, hv⟩ := Option.isSome_iff_exists.1 h
    exact List.mem_map.2 ⟨(k, v), (d.get?_eq_some_iff).1 hv, rfl⟩

theorem entries_ext {es fs : List (κ × α)}
    (he : es.Pairwise fun a b => KeyOrder.before a.1 b.1 = true)
    (hf : fs.Pairwise fun a b => KeyOrder.before a.1 b.1 = true)
    (h : ∀ k, find? k es = find? k fs) : es = fs := by
  induction es generalizing fs with
  | nil =>
    cases fs with
    | nil => rfl
    | cons f _ => simpa [find?] using h f.1
  | cons e rest ih =>
    obtain ⟨k, v⟩ := e
    cases fs with
    | nil => simpa [find?] using h k
    | cons f rest' =>
      obtain ⟨l, w⟩ := f
      have ⟨efront, etail⟩ := List.pairwise_cons.1 he
      have ⟨ffront, ftail⟩ := List.pairwise_cons.1 hf
      have same : k = l := by
        refine Classical.byContradiction fun differ => ?_
        have hk : find? k rest' = some v := by simpa [find?, differ] using (h k).symm
        have hl : find? l rest = some w := by
          have differ' : ¬ l = k := fun h => differ h.symm
          simpa [find?, differ'] using h l
        have kl := efront _ (mem_of_find? hl)
        have lk := ffront _ (mem_of_find? hk)
        have kk := KeyOrder.trans _ _ _ kl lk
        simp [KeyOrder.irrefl] at kk
      subst same
      have value : v = w := by simpa [find?] using h k
      subst value
      refine congrArg _ (ih etail ftail fun m => ?_)
      by_cases hm : m = k
      · subst hm
        rw [find?_eq_none_of_before efront, find?_eq_none_of_before ffront]
      · simpa [find?, hm] using h m

/-- Dictionaries with the same lookup are the same. -/
theorem ext_get? {d e : Dict κ α} (h : ∀ k, d.get? k = e.get? k) : d = e :=
  ext (entries_ext d.ascending e.ascending h)

end Dict

end PageStudio
