import Mathlib.Data.List.Basic
import PageStudio.Proofs.Node.IdRequests
import PageStudio.Proofs.Text.Slug

/-!
# Sources with different seeds

An id is what it starts with, the seed of its source and a count, with hyphens in between. Hyphens
stand in slugs and may stand in seeds, so where one seed is another one behind some text and a
hyphen, that text can be taken for the end of a slug: both sources hand out the same id. Sources
whose seeds are checksums never do, and no two sources do for nodes.

## Main statements

* `serveAll_disjoint_iff`: when no id is handed out by two sources with different seeds.
* `exists_common_id`: two sources with different seeds that hand out the same id.
-/

namespace PageStudio.IdSource

variable {ids ids' : IdSource} {requests requests' : List Request} {id front front' : String}
  {count count' : Nat}

/-! ## What ids start with -/

/-- What the id that is asked for starts with. -/
def Request.front? : Request → Option String
  | nodeId kind => some kind.slug
  | pageId name => some (pageFront name)
  | reserve _ => none

/-- Every id that is handed out was asked for. -/
theorem exists_request_of_mem_serveAll (mem : id ∈ (ids.serveAll requests).1) :
    ∃ r ∈ requests, ∃ front count, r.front? = some front ∧ id = ids.idAt front count := by
  induction requests generalizing ids with
  | nil => cases mem
  | cons r rest ih =>
    rcases List.mem_append.mp mem with here | later
    · refine ⟨r, List.mem_cons_self, ?_⟩
      cases r with
      | nodeId kind => exact ⟨kind.slug, ids.count + 1, rfl, List.mem_singleton.mp here⟩
      | pageId name => exact ⟨pageFront name, ids.count + 1, rfl, List.mem_singleton.mp here⟩
      | reserve used => cases here
    · obtain ⟨r', among, front, count, asked, same⟩ := ih later
      refine ⟨r', List.mem_cons_of_mem _ among, front, count, asked, same.trans ?_⟩
      exact (advances_serve ids r).idAt front count

theorem isSlugChar_of_mem_pageFront {name : String} {c : Char}
    (mem : c ∈ (pageFront name).toList) : Text.isSlugChar c = true := by
  unfold pageFront at mem
  split at mem
  · have page : ("page".toList.all Text.isSlugChar) = true := by decide
    exact List.all_eq_true.mp page c mem
  · exact Text.isSlugChar_of_mem_slug mem

theorem isSlugChar_of_mem_kindSlug {kind : Kind} {c : Char} (mem : c ∈ kind.slug.toList) :
    Text.isSlugChar c = true := by
  have all : (kind.slug.toList.all Text.isSlugChar) = true := by cases kind <;> decide
  exact List.all_eq_true.mp all c mem

/-- What an id starts with has the characters of a slug. -/
theorem isSlugChar_of_mem_front {r : Request} (asked : r.front? = some front) :
    ∀ c ∈ front.toList, Text.isSlugChar c = true := by
  intro c mem
  cases r with
  | nodeId kind =>
    cases asked
    exact isSlugChar_of_mem_kindSlug mem
  | pageId name =>
    cases asked
    exact isSlugChar_of_mem_pageFront mem
  | reserve used => cases asked

/-- Without requests for pages, ids start with the names of kinds. -/
theorem exists_kind_of_front? {r : Request} (nodes : ∀ name, .pageId name ∉ requests)
    (mem : r ∈ requests) (asked : r.front? = some front) : ∃ kind : Kind, front = kind.slug := by
  cases r with
  | nodeId kind => exact ⟨kind, (Option.some.inj asked).symm⟩
  | pageId name => exact absurd mem (nodes name)
  | reserve used => cases asked

/-- The id of a page can start with any text that has the characters of a slug. -/
theorem pageFront_eq_self (nonempty : front ≠ "")
    (fit : ∀ c ∈ front.toList, Text.isSlugChar c = true) : pageFront front = front := by
  rw [pageFront, Text.slug_eq_self fit, if_neg]
  rwa [String.isEmpty_iff]

/-- No kind has the name of another one behind a hyphen in its slug. -/
theorem not_prefix_slug (kind kind' : Kind) :
    ¬ (kind.slug.toList ++ ['-']) <+: kind'.slug.toList := by
  intro inside
  have hyphen : '-' ∈ kind'.slug.toList :=
    inside.subset (List.mem_append_right _ (List.mem_singleton_self _))
  have hyphened : kind' = .progressBar ∨ kind' = .socialIcons := by
    revert hyphen
    cases kind' <;> decide
  rcases hyphened with rfl | rfl
  · revert inside
    cases kind <;> decide
  · revert inside
    cases kind <;> decide

/-! ## Two ways to read an id -/

/-- Two texts that are cut at a hyphen in different places. -/
theorem cut_cases {a b c d : List Char} (same : a ++ '-' :: b = c ++ '-' :: d) :
    b = d ∨ (∃ rest, d = rest ++ '-' :: b ∧ a = c ++ '-' :: rest) ∨
      ∃ rest, b = rest ++ '-' :: d ∧ c = a ++ '-' :: rest := by
  rcases List.append_eq_append_iff.mp same with
    ⟨between, longer, shorter⟩ | ⟨between, longer, shorter⟩
  · cases between with
    | nil => exact .inl (List.cons.inj shorter).2
    | cons hyphen rest =>
      obtain ⟨rfl, tail⟩ := List.cons.inj shorter
      exact .inr (.inr ⟨rest, tail, longer⟩)
  · cases between with
    | nil => exact .inl (List.cons.inj shorter).2.symm
    | cons hyphen rest =>
      obtain ⟨rfl, tail⟩ := List.cons.inj shorter
      exact .inr (.inl ⟨rest, tail, longer⟩)

/-- What stands in front of the digits of an id. -/
theorem toList_idAt_cut (ids : IdSource) (front : String) (count : Nat) :
    (ids.idAt front count).toList =
      (front.toList ++ '-' :: ids.seed.toList) ++ '-' :: Nat.toDigits 10 count := by
  simp only [toList_idAt, toList_mark, List.append_assoc, List.cons_append, List.nil_append]

/-- Two sources have an id in common where it has the same count and starts with the same text up
to it. -/
theorem idAt_eq_idAt_iff : ids.idAt front count = ids'.idAt front' count' ↔
    count = count' ∧
      front.toList ++ '-' :: ids.seed.toList = front'.toList ++ '-' :: ids'.seed.toList := by
  rw [← String.toList_inj, toList_idAt_cut, toList_idAt_cut]
  constructor
  · intro same
    have hyphenless := Decimal.not_mem_toDigits (c := '-') rfl
    -- A cut at another hyphen would put one into the digits.
    rcases cut_cases same with digits | ⟨rest, digits, -⟩ | ⟨rest, digits, -⟩
    · refine ⟨Decimal.toDigits_inj digits, ?_⟩
      rw [digits] at same
      exact List.append_cancel_right same
    · exact absurd (digits ▸ List.mem_append_right _ List.mem_cons_self) (hyphenless count')
    · exact absurd (digits ▸ List.mem_append_right _ List.mem_cons_self) (hyphenless count)
  · rintro ⟨rfl, fronts⟩
    rw [fronts]

/-- Two sources hand out different ids where what the ids start with never goes on in the same
way. -/
theorem disjoint_serveAll
    (apart : ∀ r ∈ requests, ∀ r' ∈ requests', ∀ front front', r.front? = some front →
      r'.front? = some front' →
      front.toList ++ '-' :: ids.seed.toList ≠ front'.toList ++ '-' :: ids'.seed.toList) :
    (ids.serveAll requests).1.Disjoint (ids'.serveAll requests').1 := by
  intro id mem mem'
  obtain ⟨r, among, front, count, asked, same⟩ := exists_request_of_mem_serveAll mem
  obtain ⟨r', among', front', count', asked', same'⟩ := exists_request_of_mem_serveAll mem'
  have common := idAt_eq_idAt_iff.mp (same.symm.trans same')
  exact apart r among r' among' front front' asked asked' common.2

/-! ## Seeds that end in another one -/

/-- The second seed is the first one behind a hyphen, and what stands in front of it can be taken
for the end of a slug. -/
def EndsInSeed (seed seed' : String) : Prop :=
  ∃ rest : List Char, (∀ c ∈ rest, Text.isSlugChar c = true) ∧
    seed'.toList = rest ++ '-' :: seed.toList

variable {seed seed' : String}

theorem endsInSeed_of_fronts {c : List Char} {r : Request} (asked : r.front? = some front)
    {rest : List Char} (longer : seed'.toList = rest ++ '-' :: seed.toList)
    (front_eq : front.toList = c ++ '-' :: rest) : EndsInSeed seed seed' := by
  refine ⟨rest, fun d mem => isSlugChar_of_mem_front asked d ?_, longer⟩
  rw [front_eq]
  exact List.mem_append_right _ (List.mem_cons_of_mem _ mem)

/-- A page whose name ends in the text that one seed has in front of the other gets the id of
another page. -/
theorem exists_common_id_of_endsInSeed (tail : EndsInSeed seed seed') :
    ∃ name name' id, id ∈ (IdSource.serveAll { seed := seed } [.pageId name]).1 ∧
      id ∈ (IdSource.serveAll { seed := seed' } [.pageId name']).1 := by
  obtain ⟨rest, fit, longer⟩ := tail
  let name := String.ofList ('a' :: '-' :: rest)
  have chars : name.toList = 'a' :: '-' :: rest := String.toList_ofList
  have own : pageFront name = name := by
    refine pageFront_eq_self (fun empty => ?_) ?_
    · rw [empty] at chars
      cases chars
    · rw [chars]
      have first : Text.isSlugChar 'a' = true := by decide
      have hyphen : Text.isSlugChar '-' = true := by decide
      exact List.forall_mem_cons.mpr ⟨first, List.forall_mem_cons.mpr ⟨hyphen, fit⟩⟩
  have own' : pageFront "a" = "a" := by decide
  have common : IdSource.idAt { seed := seed } name 1 = IdSource.idAt { seed := seed' } "a" 1 := by
    refine idAt_eq_idAt_iff.mpr ⟨rfl, ?_⟩
    rw [chars, longer]
    rfl
  refine ⟨name, "a", IdSource.idAt { seed := seed } name 1, ?_, ?_⟩
  · simp only [serveAll, serve, pageId, next, own, List.append_nil, List.mem_singleton]
  · simp only [serveAll, serve, pageId, next, own', List.append_nil, List.mem_singleton]
    exact common

/-- The digits of a checksum are no hyphens. -/
theorem hyphen_not_mem_toDigits (n : Nat) : '-' ∉ Nat.toDigits 16 n := by
  have digit : ∀ d < 16, Nat.digitChar d ≠ '-' := by decide
  induction n using Nat.strongRecOn with
  | ind n ih =>
    rw [Nat.toDigits_eq_if (by decide)]
    split
    next small => exact fun mem => digit n small (List.mem_singleton.mp mem).symm
    next large =>
      intro mem
      rcases List.mem_append.mp mem with front | last
      · exact ih (n / 16) (by omega) front
      · exact digit (n % 16) (by omega) (List.mem_singleton.mp last).symm

/-- No checksum ends in another seed. -/
theorem not_endsInSeed_checksumHex (seed text : String) :
    ¬ EndsInSeed seed (Text.checksumHex text) := by
  rintro ⟨rest, -, longer⟩
  rw [Text.checksumHex, String.toList_ofList] at longer
  have hyphen : '-' ∈ rest ++ '-' :: seed.toList := List.mem_append_right _ List.mem_cons_self
  exact hyphen_not_mem_toDigits _ (longer ▸ hyphen)

/-- Two sources with different seeds hand out no id in common as long as neither seed ends in the
other one. -/
theorem disjoint_serveAll_of_not_endsInSeed (different : seed ≠ seed')
    (outside : ¬ EndsInSeed seed seed') (outside' : ¬ EndsInSeed seed' seed) :
    (IdSource.serveAll { seed := seed } requests).1.Disjoint
      (IdSource.serveAll { seed := seed' } requests').1 := by
  refine disjoint_serveAll fun r _ r' _ front front' asked asked' same => ?_
  rcases cut_cases same with seeds | ⟨rest, longer, front_eq⟩ | ⟨rest, longer, front_eq⟩
  · exact different (String.toList_inj.mp seeds)
  · exact outside (endsInSeed_of_fronts asked longer front_eq)
  · exact outside' (endsInSeed_of_fronts asked' longer front_eq)

/-- Two sources with different seeds hand out no id in common for nodes. -/
theorem disjoint_serveAll_of_nodes (different : seed ≠ seed')
    (nodes : ∀ name, .pageId name ∉ requests) (nodes' : ∀ name, .pageId name ∉ requests') :
    (IdSource.serveAll { seed := seed } requests).1.Disjoint
      (IdSource.serveAll { seed := seed' } requests').1 := by
  refine disjoint_serveAll fun r mem r' mem' front front' asked asked' same => ?_
  obtain ⟨kind, rfl⟩ := exists_kind_of_front? nodes mem asked
  obtain ⟨kind', rfl⟩ := exists_kind_of_front? nodes' mem' asked'
  rcases cut_cases same with seeds | ⟨rest, -, longer⟩ | ⟨rest, -, longer⟩
  · exact different (String.toList_inj.mp seeds)
  · refine not_prefix_slug kind' kind ⟨rest, ?_⟩
    rw [longer, List.append_assoc, List.singleton_append]
  · refine not_prefix_slug kind kind' ⟨rest, ?_⟩
    rw [longer, List.append_assoc, List.singleton_append]

/-! ## Main results -/

/-- Two sources with different seeds never hand out the same id exactly if neither seed ends in the
other one. For nodes alone they never do, and no sources do whose seeds are checksums. -/
theorem serveAll_disjoint_iff (different : seed ≠ seed') :
    let ids : IdSource := { seed := seed }
    let ids' : IdSource := { seed := seed' }
    ((∀ requests requests', (ids.serveAll requests).1.Disjoint (ids'.serveAll requests').1) ↔
        ¬ EndsInSeed seed seed' ∧ ¬ EndsInSeed seed' seed) ∧
      (∀ requests requests', (∀ name, .pageId name ∉ requests) →
        (∀ name, .pageId name ∉ requests') →
        (ids.serveAll requests).1.Disjoint (ids'.serveAll requests').1) ∧
      ∀ text text', ids = .ofText text → ids' = .ofText text' →
        ∀ requests requests', (ids.serveAll requests).1.Disjoint (ids'.serveAll requests').1 := by
  intro ids ids'
  refine ⟨⟨fun disjoint => ⟨fun tail => ?_, fun tail => ?_⟩, fun outside requests requests' => ?_⟩,
    fun requests requests' nodes nodes' => ?_,
    fun text text' hashed hashed' requests requests' => ?_⟩
  · obtain ⟨name, name', id, mem, mem'⟩ := exists_common_id_of_endsInSeed tail
    exact disjoint [.pageId name] [.pageId name'] mem mem'
  · obtain ⟨name, name', id, mem, mem'⟩ := exists_common_id_of_endsInSeed tail
    exact disjoint [.pageId name'] [.pageId name] mem' mem
  · exact disjoint_serveAll_of_not_endsInSeed different outside.1 outside.2
  · exact disjoint_serveAll_of_nodes different nodes nodes'
  · have seed_eq : seed = Text.checksumHex text := congrArg IdSource.seed hashed
    have seed_eq' : seed' = Text.checksumHex text' := congrArg IdSource.seed hashed'
    refine disjoint_serveAll_of_not_endsInSeed different ?_ ?_
    · exact seed_eq' ▸ not_endsInSeed_checksumHex seed text'
    · exact seed_eq ▸ not_endsInSeed_checksumHex seed' text

/-- A capital letter in front of the hyphen stands in no slug, so it tells the seeds apart. -/
theorem serveAll_disjoint_iff_capital :
    "s" ≠ "X-s" ∧ ∀ requests requests',
      (IdSource.serveAll { seed := "s" } requests).1.Disjoint
        (IdSource.serveAll { seed := "X-s" } requests').1 := by
  have different : "s" ≠ "X-s" := by decide
  have outside : ¬ EndsInSeed "s" "X-s" := by
    rintro ⟨rest, fit, longer⟩
    have longer : ['X'] ++ ['-', 's'] = rest ++ ['-', 's'] := longer
    have capital : ['X'] = rest := List.append_cancel_right longer
    have lower := fit 'X' (capital ▸ List.mem_singleton_self _)
    exact absurd lower (by decide)
  have outside' : ¬ EndsInSeed "X-s" "s" := by
    rintro ⟨rest, -, longer⟩
    have lengths := congrArg List.length longer
    have long : "X-s".toList.length = 3 := rfl
    have short : "s".toList.length = 1 := rfl
    simp only [List.length_append, List.length_cons] at lengths
    omega
  exact ⟨different, (serveAll_disjoint_iff different).1.mpr ⟨outside, outside'⟩⟩

/-- Two new sources with different seeds that hand out the same id. -/
theorem exists_common_id :
    let ids : IdSource := { seed := "s" }
    let ids' : IdSource := { seed := "x-s" }
    ids.seed ≠ ids'.seed ∧ (ids.serveAll [.pageId "A X"]).1 = ["a-x-s-1"] ∧
      (ids'.serveAll [.pageId "A"]).1 = ["a-x-s-1"] := by
  decide

end PageStudio.IdSource
