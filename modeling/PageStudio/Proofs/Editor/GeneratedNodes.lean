import PageStudio.Editor.Generated
import PageStudio.Proofs.Json.Inversion
import PageStudio.Proofs.Node.Moved

/-!
# The nodes of a generated layout

A generated text is an array of drafts, or it is refused as a whole. Its nodes stand where their
drafts do and are what these describe (`DraftOf`), but for the ids: those count on from the source,
each node before its children, whatever ids the drafts have.

The reader goes as deep as the text is nested, which is deep enough for every draft
(`exists_readWithin`).

## Main statements

* `parse_cases`: every array of drafts is read, and nothing else is.
* `layout_numbered`: the nodes of a layout, their ids, and the source of ids behind them.
-/

namespace PageStudio

open Json Style

namespace Generated

open Node

/-! ## Drafts -/

/-- The name of a node: the one that its draft gives, and that of its kind where it gives none. -/
inductive Names (fields : Fields) (kind : Kind) : String → Prop
  | given {name : String} (field : fields.get? "name" = some (.string (some name))) :
    Names fields kind name
  | null (field : fields.get? "name" = some .null) : Names fields kind kind.name
  | missing (field : fields.get? "name" = none) : Names fields kind kind.name

/-- An element is what the fields of a draft say. Its id is none of them. -/
structure Describes (fields : Fields) (e : Element) : Prop where
  kind : fields.required "type" Kind.read = some e.kind
  name : Names fields e.kind e.name
  styles : fields.withDefault "stylesByViewport" (Reader.table Appearance.read) ∅ = some e.styles
  content : fields.withDefault "content" Content.read {} = some e.content
  link : fields.optional "linkUrl" Link.read = some e.link
  events : fields.withDefault "events" (Reader.table Reader.text) ∅ = some e.events

theorem Describes.withId {fields : Fields} {e : Element} (described : Describes fields e)
    (id : String) : Describes fields { e with id } :=
  ⟨described.kind, described.name, described.styles, described.content, described.link,
    described.events⟩

/-- The drafts inside a draft. -/
inductive Encloses (fields : Fields) : List Source → Prop
  | array {items : List Source} (field : fields.get? "children" = some (.array items)) :
    Encloses fields items
  | missing (field : fields.get? "children" = none) : Encloses fields []

mutual
/-- A node is made from a draft: it is what the draft says, and so are the nodes inside. -/
def DraftOf : Source → Node → Prop
  | v, .mk e children => ∃ fields items, Fields.read? fieldNames v = some fields ∧
      Describes fields e ∧ Encloses fields items ∧ ForestDraftOf items children

/-- The nodes of a forest are made from drafts, one from each. -/
def ForestDraftOf : List Source → List Node → Prop
  | [], [] => True
  | v :: items, n :: rest => DraftOf v n ∧ ForestDraftOf items rest
  | _, _ => False
end

theorem names_iff {fields : Fields} {kind : Kind} {name : String} : Names fields kind name ↔
    ∃ given, fields.optional "name" Reader.text = some given ∧ given.getD kind.name = name := by
  unfold Fields.optional Fields.withDefault
  constructor
  · rintro (field | field | field) <;> rw [field]
    · exact ⟨some name, rfl, rfl⟩
    · exact ⟨none, rfl, rfl⟩
    · exact ⟨none, rfl, rfl⟩
  · rintro ⟨given, read, rfl⟩
    split at read
    next field =>
      cases read
      exact .missing field
    next v field =>
      cases v with
      | null =>
        cases read
        exact .null field
      | string s =>
        cases s with
        | some s =>
          cases read
          exact .given field
        | none => cases read
      | _ => cases read

/-! ## Reading drafts -/

/-- A node is read from a record that describes it, where its children are read. It has no id. -/
theorem readWith_eq_some_iff {readChildren : Reader (List Node)} {v : Source} {n : Node} :
    readWith readChildren v = some n ↔ ∃ fields e children,
      Fields.read? fieldNames v = some fields ∧ Describes fields e ∧ e.id = "" ∧
        fields.withDefault "children" readChildren [] = some children ∧ n = .mk e children := by
  constructor
  · intro read
    obtain ⟨fields, found, read⟩ := exists_of_bind_eq_some read
    obtain ⟨kind, kindRead, read⟩ := exists_of_bind_eq_some read
    obtain ⟨name, nameRead, read⟩ := exists_of_bind_eq_some read
    obtain ⟨styles, stylesRead, read⟩ := exists_of_bind_eq_some read
    obtain ⟨content, contentRead, read⟩ := exists_of_bind_eq_some read
    obtain ⟨children, childrenRead, read⟩ := exists_of_bind_eq_some read
    obtain ⟨link, linkRead, read⟩ := exists_of_bind_eq_some read
    obtain ⟨events, eventsRead, read⟩ := exists_of_bind_eq_some read
    cases read
    exact ⟨fields, _, children, found, ⟨kindRead, names_iff.mpr ⟨name, nameRead, rfl⟩, stylesRead,
      contentRead, linkRead, eventsRead⟩, rfl, childrenRead, rfl⟩
  · rintro ⟨fields, e, children, found, described, no_id, childrenRead, rfl⟩
    obtain ⟨name, nameRead, named⟩ := names_iff.mp described.name
    refine bind_eq_some found (bind_eq_some described.kind (bind_eq_some nameRead ?_))
    refine bind_eq_some described.styles (bind_eq_some described.content ?_)
    refine bind_eq_some childrenRead (bind_eq_some described.link ?_)
    refine bind_eq_some described.events ?_
    rw [named, ← no_id]
    rfl

theorem forestDraftOf_of_mapM {read : Reader Node}
    (each : ∀ v n, read v = some n → DraftOf v n) {items : List Source} {forest : List Node}
    (all : items.mapM read = some forest) : ForestDraftOf items forest := by
  induction items generalizing forest with
  | nil =>
    cases all
    trivial
  | cons v items ih =>
    rw [List.mapM_cons] at all
    obtain ⟨n, first, all⟩ := exists_of_bind_eq_some all
    obtain ⟨rest, others, same⟩ := exists_of_bind_eq_some all
    cases same
    exact ⟨each v n first, ih others⟩

/-- What is read was made from a draft where the children were. -/
theorem draftOf_of_readWith {readChildren : Reader (List Node)}
    (inner : ∀ w forest, readChildren w = some forest →
      ∃ items, w = .array items ∧ ForestDraftOf items forest)
    {v : Source} {n : Node} (read : readWith readChildren v = some n) : DraftOf v n := by
  obtain ⟨fields, e, children, found, described, -, inside, rfl⟩ := readWith_eq_some_iff.mp read
  unfold Fields.withDefault at inside
  split at inside
  next field =>
    cases inside
    exact ⟨fields, [], found, described, .missing field, trivial⟩
  next w field =>
    obtain ⟨items, rfl, below⟩ := inner w children inside
    exact ⟨fields, items, found, described, .array field, below⟩

/-- Every node that is read was made from a draft. -/
theorem draftOf_of_readWithin (levels : Nat) {v : Source} {n : Node}
    (read : readWithin levels v = some n) : DraftOf v n := by
  induction levels generalizing v n with
  | zero => exact draftOf_of_readWith (fun w forest none_read => by cases none_read) read
  | succ levels ih =>
    refine draftOf_of_readWith (fun w forest inside => ?_) read
    cases w with
    | array items => exact ⟨items, rfl, forestDraftOf_of_mapM (fun _ _ => ih) inside⟩
    | _ => cases inside

theorem ForestDraftOf.exists_of_mem {items : List Source} {forest : List Node}
    (drafts : ForestDraftOf items forest) {v : Source} (mem : v ∈ items) : ∃ n, DraftOf v n := by
  induction items generalizing forest with
  | nil => cases mem
  | cons w items ih =>
    cases forest with
    | nil => exact drafts.elim
    | cons n rest =>
      rcases List.mem_cons.mp mem with rfl | there
      · exact ⟨n, drafts.1⟩
      · exact ih drafts.2 there

/-- A draft is read where the drafts inside are. -/
theorem exists_readWith {readChildren : Reader (List Node)} {v : Source} {n : Node}
    (draft : DraftOf v n)
    (inner : ∀ fields items forest, Fields.read? fieldNames v = some fields →
      fields.get? "children" = some (.array items) → ForestDraftOf items forest →
        ∃ children, readChildren (.array items) = some children) :
    ∃ m, readWith readChildren v = some m := by
  obtain ⟨e, children⟩ := n
  obtain ⟨fields, items, found, described, inside, below⟩ := draft
  cases inside with
  | array field =>
    obtain ⟨read, all⟩ := inner fields items children found field below
    have children_read : fields.withDefault "children" readChildren [] = some read := by
      rw [Fields.withDefault, field]
      exact all
    exact ⟨_, readWith_eq_some_iff.mpr
      ⟨_, _, _, found, described.withId "", rfl, children_read, rfl⟩⟩
  | missing field =>
    have none_inside : fields.withDefault "children" readChildren [] = some [] := by
      rw [Fields.withDefault, field]
    exact ⟨_, readWith_eq_some_iff.mpr ⟨_, _, _, found, described.withId "", rfl, none_inside, rfl⟩⟩

/-- A draft that is no higher than there are levels is read. -/
theorem exists_readWithin {levels : Nat} {v : Source} {n : Node} (deep : v.height ≤ levels)
    (draft : DraftOf v n) : ∃ m, readWithin levels v = some m := by
  induction levels generalizing v n with
  | zero =>
    refine exists_readWith draft fun fields items forest found field below => ?_
    have := Fields.height_lt found field
    omega
  | succ levels ih =>
    refine exists_readWith draft fun fields items forest found field below => ?_
    have lower : Source.itemsHeight items + 1 < v.height := Fields.height_lt found field
    refine exists_mapM_eq_some fun w mem => ?_
    obtain ⟨m, inner⟩ := below.exists_of_mem mem
    have := Source.height_le_itemsHeight mem
    exact ih (by omega) inner

/-! ## Reading a text -/

/-- What stands in the array of a generated text. None where it is no array. -/
def drafts? (response : String) : Option (List Source) :=
  match Source.parse (String.ofList (content response.toList)) with
  | (_, true) => none
  | (v, false) =>
    match v.generic? with
    | some (.array items) => some (items.map Json.toSource)
    | _ => none

theorem readForest_toSource (items : List Json) : readForest (Json.array items).toSource =
    (items.map Json.toSource).mapM fun v => readWithin v.height v :=
  congrArg (List.mapM fun v : Source => readWithin v.height v) (itemsToSource_eq items)

/-- Every draft is read as deep as it is nested. -/
theorem parse_eq_ok_iff {response : String} {nodes : List Node} : parse response = .ok nodes ↔
    ∃ drafts, drafts? response = some drafts ∧
      drafts.mapM (fun v => readWithin v.height v) = some nodes := by
  unfold parse drafts?
  generalize Source.parse (String.ofList (content response.toList)) = parsed
  obtain ⟨v, failed⟩ := parsed
  cases failed with
  | true => exact ⟨nofun, nofun⟩
  | false =>
    dsimp only
    cases v.generic? with
    | none => exact ⟨nofun, nofun⟩
    | some g =>
      cases g with
      | array items =>
        simp only [readForest_toSource, Option.some.injEq, exists_eq_left']
        split
        next read all => rw [all, Option.some.injEq, Except.ok.injEq]
        next refused =>
          rw [refused]
          exact ⟨nofun, nofun⟩
      | _ => exact ⟨nofun, nofun⟩

/-- A text is read where it is an array of drafts, and what is read was made from these. -/
theorem parse_cases (response : String) :
    (∃ e, parse response = .error e ∧
      ∀ drafts nodes, drafts? response = some drafts → ¬ ForestDraftOf drafts nodes) ∨
    ∃ drafts nodes, parse response = .ok nodes ∧
      drafts? response = some drafts ∧ ForestDraftOf drafts nodes := by
  cases parsed : parse response with
  | ok nodes =>
    obtain ⟨drafts, found, read⟩ := parse_eq_ok_iff.mp parsed
    exact .inr ⟨drafts, nodes, rfl, found,
      forestDraftOf_of_mapM (fun v _ => draftOf_of_readWithin v.height) read⟩
  | error e =>
    refine .inl ⟨e, rfl, fun drafts nodes found made => ?_⟩
    obtain ⟨read, all⟩ := exists_mapM_eq_some fun v mem =>
      let ⟨_, draft⟩ := made.exists_of_mem mem
      exists_readWithin (Nat.le_refl v.height) draft
    have accepted := parse_eq_ok_iff.mpr ⟨drafts, found, all⟩
    rw [parsed] at accepted
    cases accepted

/-! ## Numbering -/

mutual
/-- A node with new ids is still what its draft says. -/
theorem draftOf_numbered (ids : IdSource) : {v : Source} → {n : Node} → DraftOf v n →
    DraftOf v (numbered ids n).1
  | _, .mk e _, ⟨fields, items, found, described, inside, below⟩ =>
    ⟨fields, items, found, described.withId _, inside,
      forestDraftOf_forestNumbered (ids.nodeId e.kind).2 below⟩

theorem forestDraftOf_forestNumbered (ids : IdSource) : {items : List Source} →
    {forest : List Node} → ForestDraftOf items forest →
      ForestDraftOf items (forestNumbered ids forest).1
  | [], [], _ => trivial
  | _ :: _, n :: _, ⟨first, others⟩ =>
    ⟨draftOf_numbered ids first, forestDraftOf_forestNumbered (numbered ids n).2 others⟩
end

mutual
/-- The new ids are those that are handed out for the kinds of the nodes in reading order. -/
theorem serveAll_numbered (ids : IdSource) : (n : Node) →
    ids.serveAll (idRequests (numbered ids n).1.withDescendants) =
      ((numbered ids n).1.subtreeIds, (numbered ids n).2)
  | .mk e children => by
    show IdSource.serveAll ids (.nodeId e.kind ::
      idRequests (forestNodes (forestNumbered (ids.nodeId e.kind).2 children).1)) = _
    rw [IdSource.serveAll, IdSource.serve, serveAll_forestNumbered (ids.nodeId e.kind).2 children]
    rfl

theorem serveAll_forestNumbered (ids : IdSource) : (forest : List Node) →
    ids.serveAll (idRequests (forestNodes (forestNumbered ids forest).1)) =
      (forestIds (forestNumbered ids forest).1, (forestNumbered ids forest).2)
  | [] => rfl
  | n :: rest => by
    show ids.serveAll (idRequests ((numbered ids n).1.withDescendants ++
      forestNodes (forestNumbered (numbered ids n).2 rest).1)) = _
    rw [idRequests_append, IdSource.serveAll_append, serveAll_numbered ids n,
      serveAll_forestNumbered (numbered ids n).2 rest]
    rfl
end

/-- A generated text is an array of drafts, or it is refused and takes no id. The layout of an array
has a node for every draft, at its place, which is what the draft says. The ids of the nodes, each
node before its children, are numbered on from the count of the source without a gap, and the count
behind them is the number of the last one, which is to be one of 64 bits. -/
theorem layout_numbered (response : String) (ids : IdSource) :
    (∃ e, layout response ids = (.error e, ids) ∧
      ∀ drafts nodes, drafts? response = some drafts → ¬ ForestDraftOf drafts nodes) ∨
    ∃ drafts nodes, drafts? response = some drafts ∧ ForestDraftOf drafts nodes ∧
      layout response ids =
        (.ok nodes, { ids with count := ids.count + (forestNodes nodes).length }) ∧
      forestIds nodes = (forestNodes nodes).mapIdx (fun i n =>
        n.kind.slug ++ "-" ++ ids.seed ++ "-" ++
          String.ofList (Nat.toDigits 10 (ids.count + 1 + i))) := by
  rcases parse_cases response with ⟨e, parsed, refused⟩ | ⟨drafts, bare, parsed, found, made⟩
  · refine .inl ⟨e, ?_, refused⟩
    unfold layout
    rw [parsed]
  · have served := serveAll_forestNumbered ids bare
    rw [serveAll_idRequests] at served
    obtain ⟨inOrder, behind⟩ := Prod.mk.inj served
    refine .inr ⟨drafts, (forestNumbered ids bare).1, found, forestDraftOf_forestNumbered ids made,
      ?_, inOrder.symm⟩
    unfold layout
    rw [parsed, behind]

-- A child is numbered before the next root, and the id that a draft claims does not count.
example : (layout ("[\x7b\"type\":\"Container\",\"children\":" ++
    "[\x7b\"id\":\"x\",\"type\":\"Button\"\x7d]\x7d,\x7b\"type\":\"Text\"\x7d]")
      ⟨"ai", 4⟩).1.toOption.map forestIds =
    some ["container-ai-5", "button-ai-6", "text-ai-7"] := by decide +kernel

end Generated

end PageStudio
