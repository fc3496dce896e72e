import PageStudio.Json.Source
import PageStudio.Proofs.Json.Token

/-!
# Written values are parsed back

The text of a value is parsed to the tree of the value, in which the arrays and objects are marked
that stand too deep (`within`). Where none does, it is the tree that readers take for the value.

## Main statements

* `parse_pretty`: the tree of the text of a value.
* `within_eq_toSource`: a value that is nested no deeper than a text may be has no marks.
-/

namespace PageStudio.Json

open Source

mutual
/-- The tree of a value in a text, where some levels are left for arrays and objects. -/
def within (levels : Nat) : Json → Source
  | .array items => enclosed levels (.array (itemsWithin (levels - 1) items))
  | .object members => enclosed levels (.object (membersWithin (levels - 1) members))
  | .null => .null
  | .bool b => .bool b
  | .number n => .number (some n)
  | .string s => .string (some s)

/-- Items as trees. -/
def itemsWithin (levels : Nat) : List Json → List Source
  | [] => []
  | v :: rest => within levels v :: itemsWithin levels rest

/-- Members with their values as trees. -/
def membersWithin (levels : Nat) : List (String × Json) → List (Option String × Source)
  | [] => []
  | (k, v) :: rest => (some k, within levels v) :: membersWithin levels rest
end

/-! ## Parsing -/

/-- No value begins with a bracket that closes. -/
theorem head?_valueTokens (v : Json) (ts : List Token) :
    (valueTokens v ++ ts).head? ≠ some .closeArray := by
  cases v <;> simp [valueTokens]

theorem parseValue_openArray {ts : List Token} (nonempty : ts.head? ≠ some .closeArray)
    (fuel levels : Nat) :
    parseValue (fuel + 1) levels (.openArray :: ts) =
      (enclosed levels (.array (parseItems fuel (levels - 1) ts).1),
        (parseItems fuel (levels - 1) ts).2) := by
  cases ts with
  | nil => rfl
  | cons t ts =>
    cases t with
    | closeArray => exact absurd rfl nonempty
    | _ => rfl

/-- Items are parsed one by one: behind each comes the closing bracket or a comma. -/
theorem parseItems_last {fuel levels : Nat} {ts rest : List Token} {v : Source}
    (value : parseValue fuel levels ts = (v, .closeArray :: rest)) :
    parseItems (fuel + 1) levels ts = ([v], rest) := by
  simp only [parseItems, value]

theorem parseItems_comma {fuel levels : Nat} {ts us rest : List Token} {v : Source}
    {items : List Source} (value : parseValue fuel levels ts = (v, .comma :: us))
    (others : parseItems fuel levels us = (items, rest)) :
    parseItems (fuel + 1) levels ts = (v :: items, rest) := by
  simp only [parseItems, value, others]

/-- So are members, each with its name in front. -/
theorem parseMembers_last {fuel levels : Nat} {ts rest : List Token} {k : Option String}
    {v : Source} (value : parseValue fuel levels ts = (v, .closeObject :: rest)) :
    parseMembers (fuel + 1) levels (.string k :: .colon :: ts) = ([(k, v)], rest) := by
  simp only [parseMembers, value]

theorem parseMembers_comma {fuel levels : Nat} {ts us rest : List Token} {k : Option String}
    {v : Source} {members : List (Option String × Source)}
    (value : parseValue fuel levels ts = (v, .comma :: us))
    (others : parseMembers fuel levels us = (members, rest)) :
    parseMembers (fuel + 1) levels (.string k :: .colon :: ts) = ((k, v) :: members, rest) := by
  simp only [parseMembers, value, others]

mutual
/-- A value is parsed from its tokens, and what follows them is left. -/
theorem parseValue_tokens : (v : Json) → (fuel : Nat) → 2 * (valueTokens v).length ≤ fuel →
    (levels : Nat) → (rest : List Token) →
    parseValue fuel levels (valueTokens v ++ rest) = (v.within levels, rest)
  | .null, fuel + 1, _, _, _ => rfl
  | .bool b, fuel + 1, _, _, _ => rfl
  | .number n, fuel + 1, _, _, _ => rfl
  | .string s, fuel + 1, _, _, _ => rfl
  | .array items, fuel + 1, enough, levels, rest => by
    simp only [valueTokens, List.length_cons, List.length_append, List.length_nil] at enough
    have inner := parseItems_tokens items fuel
    cases items with
    | nil => rfl
    | cons v more =>
      have inner := inner (List.cons_ne_nil v more) (by omega) (levels - 1) rest
      have start : (itemsTokens true (v :: more) ++ .closeArray :: rest).head? ≠
          some .closeArray := by
        simp only [itemsTokens, if_true, List.nil_append, List.append_assoc]
        exact head?_valueTokens v _
      have tokens : valueTokens (.array (v :: more)) ++ rest =
          .openArray :: (itemsTokens true (v :: more) ++ .closeArray :: rest) := by
        simp only [valueTokens, List.cons_append, List.append_assoc, List.nil_append]
      rw [tokens, parseValue_openArray start, inner]
      rfl
  | .object members, fuel + 1, enough, levels, rest => by
    simp only [valueTokens, List.length_cons, List.length_append, List.length_nil] at enough
    have inner := parseMembers_tokens members fuel
    cases members with
    | nil => rfl
    | cons m more =>
      have inner := inner (List.cons_ne_nil m more) (by omega) (levels - 1) rest
      have tokens : valueTokens (.object (m :: more)) ++ rest =
          .openObject :: (membersTokens true (m :: more) ++ .closeObject :: rest) := by
        simp only [valueTokens, List.cons_append, List.append_assoc, List.nil_append]
      -- The tokens of members begin with a name, so the object is not taken for an empty one.
      have parsed : parseValue (fuel + 1) levels
          (.openObject :: (membersTokens true (m :: more) ++ .closeObject :: rest)) =
          (enclosed levels (.object
            (parseMembers fuel (levels - 1)
              (membersTokens true (m :: more) ++ .closeObject :: rest)).1),
            (parseMembers fuel (levels - 1)
              (membersTokens true (m :: more) ++ .closeObject :: rest)).2) := rfl
      rw [tokens, parsed, inner]
      rfl

theorem parseItems_tokens : (items : List Json) → (fuel : Nat) → items ≠ [] →
    2 * (itemsTokens true items).length + 1 ≤ fuel → (levels : Nat) → (rest : List Token) →
    parseItems fuel levels (itemsTokens true items ++ .closeArray :: rest) =
      (itemsWithin levels items, rest)
  | v :: more, fuel + 1, _, enough, levels, rest => by
    simp only [itemsTokens, if_true, List.nil_append, List.length_append] at enough ⊢
    have value := parseValue_tokens v fuel (by omega) levels
    have others := parseItems_tokens more fuel
    rw [List.append_assoc]
    cases more with
    | nil => exact parseItems_last (value (.closeArray :: rest))
    | cons w more =>
      simp only [itemsTokens, Bool.false_eq_true, if_false, List.length_append, List.length_cons,
        List.length_nil] at enough
      have others := others (List.cons_ne_nil w more) (by
        simp only [itemsTokens, if_true, List.nil_append, List.length_append]
        omega) levels rest
      exact parseItems_comma (value _) others

theorem parseMembers_tokens : (members : List (String × Json)) → (fuel : Nat) → members ≠ [] →
    2 * (membersTokens true members).length + 1 ≤ fuel → (levels : Nat) → (rest : List Token) →
    parseMembers fuel levels (membersTokens true members ++ .closeObject :: rest) =
      (membersWithin levels members, rest)
  | (k, v) :: more, fuel + 1, _, enough, levels, rest => by
    simp only [membersTokens, if_true, List.nil_append, List.length_append,
      List.length_cons] at enough ⊢
    have value := parseValue_tokens v fuel (by omega) levels
    have others := parseMembers_tokens more fuel
    rw [List.cons_append, List.cons_append, List.append_assoc]
    cases more with
    | nil => exact parseMembers_last (value (.closeObject :: rest))
    | cons m more =>
      simp only [membersTokens, Bool.false_eq_true, if_false, List.length_append, List.length_cons,
        List.length_nil] at enough
      have others := others (List.cons_ne_nil m more) (by
        simp only [membersTokens, if_true, List.nil_append, List.length_append, List.length_cons]
        omega) levels rest
      exact parseMembers_comma (value _) others
end

/-- The tree of the text of a value. Nothing follows it. -/
theorem parse_pretty {v : Json} (legible : v.Legible) :
    parse v.pretty = (v.within textLevels, false) := by
  have parsed := parseValue_tokens v (2 * (valueTokens v).length + 1) (by omega)
    textLevels []
  rw [List.append_nil] at parsed
  unfold parse
  rw [tokens_pretty legible]
  simp only [parsed]
  rfl

/-! ## Heights -/

mutual
/-- A value that is not nested too deep has no marks. -/
theorem within_eq_toSource : (v : Json) → {levels : Nat} → v.height ≤ levels →
    v.within levels = v.toSource
  | .null, _, _ | .bool _, _, _ | .number _, _, _ | .string _, _, _ => rfl
  | .array items, levels + 1, low => by
    rw [within, Nat.add_sub_cancel, itemsWithin_eq items (Nat.le_of_succ_le_succ low)]
    rfl
  | .object members, levels + 1, low => by
    rw [within, Nat.add_sub_cancel, membersWithin_eq members (Nat.le_of_succ_le_succ low)]
    rfl

theorem itemsWithin_eq : (items : List Json) → {levels : Nat} → itemsHeight items ≤ levels →
    itemsWithin levels items = itemsToSource items
  | [], _, _ => rfl
  | v :: rest, _, low => by
    rw [itemsWithin, within_eq_toSource v (Nat.le_trans (Nat.le_max_left _ _) low),
      itemsWithin_eq rest (Nat.le_trans (Nat.le_max_right _ _) low), itemsToSource]

theorem membersWithin_eq : (members : List (String × Json)) → {levels : Nat} →
    membersHeight members ≤ levels → membersWithin levels members = membersToSource members
  | [], _, _ => rfl
  | (k, v) :: rest, _, low => by
    rw [membersWithin, within_eq_toSource v (Nat.le_trans (Nat.le_max_left _ _) low),
      membersWithin_eq rest (Nat.le_trans (Nat.le_max_right _ _) low), membersToSource]
end

end PageStudio.Json
