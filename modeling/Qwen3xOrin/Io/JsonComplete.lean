import Mathlib.Data.List.DropRight
import Qwen3xOrin.Io.JsonNumbers
import Qwen3xOrin.Io.JsonStrings

/-! The parser accepts every text of the grammar, with the value that it denotes. -/

namespace Qwen3xOrin.Io.Json

open Library

variable {limits : Limits}

-- What stands behind a value inside of a document.
def Follow (rest : Text) : Prop :=
  ∀ byte ∈ rest.head?, isJsonWhitespace byte = true ∨ byte = 44 ∨ byte = 93 ∨ byte = 125

lemma Follow.stops {rest : Text} (h : Follow rest) : Stops rest := by
  intro byte hbyte
  obtain hblank | rfl | rfl | rfl := h byte hbyte
  · simp only [isJsonWhitespace, decide_eq_true_eq] at hblank
    obtain rfl | rfl | rfl | rfl := hblank <;> decide
  · decide
  · decide
  · decide

lemma follow_blank {blank rest : Text} (hblank : Whitespace blank) (hrest : Follow rest) :
    Follow (blank ++ rest) := by
  intro byte hbyte
  obtain hbyte | hbyte := head_append hbyte
  · exact Or.inl (hblank byte (List.mem_of_mem_head? hbyte))
  · exact hrest byte hbyte

lemma skipWhitespace_blank {blank : Text} (h : Whitespace blank) (rest : Text) :
    skipWhitespace (blank ++ rest) = skipWhitespace rest :=
  List.dropWhile_append_of_pos h

lemma skipWhitespace_cons {byte : UInt8} (h : isJsonWhitespace byte = false) (tail : Text) :
    skipWhitespace (byte :: tail) = byte :: tail :=
  List.dropWhile_cons_of_neg (by simp [h])

lemma skipWhitespace_length (text : Text) : (skipWhitespace text).length ≤ text.length :=
  List.length_dropWhile_le _ _

lemma integer_head {integer : Text} (h : IntegerText integer) :
    ∃ byte tail, integer = byte :: tail ∧ isDecimalDigit byte = true := by
  obtain rfl | ⟨⟨first, hfirst, -⟩, hdigits⟩ := h
  · exact ⟨48, [], rfl, by decide⟩
  · cases integer with
    | nil => cases hfirst
    | cons byte tail => exact ⟨byte, tail, rfl, hdigits.2 byte (by simp)⟩

lemma number_head {text : Text} (h : NumberText text) :
    ∃ byte tail, text = byte :: tail ∧ (byte = 45 ∨ isDecimalDigit byte = true) := by
  obtain ⟨sign, integer, fraction, exponent, hsign, hinteger, -, -, rfl⟩ := h
  obtain rfl | rfl := hsign
  · obtain ⟨byte, tail, rfl, hbyte⟩ := integer_head hinteger
    exact ⟨byte, _, rfl, Or.inr hbyte⟩
  · exact ⟨45, _, rfl, Or.inl rfl⟩

lemma value_head {depth values items : ℕ} {text : Text} {value : Value}
    (h : Denotes depth values items text (.value value)) :
    ∃ byte tail, text = byte :: tail ∧ isJsonWhitespace byte = false ∧ byte ≠ 93 := by
  cases h with
  | number htext =>
    obtain ⟨byte, tail, rfl, hbyte⟩ := number_head htext
    refine ⟨byte, tail, rfl, ?_⟩
    obtain rfl | hbyte := hbyte
    · decide
    · rw [isDecimalDigit_iff] at hbyte
      rw [← Bool.not_eq_true]
      simp only [isJsonWhitespace, decide_eq_true_eq, ne_eq, ← UInt8.toNat_inj, UInt8.reduceToNat]
      omega
  | _ => exact ⟨_, _, rfl, by decide, by decide⟩

lemma lookup_emplace_ne {key other : Text} (h : other ≠ key) (value : Value)
    (members : List (Text × Value)) :
    (emplace key value members).lookup other = members.lookup other := by
  induction members with
  | nil => rw [emplace, List.lookup_cons, beq_eq_false_iff_ne.mpr h]
  | cons member members ih =>
    obtain ⟨held, heldValue⟩ := member
    rw [emplace]
    split_ifs
    · rw [List.lookup_cons, beq_eq_false_iff_ne.mpr h]
    · rw [List.lookup_cons, List.lookup_cons, ih]

section Parts

variable {cursor : Cursor} {rest : Text}

lemma consumeValue_ok {values items : ℕ} (h : values < limits.maxValues) :
    consumeValue limits ⟨rest, values, items⟩ = .ok ⟨rest, values + 1, items⟩ :=
  if_neg (Nat.not_le.mpr h)

lemma consumeContainerItem_ok {values items : ℕ} (h : items < limits.maxContainerItems) :
    consumeContainerItem limits ⟨rest, values, items⟩ = .ok ⟨rest, values, items + 1⟩ :=
  if_neg (Nat.not_le.mpr h)

lemma parseSeparator_closed {closing : UInt8} (h : skipWhitespace cursor.rest = closing :: rest) :
    parseSeparator limits closing cursor = .ok (true, { cursor with rest := rest }) := by
  rw [parseSeparator, h]
  exact if_pos rfl

lemma parseSeparator_comma {closing : UInt8} (hclosing : (44 : UInt8) ≠ closing)
    (h : skipWhitespace cursor.rest = 44 :: rest) :
    parseSeparator limits closing cursor = .ok (false, { cursor with rest := rest }) := by
  rw [parseSeparator, h]
  dsimp only
  rw [if_neg hclosing, if_neg (by simp)]

lemma parseKey_ok {values : List (Text × Value)} {key decoded middle : Text}
    (h : skipWhitespace cursor.rest = 34 :: (key ++ 34 :: (middle ++ 58 :: rest)))
    (hkey : StringText key decoded) (hmiddle : Whitespace middle)
    (hfresh : values.lookup decoded = none)
    (hitems : cursor.containerItemCount < limits.maxContainerItems) :
    parseKey limits values cursor = .ok (decoded,
      { cursor with rest := rest, containerItemCount := cursor.containerItemCount + 1 }) := by
  rw [parseKey, h]
  dsimp only
  rw [if_neg (by simp), consumeContainerItem_ok hitems, ok_bind]
  dsimp only
  rw [parseString_complete hkey, ok_bind]
  dsimp only
  rw [hfresh, if_neg (by simp), skipWhitespace_blank hmiddle, skipWhitespace_cons (by decide)]
  dsimp only
  rw [if_neg (by simp)]

end Parts

section Values

-- What the parser does with a text of the grammar that stands at the cursor.
def Reads (limits : Limits) (depth values items : ℕ) (text : Text) : Construct → Prop
  | .value value => ∀ fuel outer (cursor : Cursor) rest,
    skipWhitespace cursor.rest = text ++ rest → Follow rest → 2 * cursor.rest.length ≤ fuel →
    outer + depth ≤ limits.maxDepth → cursor.valueCount + values ≤ limits.maxValues →
    cursor.containerItemCount + items ≤ limits.maxContainerItems →
    parseValue limits fuel outer cursor = .ok (value,
      ⟨rest, cursor.valueCount + values, cursor.containerItemCount + items⟩)
  | .elements elements => ∀ fuel outer (cursor : Cursor) rest,
    skipWhitespace cursor.rest = skipWhitespace (text ++ 93 :: rest) →
    2 * cursor.rest.length + 1 ≤ fuel →
    outer + depth ≤ limits.maxDepth → cursor.valueCount + values ≤ limits.maxValues →
    cursor.containerItemCount + items ≤ limits.maxContainerItems →
    parseElements limits fuel outer cursor = .ok (elements,
      ⟨rest, cursor.valueCount + values, cursor.containerItemCount + items⟩)
  | .members members => ∀ fuel outer held (cursor : Cursor) rest,
    (∀ member ∈ members, held.lookup member.1 = none) → (members.map (·.1)).Nodup →
    skipWhitespace cursor.rest = skipWhitespace (text ++ 125 :: rest) →
    2 * cursor.rest.length + 1 ≤ fuel →
    outer + depth ≤ limits.maxDepth → cursor.valueCount + values ≤ limits.maxValues →
    cursor.containerItemCount + items ≤ limits.maxContainerItems →
    parseMembers limits fuel outer held cursor = .ok
      (members.foldl (fun values member => emplace member.1 member.2 values) held,
        ⟨rest, cursor.valueCount + values, cursor.containerItemCount + items⟩)

variable {cursor : Cursor} {rest tail : Text} {fuel outer : ℕ}

lemma parseValue_dispatch {byte : UInt8} (h : skipWhitespace cursor.rest = byte :: tail)
    (hvalues : cursor.valueCount < limits.maxValues) :
    parseValue limits (fuel + 1) outer cursor =
      let cursor : Cursor := ⟨byte :: tail, cursor.valueCount + 1, cursor.containerItemCount⟩
      if byte = 110 then literalValue limits [110, 117, 108, 108] .null cursor
      else if byte = 116 then literalValue limits [116, 114, 117, 101] (.bool true) cursor
      else if byte = 102 then literalValue limits [102, 97, 108, 115, 101] (.bool false) cursor
      else if byte = 34 then stringValue limits cursor
      else if byte = 91 then
        parseArray limits outer (parseElements limits fuel (outer + 1)) cursor
      else if byte = 123 then
        parseObject limits outer (parseMembers limits fuel (outer + 1) []) cursor
      else if byte = 45 ∨ isDecimalDigit byte then numberValue limits cursor
      else fail limits .unexpectedToken (byte :: tail) := by
  rw [parseValue, h]
  dsimp only
  rw [consumeValue_ok hvalues, ok_bind]

lemma literalValue_ok {literal : Text} {value : Value} {values items : ℕ} :
    literalValue limits literal value ⟨literal ++ rest, values, items⟩ =
      .ok (value, ⟨rest, values, items⟩) := by
  have hliteral : parseLiteral limits literal (literal ++ rest) = .ok rest := by
    rw [parseLiteral, if_pos (by simp), List.drop_left]
  rw [literalValue, hliteral]
  rfl

lemma exists_fuel {length : ℕ} (h : 2 * length ≤ fuel) (hlength : 0 < length) :
    ∃ fuel', fuel = fuel' + 1 ∧ 2 * length ≤ fuel' + 1 :=
  ⟨fuel - 1, by omega, by omega⟩

lemma length_of_skip {text : Text} (h : skipWhitespace cursor.rest = text) :
    text.length ≤ cursor.rest.length := h ▸ skipWhitespace_length cursor.rest

lemma reads_literal {literal : Text} {value : Value} {byte : UInt8} {others : Text}
    (hliteral : literal = byte :: others)
    (hdispatch : ∀ fuel outer (cursor : Cursor) rest,
      skipWhitespace cursor.rest = literal ++ rest → cursor.valueCount < limits.maxValues →
      parseValue limits (fuel + 1) outer cursor = literalValue limits literal value
        ⟨literal ++ rest, cursor.valueCount + 1, cursor.containerItemCount⟩) :
    Reads limits 0 1 0 literal (.value value) := by
  intro fuel outer cursor rest hskip _ hfuel _ hvalues _
  have hlength := length_of_skip hskip
  rw [hliteral, List.cons_append, List.length_cons] at hlength
  obtain ⟨fuel, rfl, -⟩ := exists_fuel hfuel (by omega)
  rw [hdispatch fuel outer cursor rest hskip (by omega), literalValue_ok]
  rfl

lemma reads_string {text output : Text} (h : StringText text output) :
    Reads limits 0 1 0 (34 :: (text ++ [34])) (.value (.string output)) := by
  intro fuel outer cursor rest hskip _ hfuel _ hvalues _
  have hlength := length_of_skip hskip
  simp only [List.cons_append, List.append_assoc, List.length_cons, List.nil_append] at hskip hlength
  obtain ⟨fuel, rfl, -⟩ := exists_fuel hfuel (by omega)
  rw [parseValue_dispatch hskip (by omega)]
  dsimp only
  rw [if_neg (by decide), if_neg (by decide), if_neg (by decide), if_pos rfl, stringValue,
    parseString_complete h]
  rfl

lemma reads_number {text : Text} (h : NumberText text) :
    Reads limits 0 1 0 text (.value (.number text)) := by
  intro fuel outer cursor rest hskip hfollow hfuel _ hvalues _
  obtain ⟨byte, tail, htext, hbyte⟩ := number_head h
  have hlength := length_of_skip hskip
  rw [htext, List.cons_append, List.length_cons] at hlength
  obtain ⟨fuel, rfl, -⟩ := exists_fuel hfuel (by omega)
  have hne (other : UInt8) (hother : other ≠ 45 ∧ isDecimalDigit other = false) :
      byte ≠ other := by
    rintro rfl
    obtain hminus | hdigit := hbyte
    · exact hother.1 hminus
    · rw [hother.2] at hdigit
      cases hdigit
  have hskip' := hskip
  rw [htext, List.cons_append] at hskip'
  rw [parseValue_dispatch hskip' (by omega)]
  dsimp only
  rw [if_neg (hne 110 (by decide)), if_neg (hne 116 (by decide)), if_neg (hne 102 (by decide)),
    if_neg (hne 34 (by decide)), if_neg (hne 91 (by decide)), if_neg (hne 123 (by decide)),
    if_pos hbyte, numberValue, ← List.cons_append, ← htext, parseNumber_complete h hfollow.stops]
  rfl

lemma reads_null : Reads limits 0 1 0 [110, 117, 108, 108] (.value .null) := by
  refine reads_literal rfl fun fuel outer cursor rest hskip hvalues => ?_
  rw [parseValue_dispatch hskip hvalues]
  exact if_pos rfl

lemma reads_true : Reads limits 0 1 0 [116, 114, 117, 101] (.value (.bool true)) := by
  refine reads_literal rfl fun fuel outer cursor rest hskip hvalues => ?_
  rw [parseValue_dispatch hskip hvalues]
  dsimp only
  rw [if_neg (by decide), if_pos rfl]
  rfl

lemma reads_false : Reads limits 0 1 0 [102, 97, 108, 115, 101] (.value (.bool false)) := by
  refine reads_literal rfl fun fuel outer cursor rest hskip hvalues => ?_
  rw [parseValue_dispatch hskip hvalues]
  dsimp only
  rw [if_neg (by decide), if_neg (by decide), if_pos rfl]
  rfl

lemma parseArray_empty {depth : ℕ} {elements : Cursor → Except Error (List Value × Cursor)}
    {byte : UInt8} {values items : ℕ} (hdepth : depth < limits.maxDepth)
    (h : skipWhitespace tail = 93 :: rest) :
    parseArray limits depth elements ⟨byte :: tail, values, items⟩ =
      .ok (.array [], ⟨rest, values, items⟩) := by
  rw [parseArray, if_neg (by omega)]
  dsimp only
  rw [List.drop_succ_cons, List.drop_zero, h]
  exact if_pos rfl

lemma parseArray_elements {depth : ℕ} {elements : Cursor → Except Error (List Value × Cursor)}
    {byte : UInt8} {values items : ℕ} {parsed : List Value × Cursor}
    (hdepth : depth < limits.maxDepth) (h : (skipWhitespace tail).head? ≠ some 93)
    (helements : elements ⟨skipWhitespace tail, values, items⟩ = .ok parsed) :
    parseArray limits depth elements ⟨byte :: tail, values, items⟩ =
      .ok (.array parsed.1, parsed.2) := by
  rw [parseArray, if_neg (by omega)]
  dsimp only
  rw [List.drop_succ_cons, List.drop_zero, if_neg h, helements]
  rfl

lemma parseObject_empty {depth : ℕ}
    {members : Cursor → Except Error (List (Text × Value) × Cursor)}
    {byte : UInt8} {values items : ℕ} (hdepth : depth < limits.maxDepth)
    (h : skipWhitespace tail = 125 :: rest) :
    parseObject limits depth members ⟨byte :: tail, values, items⟩ =
      .ok (.object [], ⟨rest, values, items⟩) := by
  rw [parseObject, if_neg (by omega)]
  dsimp only
  rw [List.drop_succ_cons, List.drop_zero, h]
  exact if_pos rfl

lemma parseObject_members {depth : ℕ}
    {members : Cursor → Except Error (List (Text × Value) × Cursor)}
    {byte : UInt8} {values items : ℕ} {parsed : List (Text × Value) × Cursor}
    (hdepth : depth < limits.maxDepth) (h : (skipWhitespace tail).head? ≠ some 125)
    (hmembers : members ⟨skipWhitespace tail, values, items⟩ = .ok parsed) :
    parseObject limits depth members ⟨byte :: tail, values, items⟩ =
      .ok (.object parsed.1, parsed.2) := by
  rw [parseObject, if_neg (by omega)]
  dsimp only
  rw [List.drop_succ_cons, List.drop_zero, if_neg h, hmembers]
  rfl

lemma skipWhitespace_idem (text : Text) :
    skipWhitespace (skipWhitespace text) = skipWhitespace text :=
  List.dropWhile_idempotent _ _

-- The first element of a list of them starts with a byte that closes no array.
lemma elements_head {depth values items : ℕ} {text : Text} {elements : List Value}
    (h : Denotes depth values items text (.elements elements)) (rest : Text) :
    (skipWhitespace (text ++ rest)).head? ≠ some 93 := by
  cases h with
  | element hbefore hvalue hafter =>
    obtain ⟨byte, tail, rfl, hblank, hclosing⟩ := value_head hvalue
    rw [List.append_assoc, skipWhitespace_blank hbefore, List.append_assoc, List.cons_append,
      skipWhitespace_cons hblank]
    simpa using hclosing
  | elements hbefore hvalue hafter hothers =>
    obtain ⟨byte, tail, rfl, hblank, hclosing⟩ := value_head hvalue
    rw [List.append_assoc, skipWhitespace_blank hbefore, List.append_assoc, List.cons_append,
      skipWhitespace_cons hblank]
    simpa using hclosing

lemma members_head {depth values items : ℕ} {text : Text} {members : List (Text × Value)}
    (h : Denotes depth values items text (.members members)) (rest : Text) :
    (skipWhitespace (text ++ rest)).head? ≠ some 125 := by
  cases h with
  | member hbefore hkey hmiddle hbetween hvalue hafter =>
    rw [List.append_assoc, skipWhitespace_blank hbefore, List.cons_append,
      skipWhitespace_cons (by decide)]
    simp
  | members hbefore hkey hmiddle hbetween hvalue hafter hothers =>
    rw [List.append_assoc, skipWhitespace_blank hbefore, List.cons_append,
      skipWhitespace_cons (by decide)]
    simp

lemma reads_emptyArray {blank : Text} (h : Whitespace blank) :
    Reads limits 1 1 0 (91 :: (blank ++ [93])) (.value (.array [])) := by
  intro fuel outer cursor rest hskip _ hfuel hdepth hvalues _
  have hlength := length_of_skip hskip
  simp only [List.cons_append, List.append_assoc, List.length_cons, List.nil_append] at hskip hlength
  obtain ⟨fuel, rfl, -⟩ := exists_fuel hfuel (by omega)
  rw [parseValue_dispatch hskip (by omega)]
  dsimp only
  rw [if_neg (by decide), if_neg (by decide), if_neg (by decide), if_neg (by decide), if_pos rfl,
    parseArray_empty (by omega)
      ((skipWhitespace_blank h _).trans (skipWhitespace_cons (by decide) rest))]
  rfl

lemma reads_array {depth values items : ℕ} {text : Text} {elements : List Value}
    (h : Denotes depth values items text (.elements elements))
    (ih : Reads limits depth values items text (.elements elements)) :
    Reads limits (depth + 1) (values + 1) items (91 :: (text ++ [93]))
      (.value (.array elements)) := by
  intro fuel outer cursor rest hskip _ hfuel hdepth hvalues hitems
  have hlength := length_of_skip hskip
  simp only [List.cons_append, List.append_assoc, List.length_cons, List.nil_append] at hskip hlength
  obtain ⟨fuel, rfl, hfuel'⟩ := exists_fuel hfuel (by omega)
  have hinner := skipWhitespace_length (text ++ 93 :: rest)
  rw [parseValue_dispatch hskip (by omega)]
  dsimp only
  rw [if_neg (by decide), if_neg (by decide), if_neg (by decide), if_neg (by decide), if_pos rfl]
  have hparsed := ih fuel (outer + 1)
    ⟨skipWhitespace (text ++ 93 :: rest), cursor.valueCount + 1, cursor.containerItemCount⟩ rest
    (skipWhitespace_idem _) (by dsimp only; omega) (by omega) (by dsimp only; omega) hitems
  rw [parseArray_elements (by omega) (elements_head h (93 :: rest)) hparsed]
  dsimp only
  rw [Nat.add_right_comm, Nat.add_assoc]

lemma reads_emptyObject {blank : Text} (h : Whitespace blank) :
    Reads limits 1 1 0 (123 :: (blank ++ [125])) (.value (.object [])) := by
  intro fuel outer cursor rest hskip _ hfuel hdepth hvalues _
  have hlength := length_of_skip hskip
  simp only [List.cons_append, List.append_assoc, List.length_cons, List.nil_append] at hskip hlength
  obtain ⟨fuel, rfl, -⟩ := exists_fuel hfuel (by omega)
  rw [parseValue_dispatch hskip (by omega)]
  dsimp only
  rw [if_neg (by decide), if_neg (by decide), if_neg (by decide), if_neg (by decide),
    if_neg (by decide), if_pos rfl, parseObject_empty (by omega)
      ((skipWhitespace_blank h _).trans (skipWhitespace_cons (by decide) rest))]
  rfl

lemma reads_object {depth values items : ℕ} {text : Text} {members : List (Text × Value)}
    (h : Denotes depth values items text (.members members))
    (hkeys : (members.map (·.1)).Nodup)
    (ih : Reads limits depth values items text (.members members)) :
    Reads limits (depth + 1) (values + 1) items (123 :: (text ++ [125]))
      (.value (.object (objectOf members))) := by
  intro fuel outer cursor rest hskip _ hfuel hdepth hvalues hitems
  have hlength := length_of_skip hskip
  simp only [List.cons_append, List.append_assoc, List.length_cons, List.nil_append] at hskip hlength
  obtain ⟨fuel, rfl, hfuel'⟩ := exists_fuel hfuel (by omega)
  have hinner := skipWhitespace_length (text ++ 125 :: rest)
  rw [parseValue_dispatch hskip (by omega)]
  dsimp only
  rw [if_neg (by decide), if_neg (by decide), if_neg (by decide), if_neg (by decide),
    if_neg (by decide), if_pos rfl]
  have hparsed := ih fuel (outer + 1) []
    ⟨skipWhitespace (text ++ 125 :: rest), cursor.valueCount + 1, cursor.containerItemCount⟩ rest
    (fun _ _ => rfl) hkeys (skipWhitespace_idem _) (by dsimp only; omega) (by omega)
    (by dsimp only; omega) hitems
  rw [parseObject_members (by omega) (members_head h (125 :: rest)) hparsed]
  dsimp only
  rw [Nat.add_right_comm, Nat.add_assoc]
  rfl

-- One element and what separates it from the rest, up to the byte that ends it.
lemma parseElement {depth values items : ℕ} {before text after : Text} {value : Value}
    (hbefore : Whitespace before) (hafter : Whitespace after)
    (hvalue : Denotes depth values items text (.value value))
    (ih : Reads limits depth values items text (.value value))
    (hskip : skipWhitespace cursor.rest = skipWhitespace (before ++ (text ++ (after ++ rest))))
    (hfollow : Follow rest) (hfuel : 2 * cursor.rest.length ≤ fuel)
    (hdepth : outer + depth ≤ limits.maxDepth)
    (hvalues : cursor.valueCount + values ≤ limits.maxValues)
    (hitems : cursor.containerItemCount + (items + 1) ≤ limits.maxContainerItems) :
    parseValue limits fuel outer
        ⟨cursor.rest, cursor.valueCount, cursor.containerItemCount + 1⟩ =
      .ok (value, ⟨after ++ rest, cursor.valueCount + values,
        cursor.containerItemCount + (items + 1)⟩) ∧
      rest.length < cursor.rest.length := by
  obtain ⟨byte, tail, htext, hblank, -⟩ := value_head hvalue
  have hstripped : skipWhitespace cursor.rest = text ++ (after ++ rest) := by
    rw [hskip, skipWhitespace_blank hbefore, htext, List.cons_append, skipWhitespace_cons hblank]
  have hlength := length_of_skip hstripped
  simp only [htext, List.length_append, List.length_cons] at hlength
  have hparsed := ih fuel outer
    ⟨cursor.rest, cursor.valueCount, cursor.containerItemCount + 1⟩ (after ++ rest) hstripped
    (follow_blank hafter hfollow) hfuel hdepth hvalues (by dsimp only; omega)
  refine ⟨hparsed.trans ?_, by omega⟩
  dsimp only
  rw [Nat.add_assoc, Nat.add_comm 1 items]

lemma follow_cons {byte : UInt8} (h : byte = 44 ∨ byte = 93 ∨ byte = 125) (rest : Text) :
    Follow (byte :: rest) := by
  intro first hfirst
  obtain rfl := Option.some.inj hfirst
  exact Or.inr h

lemma reads_element {depth values items : ℕ} {before text after : Text} {value : Value}
    (hbefore : Whitespace before) (hvalue : Denotes depth values items text (.value value))
    (hafter : Whitespace after) (ih : Reads limits depth values items text (.value value)) :
    Reads limits depth values (items + 1) (before ++ (text ++ after)) (.elements [value]) := by
  intro fuel outer cursor rest hskip hfuel hdepth hvalues hitems
  simp only [List.append_assoc] at hskip
  obtain ⟨fuel, rfl⟩ : ∃ fuel', fuel = fuel' + 1 := ⟨fuel - 1, by omega⟩
  obtain ⟨hparsed, -⟩ := @parseElement limits cursor (93 :: rest) fuel outer _ _ _ _ _ _ _
    hbefore hafter hvalue ih hskip (follow_cons (Or.inr (Or.inl rfl)) rest) (by omega) hdepth
    hvalues hitems
  have hclosed := (skipWhitespace_blank hafter (93 :: rest)).trans
    (skipWhitespace_cons (by decide) rest)
  rw [parseElements, consumeContainerItem_ok (by omega), ok_bind, hparsed, ok_bind]
  dsimp only
  rw [parseSeparator_closed hclosed, ok_bind]
  rfl

lemma reads_elements {depth depth' values values' items items' : ℕ}
    {before text after others : Text} {value : Value} {elements : List Value}
    (hbefore : Whitespace before) (hvalue : Denotes depth values items text (.value value))
    (hafter : Whitespace after) (ih : Reads limits depth values items text (.value value))
    (ih' : Reads limits depth' values' items' others (.elements elements)) :
    Reads limits (max depth depth') (values + values') (items + 1 + items')
      (before ++ (text ++ (after ++ 44 :: others))) (.elements (value :: elements)) := by
  intro fuel outer cursor rest hskip hfuel hdepth hvalues hitems
  simp only [List.append_assoc, List.cons_append] at hskip
  obtain ⟨fuel, rfl⟩ : ∃ fuel', fuel = fuel' + 1 := ⟨fuel - 1, by omega⟩
  obtain ⟨hparsed, hlength⟩ := @parseElement limits cursor (44 :: (others ++ 93 :: rest)) fuel outer
    _ _ _ _ _ _ _ hbefore hafter hvalue ih hskip (follow_cons (Or.inl rfl) _) (by omega)
    (by omega) (by omega) (by omega)
  have hcomma := (skipWhitespace_blank hafter (44 :: (others ++ 93 :: rest))).trans
    (skipWhitespace_cons (by decide) _)
  have hothers := ih' fuel outer ⟨others ++ 93 :: rest, cursor.valueCount + values,
    cursor.containerItemCount + (items + 1)⟩ rest rfl
    (by simp only [List.length_cons] at hlength; dsimp only; omega) (by omega)
    (by dsimp only; omega) (by dsimp only; omega)
  rw [parseElements, consumeContainerItem_ok (by omega), ok_bind, hparsed, ok_bind]
  dsimp only
  rw [parseSeparator_comma (by decide) hcomma, ok_bind]
  dsimp only
  rw [if_neg (by simp), hothers, ok_bind]
  dsimp only
  rw [Nat.add_assoc, Nat.add_assoc]
  rfl

lemma parseMember {depth values items : ℕ} {before key middle between text after decoded : Text}
    {value : Value} {held : List (Text × Value)} (hbefore : Whitespace before)
    (hkey : StringText key decoded) (hmiddle : Whitespace middle) (hbetween : Whitespace between)
    (hvalue : Denotes depth values items text (.value value)) (hafter : Whitespace after)
    (ih : Reads limits depth values items text (.value value))
    (hfresh : held.lookup decoded = none)
    (hskip : skipWhitespace cursor.rest = skipWhitespace
      (before ++ 34 :: (key ++ 34 :: (middle ++ 58 :: (between ++ (text ++ (after ++ rest)))))))
    (hfollow : Follow rest) (hfuel : 2 * cursor.rest.length ≤ fuel)
    (hdepth : outer + depth ≤ limits.maxDepth)
    (hvalues : cursor.valueCount + values ≤ limits.maxValues)
    (hitems : cursor.containerItemCount + (items + 1) ≤ limits.maxContainerItems) :
    parseKey limits held cursor = .ok (decoded, ⟨between ++ (text ++ (after ++ rest)),
      cursor.valueCount, cursor.containerItemCount + 1⟩) ∧
    parseValue limits fuel outer ⟨between ++ (text ++ (after ++ rest)), cursor.valueCount,
        cursor.containerItemCount + 1⟩ =
      .ok (value, ⟨after ++ rest, cursor.valueCount + values,
        cursor.containerItemCount + (items + 1)⟩) ∧
      rest.length < cursor.rest.length := by
  have hstripped := hskip
  rw [skipWhitespace_blank hbefore, skipWhitespace_cons (by decide)] at hstripped
  have hlength := length_of_skip hstripped
  simp only [List.length_append, List.length_cons] at hlength
  obtain ⟨hparsed, hshort⟩ := @parseElement limits
    ⟨between ++ (text ++ (after ++ rest)), cursor.valueCount, cursor.containerItemCount⟩ rest fuel
    outer _ _ _ _ _ _ _ hbetween hafter hvalue ih rfl hfollow
    (by simp only [List.length_append]; omega) hdepth hvalues hitems
  refine ⟨parseKey_ok hstripped hkey hmiddle hfresh (by omega), hparsed, by omega⟩

lemma reads_member {depth values items : ℕ} {before key middle between text after decoded : Text}
    {value : Value} (hbefore : Whitespace before) (hkey : StringText key decoded)
    (hmiddle : Whitespace middle) (hbetween : Whitespace between)
    (hvalue : Denotes depth values items text (.value value)) (hafter : Whitespace after)
    (ih : Reads limits depth values items text (.value value)) :
    Reads limits depth values (items + 1)
      (before ++ 34 :: (key ++ 34 :: (middle ++ 58 :: (between ++ (text ++ after)))))
      (.members [(decoded, value)]) := by
  intro fuel outer held cursor rest hfresh _ hskip hfuel hdepth hvalues hitems
  simp only [List.append_assoc, List.cons_append] at hskip
  obtain ⟨fuel, rfl⟩ : ∃ fuel', fuel = fuel' + 1 := ⟨fuel - 1, by omega⟩
  obtain ⟨hnamed, hparsed, -⟩ := parseMember hbefore hkey hmiddle hbetween hvalue hafter ih
    (hfresh (decoded, value) (by simp)) hskip (follow_cons (Or.inr (Or.inr rfl)) rest) 
    (show 2 * cursor.rest.length ≤ fuel by omega) hdepth hvalues hitems
  have hclosed := (skipWhitespace_blank hafter (125 :: rest)).trans
    (skipWhitespace_cons (by decide) rest)
  rw [parseMembers, hnamed, ok_bind]
  dsimp only
  rw [hparsed, ok_bind]
  dsimp only
  rw [parseSeparator_closed hclosed, ok_bind]
  rfl

lemma reads_members {depth depth' values values' items items' : ℕ}
    {before key middle between text after others decoded : Text} {value : Value}
    {members : List (Text × Value)} (hbefore : Whitespace before) (hkey : StringText key decoded)
    (hmiddle : Whitespace middle) (hbetween : Whitespace between)
    (hvalue : Denotes depth values items text (.value value)) (hafter : Whitespace after)
    (ih : Reads limits depth values items text (.value value))
    (ih' : Reads limits depth' values' items' others (.members members)) :
    Reads limits (max depth depth') (values + values') (items + 1 + items')
      (before ++ 34 :: (key ++ 34 :: (middle ++ 58 ::
        (between ++ (text ++ (after ++ 44 :: others))))))
      (.members ((decoded, value) :: members)) := by
  intro fuel outer held cursor rest hfresh hkeys hskip hfuel hdepth hvalues hitems
  simp only [List.append_assoc, List.cons_append] at hskip
  obtain ⟨fuel, rfl⟩ : ∃ fuel', fuel = fuel' + 1 := ⟨fuel - 1, by omega⟩
  obtain ⟨hhead, htail⟩ := List.forall_mem_cons.mp hfresh
  rw [List.map_cons, List.nodup_cons] at hkeys
  obtain ⟨hnamed, hparsed, hlength⟩ := parseMember hbefore hkey hmiddle hbetween hvalue hafter ih
    hhead hskip (follow_cons (Or.inl rfl) (others ++ 125 :: rest))
    (show 2 * cursor.rest.length ≤ fuel by omega) (show outer + depth ≤ limits.maxDepth by omega)
    (by omega) (by omega)
  have hcomma := (skipWhitespace_blank hafter (44 :: (others ++ 125 :: rest))).trans
    (skipWhitespace_cons (by decide) _)
  have hfresh' : ∀ member ∈ members, (emplace decoded value held).lookup member.1 = none := by
    intro member hmember
    have hne : member.1 ≠ decoded := by
      rintro rfl
      exact hkeys.1 (List.mem_map.mpr ⟨member, hmember, rfl⟩)
    rw [lookup_emplace_ne hne]
    exact htail member hmember
  have hothers := ih' fuel outer (emplace decoded value held) ⟨others ++ 125 :: rest,
    cursor.valueCount + values, cursor.containerItemCount + (items + 1)⟩ rest hfresh' hkeys.2 rfl
    (by simp only [List.length_cons] at hlength; dsimp only; omega) (by omega)
    (by dsimp only; omega) (by dsimp only; omega)
  rw [parseMembers, hnamed, ok_bind]
  dsimp only
  rw [hparsed, ok_bind]
  dsimp only
  rw [parseSeparator_comma (by decide) hcomma, ok_bind]
  dsimp only
  rw [if_neg (by simp), hothers]
  dsimp only
  rw [Nat.add_assoc, Nat.add_assoc]
  rfl

lemma reads_of_denotes {depth values items : ℕ} {text : Text} {construct : Construct}
    (h : Denotes depth values items text construct) :
    Reads limits depth values items text construct := by
  induction h with
  | null => exact reads_null
  | true => exact reads_true
  | false => exact reads_false
  | number htext => exact reads_number htext
  | string htext => exact reads_string htext
  | emptyArray hblank => exact reads_emptyArray hblank
  | array helements ih => exact reads_array helements ih
  | emptyObject hblank => exact reads_emptyObject hblank
  | object hmembers hkeys ih => exact reads_object hmembers hkeys ih
  | element hbefore hvalue hafter ih => exact reads_element hbefore hvalue hafter ih
  | elements hbefore hvalue hafter _ ih ih' => exact reads_elements hbefore hvalue hafter ih ih'
  | member hbefore hkey hmiddle hbetween hvalue hafter ih =>
    exact reads_member hbefore hkey hmiddle hbetween hvalue hafter ih
  | members hbefore hkey hmiddle hbetween hvalue hafter _ ih ih' =>
    exact reads_members hbefore hkey hmiddle hbetween hvalue hafter ih ih'

end Values

lemma skipWhitespace_all {blank : Text} (h : Whitespace blank) : skipWhitespace blank = [] := by
  have hskip := skipWhitespace_blank h []
  rwa [List.append_nil] at hskip

lemma parse_complete {options : ParseOptions} {input : Text} {value : Value}
    (h : Accepts options input value) : parse input options = .ok value := by
  obtain ⟨hsize, depth, values, items, before, text, after, hbefore, hafter, rfl, hvalue, hdepth,
    hvalues, hitems⟩ := h
  obtain ⟨byte, tail, htext, hblank, -⟩ := value_head hvalue
  have hskip : skipWhitespace (before ++ (text ++ after)) = text ++ after := by
    rw [skipWhitespace_blank hbefore, htext, List.cons_append, skipWhitespace_cons hblank]
  have hfollow : Follow after := fun first hfirst =>
    Or.inl (hafter first (List.mem_of_mem_head? hfirst))
  have hlength : (text ++ after).length ≤ (before ++ (text ++ after)).length := by
    simp
  have hread := @reads_of_denotes ⟨(before ++ (text ++ after)).length,
    min options.maxNestingDepth absoluteMaxNestingDepth, options.maxValues,
    options.maxContainerItems⟩ _ _ _ _ _ hvalue (2 * (before ++ (text ++ after)).length) 0
    { rest := skipWhitespace (before ++ (text ++ after)) } after
    (by dsimp only; rw [skipWhitespace_idem, hskip]) hfollow (by dsimp only; rw [hskip]; omega)
    (by dsimp only; omega) (by dsimp only; omega) (by dsimp only; omega)
  rw [parse, if_neg (by omega), run, hread, ok_bind]
  dsimp only
  rw [skipWhitespace_all hafter, if_neg (by simp)]
  rfl

end Qwen3xOrin.Io.Json
