import Qwen3xOrin.Io.JsonComplete

/-! What the parser accepts is a text of the grammar, within its limits. -/

namespace Qwen3xOrin.Io.Json

open Library

variable {limits : Limits} {cursor cursor' : Cursor}

-- From `cursor` to `cursor'` the counters grow by the values and items read, within the limits.
structure Advances (limits : Limits) (values items : ℕ) (cursor cursor' : Cursor) : Prop where
  values_eq : cursor'.valueCount = cursor.valueCount + values
  items_eq : cursor'.containerItemCount = cursor.containerItemCount + items
  values_le : cursor.valueCount ≤ limits.maxValues → cursor'.valueCount ≤ limits.maxValues
  items_le : cursor.containerItemCount ≤ limits.maxContainerItems →
    cursor'.containerItemCount ≤ limits.maxContainerItems

lemma Advances.trans {values values' items items' : ℕ} {cursor'' : Cursor}
    (h : Advances limits values items cursor cursor')
    (h' : Advances limits values' items' cursor' cursor'') :
    Advances limits (values + values') (items + items') cursor cursor'' where
  values_eq := by rw [h'.values_eq, h.values_eq, Nat.add_assoc]
  items_eq := by rw [h'.items_eq, h.items_eq, Nat.add_assoc]
  values_le hle := h'.values_le (h.values_le hle)
  items_le hle := h'.items_le (h.items_le hle)

lemma advances_rest {rest rest' : Text} {values items : ℕ} :
    Advances limits 0 0 ⟨rest, values, items⟩ ⟨rest', values, items⟩ :=
  ⟨rfl, rfl, id, id⟩

lemma consumeValue_sound (h : consumeValue limits cursor = .ok cursor') :
    cursor'.rest = cursor.rest ∧ Advances limits 1 0 cursor cursor' := by
  obtain ⟨hless, h⟩ := guard_ok.mp h
  cases h
  exact ⟨rfl, rfl, rfl, fun _ => by dsimp only; omega, id⟩

lemma consumeContainerItem_sound (h : consumeContainerItem limits cursor = .ok cursor') :
    cursor'.rest = cursor.rest ∧ Advances limits 0 1 cursor cursor' := by
  obtain ⟨hless, h⟩ := guard_ok.mp h
  cases h
  exact ⟨rfl, rfl, rfl, id, fun _ => by dsimp only; omega⟩

lemma skipWhitespace_split (text : Text) :
    ∃ blank, Whitespace blank ∧ text = blank ++ skipWhitespace text :=
  ⟨text.takeWhile isJsonWhitespace, fun _ hbyte => List.mem_takeWhile_imp hbyte,
    List.takeWhile_append_dropWhile.symm⟩

lemma parseSeparator_sound {closing : UInt8} {closed : Bool}
    (h : parseSeparator limits closing cursor = .ok (closed, cursor')) :
    Advances limits 0 0 cursor cursor' ∧ ∃ blank, Whitespace blank ∧
      cursor.rest = blank ++ (if closed then closing else 44) :: cursor'.rest := by
  obtain ⟨blank, hblank, hsplit⟩ := skipWhitespace_split cursor.rest
  unfold parseSeparator at h
  cases hskip : skipWhitespace cursor.rest with
  | nil =>
    rw [hskip] at h
    cases h
  | cons byte tail =>
    rw [hskip] at h hsplit
    dsimp only at h
    split_ifs at h with hclosing hcomma
    · cases h
      refine ⟨advances_rest, blank, hblank, ?_⟩
      rw [hsplit, hclosing]
      rfl
    · cases h
    · cases h
      refine ⟨advances_rest, blank, hblank, ?_⟩
      rw [hsplit, Decidable.not_not.mp hcomma]
      rfl

lemma parseKey_sound {held : List (Text × Value)} {key : Text}
    (h : parseKey limits held cursor = .ok (key, cursor')) :
    Advances limits 0 1 cursor cursor' ∧ held.lookup key = none ∧
      ∃ before text middle, Whitespace before ∧ StringText text key ∧ Whitespace middle ∧
        cursor.rest = before ++ 34 :: (text ++ 34 :: (middle ++ 58 :: cursor'.rest)) := by
  obtain ⟨before, hbefore, hsplit⟩ := skipWhitespace_split cursor.rest
  unfold parseKey at h
  cases hskip : skipWhitespace cursor.rest with
  | nil =>
    rw [hskip] at h
    cases h
  | cons byte tail =>
    rw [hskip] at h hsplit
    obtain ⟨hquote, h⟩ := guard_ok.mp h
    rw [Decidable.not_not.mp hquote] at h hsplit
    obtain ⟨consumed, hconsumed, hitem⟩ := bind_ok.mp h
    obtain ⟨hrest, hadvances⟩ := consumeContainerItem_sound hconsumed
    obtain ⟨⟨decoded, rest⟩, hstring, hnamed⟩ := bind_ok.mp hitem
    rw [hrest] at hstring
    obtain ⟨text, htext, htail⟩ := parseString_sound hstring
    obtain ⟨hfresh, h⟩ := guard_ok.mp hnamed
    obtain ⟨middle, hmiddle, hsplit'⟩ := skipWhitespace_split rest
    cases hskip' : skipWhitespace rest with
    | nil =>
      rw [hskip'] at h
      cases h
    | cons colon rest' =>
      rw [hskip'] at h hsplit'
      obtain ⟨hcolon, h⟩ := guard_ok.mp h
      cases h
      refine ⟨⟨hadvances.values_eq, hadvances.items_eq, hadvances.values_le, hadvances.items_le⟩,
        Option.not_isSome_iff_eq_none.mp hfresh, before, text, middle, hbefore, htext, hmiddle, ?_⟩
      rw [hsplit, htail, hsplit', Decidable.not_not.mp hcolon]

lemma lookup_emplace_self (key : Text) (value : Value) (members : List (Text × Value)) :
    ∃ held, (emplace key value members).lookup key = some held := by
  induction members with
  | nil => exact ⟨value, by simp [emplace]⟩
  | cons member members ih =>
    obtain ⟨other, held⟩ := member
    rw [emplace]
    split_ifs
    · exact ⟨value, by simp⟩
    · rw [List.lookup_cons]
      cases key == other with
      | true => exact ⟨held, rfl⟩
      | false => exact ih

lemma lookup_emplace_none {key other : Text} {value : Value} {members : List (Text × Value)}
    (h : (emplace key value members).lookup other = none) :
    other ≠ key ∧ members.lookup other = none := by
  have hne : other ≠ key := by
    rintro rfl
    obtain ⟨held, hheld⟩ := lookup_emplace_self other value members
    rw [hheld] at h
    cases h
  exact ⟨hne, by rwa [lookup_emplace_ne hne] at h⟩

-- What one call of the three parsing loops has read, whatever its fuel.
structure ReadsOnly (limits : Limits) (fuel : ℕ) : Prop where
  value : ∀ outer cursor value cursor', outer ≤ limits.maxDepth →
    parseValue limits fuel outer cursor = .ok (value, cursor') →
    ∃ depth values items before text, Whitespace before ∧
      cursor.rest = before ++ (text ++ cursor'.rest) ∧
      Denotes depth values items text (.value value) ∧ outer + depth ≤ limits.maxDepth ∧
      Advances limits values items cursor cursor'
  elements : ∀ outer cursor elements cursor', outer ≤ limits.maxDepth →
    parseElements limits fuel outer cursor = .ok (elements, cursor') →
    ∃ depth values items text, cursor.rest = text ++ 93 :: cursor'.rest ∧
      Denotes depth values items text (.elements elements) ∧ outer + depth ≤ limits.maxDepth ∧
      Advances limits values items cursor cursor'
  members : ∀ outer held cursor result cursor', outer ≤ limits.maxDepth →
    parseMembers limits fuel outer held cursor = .ok (result, cursor') →
    ∃ depth values items text members, cursor.rest = text ++ 125 :: cursor'.rest ∧
      Denotes depth values items text (.members members) ∧ outer + depth ≤ limits.maxDepth ∧
      Advances limits values items cursor cursor' ∧ (members.map (·.1)).Nodup ∧
      (∀ member ∈ members, held.lookup member.1 = none) ∧
      result = members.foldl (fun values member => emplace member.1 member.2 values) held

lemma literalValue_sound {literal : Text} {value result : Value}
    (h : literalValue limits literal value cursor = .ok (result, cursor')) :
    result = value ∧ cursor.rest = literal ++ cursor'.rest ∧ Advances limits 0 0 cursor cursor' := by
  obtain ⟨rest, hliteral, h⟩ := bind_ok.mp h
  cases h
  unfold parseLiteral at hliteral
  split_ifs at hliteral with hstart
  · cases hliteral
    rw [ List.isPrefixOf_iff_prefix] at hstart
    obtain ⟨tail, htail⟩ := hstart
    rw [← htail]
    exact ⟨rfl, by simp, ⟨rfl, rfl, id, id⟩⟩
  · cases hliteral

lemma stringValue_sound {tail : Text} {value : Value} (hquote : cursor.rest = 34 :: tail)
    (h : stringValue limits cursor = .ok (value, cursor')) :
    ∃ text output, StringText text output ∧ value = .string output ∧
      cursor.rest = 34 :: (text ++ [34]) ++ cursor'.rest ∧ Advances limits 0 0 cursor cursor' := by
  obtain ⟨⟨output, rest⟩, hstring, h⟩ := bind_ok.mp h
  cases h
  rw [hquote] at hstring
  obtain ⟨text, htext, rfl⟩ := parseString_sound hstring
  exact ⟨text, output, htext, rfl, by simp [hquote], ⟨rfl, rfl, id, id⟩⟩

lemma numberValue_sound {value : Value}
    (h : numberValue limits cursor = .ok (value, cursor')) :
    ∃ text, NumberText text ∧ value = .number text ∧ cursor.rest = text ++ cursor'.rest ∧
      Advances limits 0 0 cursor cursor' := by
  obtain ⟨⟨text, rest⟩, hnumber, h⟩ := bind_ok.mp h
  cases h
  obtain ⟨htext, hsplit⟩ := parseNumber_sound hnumber
  exact ⟨text, htext, rfl, hsplit, ⟨rfl, rfl, id, id⟩⟩

section Blanks

lemma Whitespace.append {blank blank' : Text} (h : Whitespace blank) (h' : Whitespace blank') :
    Whitespace (blank ++ blank') := by
  intro byte hbyte
  rcases List.mem_append.mp hbyte with hbyte | hbyte
  · exact h byte hbyte
  · exact h' byte hbyte

variable {depth values items : ℕ} {blank text : Text} (hblank : Whitespace blank)

include hblank

lemma Denotes.blank_elements {elements : List Value}
    (h : Denotes depth values items text (.elements elements)) :
    Denotes depth values items (blank ++ text) (.elements elements) := by
  cases h with
  | element hbefore htext hafter =>
    rw [← List.append_assoc]
    exact .element (hblank.append hbefore) htext hafter
  | elements hbefore htext hafter hrest =>
    rw [← List.append_assoc]
    exact .elements (hblank.append hbefore) htext hafter hrest

lemma Denotes.blank_members {members : List (Text × Value)}
    (h : Denotes depth values items text (.members members)) :
    Denotes depth values items (blank ++ text) (.members members) := by
  cases h with
  | member hbefore hkey hmiddle hbetween htext hafter =>
    rw [← List.append_assoc]
    exact .member (hblank.append hbefore) hkey hmiddle hbetween htext hafter
  | members hbefore hkey hmiddle hbetween htext hafter hrest =>
    rw [← List.append_assoc]
    exact .members (hblank.append hbefore) hkey hmiddle hbetween htext hafter hrest

end Blanks

section Containers

variable {fuel outer : ℕ} (h : ReadsOnly limits fuel)

include h

lemma ReadsOnly.array {tail : Text} {value : Value} (hopen : cursor.rest = 91 :: tail)
    (hrun : parseArray limits outer (parseElements limits fuel (outer + 1)) cursor =
      .ok (value, cursor')) :
    ∃ depth values items text, cursor.rest = text ++ cursor'.rest ∧
      Denotes depth (values + 1) items text (.value value) ∧ outer + depth ≤ limits.maxDepth ∧
      Advances limits values items cursor cursor' := by
  obtain ⟨hdepth, hrun⟩ := guard_ok.mp hrun
  rw [hopen, List.drop_one, List.tail_cons] at hrun
  obtain ⟨blank, hblank, hsplit⟩ := skipWhitespace_split tail
  dsimp only at hrun
  split_ifs at hrun with hclosed
  · obtain ⟨rest, hrest⟩ := List.head?_eq_some_iff.mp hclosed
    rw [hrest] at hrun hsplit
    cases hrun
    refine ⟨1, 0, 0, _, ?_, .emptyArray hblank, by omega, rfl, rfl, id, id⟩
    rw [hopen, hsplit]
    simp
  · obtain ⟨⟨elements, reached⟩, helements, hrun⟩ := bind_ok.mp hrun
    cases hrun
    obtain ⟨depth, values, items, text, htext, hdenotes, hle, hadvances⟩ :=
      h.elements _ _ _ _ (by omega) helements
    refine ⟨depth + 1, values, items, _, ?_, .array (hdenotes.blank_elements hblank), by omega,
      hadvances.values_eq, hadvances.items_eq, hadvances.values_le, hadvances.items_le⟩
    dsimp only at htext
    rw [hopen, hsplit, htext]
    simp

lemma ReadsOnly.object {tail : Text} {value : Value} (hopen : cursor.rest = 123 :: tail)
    (hrun : parseObject limits outer (parseMembers limits fuel (outer + 1) []) cursor =
      .ok (value, cursor')) :
    ∃ depth values items text, cursor.rest = text ++ cursor'.rest ∧
      Denotes depth (values + 1) items text (.value value) ∧ outer + depth ≤ limits.maxDepth ∧
      Advances limits values items cursor cursor' := by
  obtain ⟨hdepth, hrun⟩ := guard_ok.mp hrun
  rw [hopen, List.drop_one, List.tail_cons] at hrun
  obtain ⟨blank, hblank, hsplit⟩ := skipWhitespace_split tail
  dsimp only at hrun
  split_ifs at hrun with hclosed
  · obtain ⟨rest, hrest⟩ := List.head?_eq_some_iff.mp hclosed
    rw [hrest] at hrun hsplit
    cases hrun
    refine ⟨1, 0, 0, _, ?_, .emptyObject hblank, by omega, rfl, rfl, id, id⟩
    rw [hopen, hsplit]
    simp
  · obtain ⟨⟨result, reached⟩, hmembers, hrun⟩ := bind_ok.mp hrun
    cases hrun
    obtain ⟨depth, values, items, text, members, htext, hdenotes, hle, hadvances, hdistinct, -,
      rfl⟩ := h.members _ _ _ _ _ (by omega) hmembers
    refine ⟨depth + 1, values, items, _, ?_,
      .object (hdenotes.blank_members hblank) hdistinct, by omega,
      hadvances.values_eq, hadvances.items_eq, hadvances.values_le, hadvances.items_le⟩
    dsimp only at htext
    rw [hopen, hsplit, htext]
    simp

lemma ReadsOnly.value_step {value : Value} (houter : outer ≤ limits.maxDepth)
    (hrun : parseValue limits (fuel + 1) outer cursor = .ok (value, cursor')) :
    ∃ depth values items before text, Whitespace before ∧
      cursor.rest = before ++ (text ++ cursor'.rest) ∧
      Denotes depth values items text (.value value) ∧ outer + depth ≤ limits.maxDepth ∧
      Advances limits values items cursor cursor' := by
  obtain ⟨before, hbefore, hsplit⟩ := skipWhitespace_split cursor.rest
  rw [parseValue] at hrun
  cases hskip : skipWhitespace cursor.rest with
  | nil =>
    rw [hskip] at hrun
    cases hrun
  | cons byte tail =>
    rw [hskip] at hrun hsplit
    obtain ⟨consumed, hconsumed, hread⟩ := bind_ok.mp hrun
    obtain ⟨hrest, hcounted⟩ := consumeValue_sound hconsumed
    have hcounted : Advances limits 1 0 cursor consumed :=
      ⟨hcounted.values_eq, hcounted.items_eq, hcounted.values_le, hcounted.items_le⟩
    suffices hsuffix : ∃ depth values items text, consumed.rest = text ++ cursor'.rest ∧
        Denotes depth (values + 1) items text (.value value) ∧ outer + depth ≤ limits.maxDepth ∧
        Advances limits values items consumed cursor' by
      obtain ⟨depth, values, items, text, htext, hdenotes, hle, hadvances⟩ := hsuffix
      have hwhole := hcounted.trans hadvances
      rw [Nat.add_comm, Nat.zero_add] at hwhole
      exact ⟨depth, values + 1, items, before, text, hbefore, by rw [hsplit, ← htext, hrest],
        hdenotes, hle, hwhole⟩
    split_ifs at hread with hnull htrue hfalse hquote harray hobject hnumber
    · obtain ⟨rfl, htext, hadvances⟩ := literalValue_sound hread
      exact ⟨0, 0, 0, _, htext, .null, houter, hadvances⟩
    · obtain ⟨rfl, htext, hadvances⟩ := literalValue_sound hread
      exact ⟨0, 0, 0, _, htext, .true, houter, hadvances⟩
    · obtain ⟨rfl, htext, hadvances⟩ := literalValue_sound hread
      exact ⟨0, 0, 0, _, htext, .false, houter, hadvances⟩
    · subst hquote
      obtain ⟨text, output, hstring, rfl, htext, hadvances⟩ := stringValue_sound hrest hread
      exact ⟨0, 0, 0, _, htext, .string hstring, houter, hadvances⟩
    · subst harray
      exact h.array hrest hread
    · subst hobject
      exact h.object hrest hread
    · obtain ⟨text, hnumber, rfl, htext, hadvances⟩ := numberValue_sound hread
      exact ⟨0, 0, 0, _, htext, .number hnumber, houter, hadvances⟩
    · cases hread

lemma ReadsOnly.elements_step {elements : List Value} (houter : outer ≤ limits.maxDepth)
    (hrun : parseElements limits (fuel + 1) outer cursor = .ok (elements, cursor')) :
    ∃ depth values items text, cursor.rest = text ++ 93 :: cursor'.rest ∧
      Denotes depth values items text (.elements elements) ∧ outer + depth ≤ limits.maxDepth ∧
      Advances limits values items cursor cursor' := by
  rw [parseElements] at hrun
  obtain ⟨counted, hcounted, hrun⟩ := bind_ok.mp hrun
  obtain ⟨hrest, hitem⟩ := consumeContainerItem_sound hcounted
  obtain ⟨⟨value, read⟩, hvalue, hrun⟩ := bind_ok.mp hrun
  obtain ⟨depth, values, items, before, text, hbefore, htext, hdenotes, hle, hadvances⟩ :=
    h.value _ _ _ _ houter hvalue
  obtain ⟨⟨closed, separated⟩, hseparator, hrun⟩ := bind_ok.mp hrun
  obtain ⟨hseparated, after, hafter, hsplit⟩ := parseSeparator_sound hseparator
  have hsofar := (hitem.trans hadvances).trans hseparated
  cases closed with
  | true =>
    cases hrun
    refine ⟨depth, values, items + 1, _, ?_, .element hbefore hdenotes hafter, hle, ?_⟩
    · rw [← hrest, htext, hsplit]
      simp
    · convert hsofar using 1 <;> omega
  | false =>
    obtain ⟨⟨others, reached⟩, hothers, hrun⟩ := bind_ok.mp hrun
    cases hrun
    obtain ⟨depth', values', items', rest, hrest', hdenotes', hle', hadvances'⟩ :=
      h.elements _ _ _ _ houter hothers
    refine ⟨max depth depth', values + values', items + 1 + items', _, ?_,
      .elements hbefore hdenotes hafter hdenotes', by omega, ?_⟩
    · rw [← hrest, htext, hsplit, hrest']
      simp
    · convert hsofar.trans hadvances' using 1 <;> omega

lemma ReadsOnly.members_step {held result : List (Text × Value)}
    (houter : outer ≤ limits.maxDepth)
    (hrun : parseMembers limits (fuel + 1) outer held cursor = .ok (result, cursor')) :
    ∃ depth values items text members, cursor.rest = text ++ 125 :: cursor'.rest ∧
      Denotes depth values items text (.members members) ∧ outer + depth ≤ limits.maxDepth ∧
      Advances limits values items cursor cursor' ∧ (members.map (·.1)).Nodup ∧
      (∀ member ∈ members, held.lookup member.1 = none) ∧
      result = members.foldl (fun values member => emplace member.1 member.2 values) held := by
  rw [parseMembers] at hrun
  obtain ⟨⟨key, named⟩, hkey, hrun⟩ := bind_ok.mp hrun
  obtain ⟨hitem, hfresh, before, name, middle, hbefore, hname, hmiddle, hrest⟩ :=
    parseKey_sound hkey
  obtain ⟨⟨value, read⟩, hvalue, hrun⟩ := bind_ok.mp hrun
  obtain ⟨depth, values, items, between, text, hbetween, htext, hdenotes, hle, hadvances⟩ :=
    h.value _ _ _ _ houter hvalue
  obtain ⟨⟨closed, separated⟩, hseparator, hrun⟩ := bind_ok.mp hrun
  obtain ⟨hseparated, after, hafter, hsplit⟩ := parseSeparator_sound hseparator
  have hsofar := (hitem.trans hadvances).trans hseparated
  cases closed with
  | true =>
    cases hrun
    refine ⟨depth, values, items + 1, _, [(key, value)], ?_,
      .member hbefore hname hmiddle hbetween hdenotes hafter, hle, ?_, by simp, ?_,
      rfl⟩
    · rw [hrest, htext, hsplit]
      simp
    · convert hsofar using 1 <;> omega
    · intro member hmember
      rw [List.mem_singleton.mp hmember]
      exact hfresh
  | false =>
    obtain ⟨depth', values', items', rest, members, hrest', hdenotes', hle', hadvances',
      hdistinct, hothers, rfl⟩ := h.members _ _ _ _ _ houter hrun
    refine ⟨max depth depth', values + values', items + 1 + items', _, (key, value) :: members,
      ?_, .members hbefore hname hmiddle hbetween hdenotes hafter hdenotes', by omega, ?_, ?_, ?_,
      rfl⟩
    · rw [hrest, htext, hsplit, hrest']
      simp
    · convert hsofar.trans hadvances' using 1 <;> omega
    · refine List.nodup_cons.mpr ⟨?_, hdistinct⟩
      intro hmem
      obtain ⟨member, hmember, heq⟩ := List.mem_map.mp hmem
      exact (lookup_emplace_none (hothers member hmember)).1 heq
    · intro member hmember
      rcases List.mem_cons.mp hmember with rfl | hmember
      · exact hfresh
      · exact (lookup_emplace_none (hothers member hmember)).2

end Containers

lemma readsOnly (limits : Limits) (fuel : ℕ) : ReadsOnly limits fuel := by
  induction fuel with
  | zero =>
    refine ⟨?_, ?_, ?_⟩
    · intro outer cursor value cursor' _ hrun
      rw [parseValue] at hrun
      cases hrun
    · intro outer cursor elements cursor' _ hrun
      rw [parseElements] at hrun
      cases hrun
    · intro outer held cursor result cursor' _ hrun
      rw [parseMembers] at hrun
      cases hrun
  | succ fuel ih =>
    exact ⟨fun _ _ _ _ => ih.value_step, fun _ _ _ _ => ih.elements_step,
      fun _ _ _ _ _ => ih.members_step⟩

lemma parse_sound {options : ParseOptions} {input : Text} {value : Value}
    (h : parse input options = .ok value) : Accepts options input value := by
  obtain ⟨hlength, h⟩ := guard_ok.mp h
  obtain ⟨⟨root, cursor⟩, hvalue, h⟩ := bind_ok.mp h
  obtain ⟨hend, h⟩ := guard_ok.mp h
  cases h
  obtain ⟨blank, hblank, hinput⟩ := skipWhitespace_split input
  obtain ⟨depth, values, items, before, text, hbefore, htext, hdenotes, hdepth, hadvances⟩ :=
    (readsOnly _ _).value _ _ _ _ (Nat.zero_le _) hvalue
  obtain ⟨after, hafter, hrest⟩ := skipWhitespace_split cursor.rest
  refine ⟨Nat.le_of_not_lt hlength, depth, values, items, blank ++ before, text, after,
    hblank.append hbefore, hafter, ?_, hdenotes, ?_, ?_, ?_⟩
  · rw [Decidable.not_not.mp hend, List.append_nil] at hrest
    dsimp only at htext
    rw [hinput, htext, hrest, List.append_assoc]
  · simpa using hdepth
  · have hvalues := hadvances.values_le (Nat.zero_le _)
    rwa [hadvances.values_eq, Nat.zero_add] at hvalues
  · have hitems := hadvances.items_le (Nat.zero_le _)
    rwa [hadvances.items_eq, Nat.zero_add] at hitems

theorem parse_ok_iff (options : ParseOptions) (input : Text) (value : Value) :
    parse input options = .ok value ↔ Accepts options input value :=
  ⟨parse_sound, parse_complete⟩

end Qwen3xOrin.Io.Json
