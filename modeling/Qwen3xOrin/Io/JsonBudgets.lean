import Mathlib.Algebra.Order.BigOperators.Group.List
import Qwen3xOrin.Io.JsonSound

/-! What a value costs of the parser's budgets, however it is written, and the one value that a
text denotes. -/

namespace Qwen3xOrin.Io.Json

open Library

section Objects

variable {members : List (Text × Value)}

lemma lookup_emplace_fresh {key : Text} (h : members.lookup key = none) (value : Value) :
    (emplace key value members).lookup key = some value := by
  induction members with
  | nil => simp [emplace]
  | cons member members ih =>
    obtain ⟨other, held⟩ := member
    rw [List.lookup_cons] at h
    cases hkey : key == other with
    | true =>
      rw [hkey] at h
      cases h
    | false =>
      rw [hkey] at h
      rw [emplace]
      split_ifs
      · simp
      · rw [List.lookup_cons, hkey]
        exact ih h

lemma lookup_foldl_emplace {key : Text} {held : List (Text × Value)}
    (h : key ∉ members.map (·.1)) :
    (members.foldl (fun values member => emplace member.1 member.2 values) held).lookup key =
      held.lookup key := by
  induction members generalizing held with
  | nil => rfl
  | cons member members ih =>
    rw [List.map_cons, List.mem_cons, not_or] at h
    rw [List.foldl_cons, ih h.2, lookup_emplace_ne h.1]

lemma lookup_objectOf (hnodup : (members.map (·.1)).Nodup) {member : Text × Value}
    (hmember : member ∈ members) : (objectOf members).lookup member.1 = some member.2 := by
  obtain ⟨before, after, rfl⟩ := List.append_of_mem hmember
  rw [List.map_append, List.map_cons, List.nodup_append, List.nodup_cons] at hnodup
  obtain ⟨-, ⟨hafter, -⟩, hbefore⟩ := hnodup
  have hfresh : member.1 ∉ before.map (·.1) := fun hmem =>
    hbefore _ hmem _ List.mem_cons_self rfl
  rw [objectOf, List.foldl_append, List.foldl_cons, lookup_foldl_emplace hafter,
    lookup_emplace_fresh]
  rw [lookup_foldl_emplace hfresh]
  rfl

lemma mem_of_lookup {key : Text} {value : Value} (h : members.lookup key = some value) :
    (key, value) ∈ members := by
  induction members with
  | nil => cases h
  | cons member members ih =>
    obtain ⟨other, held⟩ := member
    rw [List.lookup_cons] at h
    cases hkey : key == other with
    | true =>
      rw [hkey] at h
      cases h
      rw [eq_of_beq hkey]
      exact List.mem_cons_self
    | false =>
      rw [hkey] at h
      exact List.mem_cons_of_mem _ (ih h)

end Objects

-- However the value is written: at most this depth, as many values, as many container items.
structure Costs (depth values items : ℕ) (construct : Construct) : Prop where
  bound : ∀ {depth' values' items' : ℕ} {text : Text},
    Denotes depth' values' items' text construct →
      depth' ≤ depth ∧ values' ≤ values ∧ items' ≤ items

section Costs

variable {depth values items : ℕ}

lemma Costs.mono {construct : Construct} {depth' : ℕ} (h : Costs depth values items construct)
    (hdepth : depth ≤ depth') : Costs depth' values items construct :=
  ⟨fun hdenotes => ⟨(h.bound hdenotes).1.trans hdepth, (h.bound hdenotes).2⟩⟩

lemma Costs.null : Costs 0 1 0 (.value .null) :=
  ⟨fun h => by cases h; exact ⟨le_rfl, le_rfl, le_rfl⟩⟩

lemma Costs.bool (value : Bool) : Costs 0 1 0 (.value (.bool value)) :=
  ⟨fun h => by cases h <;> exact ⟨le_rfl, le_rfl, le_rfl⟩⟩

lemma Costs.number (text : Text) : Costs 0 1 0 (.value (.number text)) :=
  ⟨fun h => by cases h; exact ⟨le_rfl, le_rfl, le_rfl⟩⟩

lemma Costs.string (text : Text) : Costs 0 1 0 (.value (.string text)) :=
  ⟨fun h => by cases h; exact ⟨le_rfl, le_rfl, le_rfl⟩⟩

lemma Costs.elements {elements : List Value}
    (h : ∀ value ∈ elements, Costs 0 1 0 (.value value)) :
    Costs 0 elements.length elements.length (.elements elements) := by
  constructor
  intro depth' values' items' text hdenotes
  induction elements generalizing depth' values' items' text with
  | nil => cases hdenotes
  | cons value others ih =>
    have hvalue := h value List.mem_cons_self
    have hothers : ∀ other ∈ others, Costs 0 1 0 (.value other) := fun other hother =>
      h other (List.mem_cons_of_mem value hother)
    cases hdenotes with
    | element _ htext _ =>
      have := hvalue.bound htext
      simp only [List.length_cons, List.length_nil]
      omega
    | elements _ htext _ hrest =>
      have := hvalue.bound htext
      have := ih hothers hrest
      rw [List.length_cons]
      omega

lemma Costs.array {elements : List Value}
    (h : ∀ value ∈ elements, Costs 0 1 0 (.value value)) :
    Costs 1 (elements.length + 1) elements.length (.value (.array elements)) := by
  constructor
  intro depth' values' items' text hdenotes
  cases hdenotes with
  | emptyArray => simp
  | array htext =>
    have := (Costs.elements h).bound htext
    omega

lemma Costs.members {members : List (Text × Value)} {values items : Text → ℕ}
    (h : ∀ member ∈ members, Costs depth (values member.1) (items member.1) (.value member.2)) :
    Costs depth (members.map fun member => values member.1).sum
      (members.map fun member => items member.1 + 1).sum (.members members) := by
  constructor
  intro depth' values' items' text hdenotes
  induction members generalizing depth' values' items' text with
  | nil => cases hdenotes
  | cons member others ih =>
    have hvalue := h member List.mem_cons_self
    have hothers := fun other hother => h other (List.mem_cons_of_mem member hother)
    cases hdenotes with
    | member _ _ _ _ htext _ =>
      have := hvalue.bound htext
      simp only [List.map_cons, List.map_nil, List.sum_cons, List.sum_nil] at this ⊢
      omega
    | members _ _ _ _ htext _ hrest =>
      have hfirst := hvalue.bound htext
      have hrest := ih hothers hrest
      dsimp only at hfirst
      rw [List.map_cons, List.sum_cons, List.map_cons, List.sum_cons]
      dsimp only
      omega

-- The keys of an object do not repeat, so each key that may stand in it is paid for once.
lemma Costs.object {object : List (Text × Value)} {allowed : List Text} {values items : Text → ℕ}
    (hallowed : ∀ key value, object.lookup key = some value → key ∈ allowed)
    (h : ∀ key value, object.lookup key = some value →
      Costs depth (values key) (items key) (.value value)) :
    Costs (depth + 1) ((allowed.map values).sum + 1) (allowed.map fun key => items key + 1).sum
      (.value (.object object)) := by
  constructor
  intro depth' values' items' text hdenotes
  generalize hvalue : Construct.value (.object object) = construct at hdenotes
  cases hdenotes with
  | emptyObject => simp
  | object htext hnodup =>
    cases hvalue
    rename_i members
    have hcosts := (Costs.members fun member hmem =>
      h member.1 member.2 (lookup_objectOf hnodup hmem)).bound htext
    have hkeys : (members.map (·.1)).Subperm allowed := by
      refine List.subperm_of_subset hnodup fun key hkey => ?_
      obtain ⟨member, hmem, rfl⟩ := List.mem_map.mp hkey
      exact hallowed member.1 member.2 (lookup_objectOf hnodup hmem)
    have hsum : ∀ weight : Text → ℕ,
        (members.map fun member => weight member.1).sum ≤ (allowed.map weight).sum := by
      intro weight
      obtain ⟨keys, hperm, hsublist⟩ := hkeys
      calc (members.map fun member => weight member.1).sum
          = ((members.map (·.1)).map weight).sum := by rw [List.map_map]; rfl
        _ = (keys.map weight).sum := (hperm.map weight).sum_eq.symm
        _ ≤ (allowed.map weight).sum := (hsublist.map weight).sum_le_sum fun _ _ => Nat.zero_le _
    have hvalues := hsum values
    have hitems := hsum fun key => items key + 1
    omega
  | _ => cases hvalue

end Costs

-- The text of `value`, with the blanks that may stand around it.
def TextOf (input : Text) (value : Value) : Prop :=
  ∃ depth values items before text after, Whitespace before ∧ Whitespace after ∧
    input = before ++ (text ++ after) ∧ Denotes depth values items text (.value value)

section TextOf

variable {input : Text} {value other : Value} {depth values items : ℕ} {options : ParseOptions}

lemma TextOf.parse (h : TextOf input value) (hcosts : Costs depth values items (.value value))
    (hinput : input.length ≤ options.maxInputBytes)
    (hdepth : depth ≤ min options.maxNestingDepth absoluteMaxNestingDepth)
    (hvalues : values ≤ options.maxValues) (hitems : items ≤ options.maxContainerItems) :
    Json.parse input options = .ok value := by
  obtain ⟨depth', values', items', before, text, after, hbefore, hafter, htext, hdenotes⟩ := h
  obtain ⟨hdepth', hvalues', hitems'⟩ := hcosts.bound hdenotes
  exact parse_complete ⟨hinput, depth', values', items', before, text, after, hbefore, hafter,
    htext, hdenotes, hdepth'.trans hdepth, hvalues'.trans hvalues, hitems'.trans hitems⟩

-- A text denotes one value: a parser with room enough for both spellings reads only one.
lemma TextOf.unique (h : TextOf input value)
    (hcosts : Costs depth values items (.value value)) (hdepth : depth ≤ absoluteMaxNestingDepth)
    (hparse : Json.parse input options = .ok other) : other = value := by
  obtain ⟨hinput, depth', values', items', before, text, after, hbefore, hafter, htext, hdenotes,
    hdepth', -, -⟩ := parse_sound hparse
  let generous : ParseOptions :=
    ⟨input.length, absoluteMaxNestingDepth, max values values', max items items'⟩
  have hvalue : Json.parse input generous = .ok value :=
    h.parse hcosts le_rfl (le_min hdepth hdepth) (le_max_left _ _) (le_max_left _ _)
  have hother : Json.parse input generous = .ok other :=
    parse_complete ⟨le_rfl, depth', values', items', before, text, after, hbefore, hafter, htext,
      hdenotes, le_min (hdepth'.trans (min_le_right _ _)) (hdepth'.trans (min_le_right _ _)),
      le_max_right _ _, le_max_right _ _⟩
  exact Except.ok.inj (hother.symm.trans hvalue)

end TextOf

end Qwen3xOrin.Io.Json
