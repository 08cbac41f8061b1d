import Mathlib.Tactic
import Mathlib.Data.List.Infix

/-! Cutting a text at the leftmost occurrences of marker words. When no two occurrences overlap,
the cut is unique and respects concatenation around a marker. -/

namespace Qwen3xOrin.Library

variable {α ι : Type}

def OccursAt (text word : List α) (p : ℕ) : Prop := word <+: text.drop p

inductive Piece (α ι : Type)
  | plain (text : List α)
  | marker (i : ι)
  deriving DecidableEq, Repr

def plainOf (text : List α) : List (Piece α ι) := if text = [] then [] else [.plain text]

section Cut

variable (content : ι → List α) (markers : List ι)

structure Separable : Prop where
  nonempty : ∀ i ∈ markers, content i ≠ []
  overlap : ∀ i ∈ markers, ∀ j ∈ markers, ∀ text p q, OccursAt text (content i) p →
    OccursAt text (content j) q → p ≤ q → q < p + (content i).length → p = q ∧ i = j

inductive Cuts : List α → List (Piece α ι) → Prop
  | last {text : List α} (hnone : ∀ i ∈ markers, ∀ p < text.length, ¬ OccursAt text (content i) p) :
      Cuts text (plainOf text)
  | step {before rest : List α} {i : ι} {pieces : List (Piece α ι)} (hi : i ∈ markers)
      (hfirst : ∀ j ∈ markers, ∀ p < before.length,
        ¬ OccursAt (before ++ content i ++ rest) (content j) p)
      (hrest : Cuts rest pieces) :
      Cuts (before ++ content i ++ rest) (plainOf before ++ .marker i :: pieces)

end Cut

lemma mem_plainOf {text plain : List α} :
    (Piece.plain plain : Piece α ι) ∈ plainOf text ↔ plain = text ∧ plain ≠ [] := by
  unfold plainOf
  split_ifs with hnil
  · simp [hnil]
  · rw [List.mem_singleton, Piece.plain.injEq]
    exact ⟨fun h => ⟨h, h ▸ hnil⟩, And.left⟩

lemma OccursAt.append {text word : List α} {p : ℕ} (h : OccursAt text word p) (more : List α) :
    OccursAt (text ++ more) word p := by
  by_cases hp : p ≤ text.length
  · rw [OccursAt, List.drop_append_of_le_length hp]
    exact h.trans (List.prefix_append _ _)
  · rw [OccursAt, List.drop_eq_nil_of_le (by omega), List.prefix_nil] at h
    rw [h]
    exact List.nil_prefix

lemma OccursAt.of_append {text more word : List α} {p : ℕ} (h : OccursAt (text ++ more) word p)
    (hlen : p + word.length ≤ text.length) : OccursAt text word p := by
  rw [OccursAt, List.drop_append_of_le_length (by omega)] at h
  exact List.prefix_of_prefix_length_le h (List.prefix_append _ _) (by rw [List.length_drop]; omega)

lemma occursAt_middle (before word rest : List α) :
    OccursAt (before ++ word ++ rest) word before.length := by
  rw [OccursAt, List.append_assoc, List.drop_left]
  exact List.prefix_append _ _

lemma occursAt_drop {text word : List α} {cursor p : ℕ} :
    OccursAt (text.drop cursor) word p ↔ OccursAt text word (cursor + p) := by
  rw [OccursAt, List.drop_drop, OccursAt]

namespace Cuts

variable {content : ι → List α} {markers : List ι}

-- Nothing that starts before a marker reaches into it.
lemma not_before (hsep : Separable content markers) {text more before : List α} {i j : ι}
    (hi : i ∈ markers) (hj : j ∈ markers) {p : ℕ}
    (hmarker : OccursAt (text ++ more) (content i) before.length) (hp : p < before.length)
    (hlen : before.length ≤ text.length) (hnone : ¬ OccursAt text (content j) p) :
    ¬ OccursAt (text ++ more) (content j) p := by
  intro hoccurs
  by_cases hinside : p + (content j).length ≤ text.length
  · exact hnone (hoccurs.of_append hinside)
  · have := (hsep.overlap j hj i hi _ _ _ hoccurs hmarker (by omega) (by omega)).1
    omega

lemma join (hsep : Separable content markers) {left right : List α}
    {pieces pieces' : List (Piece α ι)} (h : Cuts content markers left pieces)
    (h' : Cuts content markers right pieces') {i : ι} (hi : i ∈ markers) :
    Cuts content markers (left ++ content i ++ right) (pieces ++ .marker i :: pieces') := by
  induction h with
  | @last text hnone =>
    refine .step hi ?_ h'
    intro j hj p hp
    have hmarker := occursAt_middle text (content i) right
    rw [List.append_assoc] at hmarker ⊢
    exact not_before hsep hi hj hmarker hp le_rfl (hnone j hj p hp)
  | @step before rest k pieces hk hfirst hrest ih =>
    have htext : before ++ content k ++ rest ++ content i ++ right =
        before ++ content k ++ (rest ++ content i ++ right) := by simp
    have hpieces : plainOf before ++ Piece.marker k :: pieces ++ Piece.marker i :: pieces' =
        plainOf before ++ Piece.marker k :: (pieces ++ Piece.marker i :: pieces') := by simp
    rw [htext, hpieces]
    refine .step hk ?_ ih
    intro j hj p hp
    have hmarker := occursAt_middle before (content k) (rest ++ content i ++ right)
    have hmore : before ++ content k ++ (rest ++ content i ++ right) =
        before ++ content k ++ rest ++ (content i ++ right) := by simp
    rw [hmore] at hmarker ⊢
    exact not_before hsep hk hj hmarker hp (by simp) (hfirst j hj p hp)

lemma position_eq {before before' rest rest' : List α} {i j : ι}
    (htext : before ++ content i ++ rest = before' ++ content j ++ rest')
    (hfirst : ∀ p < before'.length, ¬ OccursAt (before' ++ content j ++ rest') (content i) p) :
    before'.length ≤ before.length := by
  by_contra hlt
  exact hfirst before.length (by omega) (htext ▸ occursAt_middle before (content i) rest)

lemma unique (hsep : Separable content markers) {text : List α} {pieces pieces' : List (Piece α ι)}
    (h : Cuts content markers text pieces) (h' : Cuts content markers text pieces') :
    pieces = pieces' := by
  have hlt : ∀ {before rest : List α} {i : ι}, i ∈ markers →
      before.length < (before ++ content i ++ rest).length := by
    intro before rest i hi
    have := List.length_pos_iff.mpr (hsep.nonempty i hi)
    simp only [List.length_append]
    omega
  induction h generalizing pieces' with
  | @last text hnone =>
    generalize htext : text = text' at h'
    cases h' with
    | last => rfl
    | @step before rest i pieces hi hfirst hrest =>
      subst htext
      exact absurd (occursAt_middle before (content i) rest) (hnone i hi _ (hlt hi))
  | @step before rest i pieces hi hfirst hrest ih =>
    generalize htext : before ++ content i ++ rest = text at h'
    cases h' with
    | last hnone =>
      subst htext
      exact absurd (occursAt_middle before (content i) rest) (hnone i hi _ (hlt hi))
    | @step before' rest' j pieces' hj hfirst' hrest' =>
      have hlength : before.length = before'.length := by
        have hle := position_eq htext (hfirst' i hi)
        have hge := position_eq htext.symm (hfirst j hj)
        omega
      have hsame := hsep.overlap i hi j hj _ _ _ (occursAt_middle before (content i) rest)
        (htext ▸ hlength ▸ occursAt_middle before' (content j) rest') le_rfl (by
          have := List.length_pos_iff.mpr (hsep.nonempty i hi)
          omega)
      obtain ⟨-, rfl⟩ := hsame
      rw [List.append_assoc, List.append_assoc] at htext
      obtain ⟨rfl, htail⟩ := List.append_inj htext hlength
      obtain rfl := List.append_cancel_left htail
      rw [ih hrest']

lemma plain_ne_nil {text : List α} {pieces : List (Piece α ι)} (h : Cuts content markers text pieces)
    {plain : List α} (hp : Piece.plain plain ∈ pieces) : plain ≠ [] := by
  induction h with
  | last => exact (mem_plainOf.1 hp).2
  | step hi hfirst hrest ih =>
    simp only [List.mem_append, List.mem_cons, reduceCtorEq, false_or] at hp
    obtain hp | hp := hp
    · exact (mem_plainOf.1 hp).2
    · exact ih hp

-- No marker occurs inside a plain piece.
lemma plain_free (hsep : Separable content markers) {text : List α} {pieces : List (Piece α ι)}
    (h : Cuts content markers text pieces) {plain : List α} (hp : Piece.plain plain ∈ pieces)
    {i : ι} (hi : i ∈ markers) : ¬ content i <:+: plain := by
  rintro ⟨left, right, hinfix⟩
  have hoccurs : OccursAt plain (content i) left.length := by
    rw [← hinfix]
    exact occursAt_middle left (content i) right
  have hlt : left.length < plain.length := by
    have := List.length_pos_iff.mpr (hsep.nonempty i hi)
    rw [← hinfix]
    simp only [List.length_append]
    omega
  induction h with
  | last hnone =>
    obtain ⟨rfl, -⟩ := mem_plainOf.1 hp
    exact hnone i hi _ hlt hoccurs
  | step hj hfirst hrest ih =>
    simp only [List.mem_append, List.mem_cons, reduceCtorEq, false_or] at hp
    obtain hp | hp := hp
    · obtain ⟨rfl, -⟩ := mem_plainOf.1 hp
      rw [List.append_assoc] at hfirst
      exact hfirst i hi _ hlt (hoccurs.append _)
    · exact ih hp

end Cuts

-- Words that open and close with letters they hold nowhere else cannot overlap.
def Delimited (opening closing : α) (word : List α) : Prop :=
  ∃ body, word = opening :: (body ++ [closing]) ∧ opening ∉ body ∧ closing ∉ body

section Delimited

variable {opening closing : α} {u v : List α}

lemma Delimited.eq_of_front (hu : Delimited opening closing u) (hv : Delimited opening closing v)
    (h : u <+: v) : u = v := by
  obtain ⟨body, rfl, -, -⟩ := hu
  obtain ⟨body', rfl, -, hclosing⟩ := hv
  obtain ⟨rest, hrest⟩ := h
  simp only [List.cons_append, List.cons.injEq, true_and, List.append_assoc,
    List.nil_append] at hrest
  -- The closing letter of the shorter word would lie inside the longer one.
  obtain ⟨m, rfl, hm⟩ | ⟨m, rfl, hm⟩ := List.append_eq_append_iff.mp hrest
  · cases m with
    | nil => simp
    | cons a m =>
      simp only [List.cons_append, List.cons.injEq] at hm
      obtain ⟨rfl, -⟩ := hm
      exact absurd (by simp) hclosing
  · cases m with
    | nil => simp
    | cons a m =>
      simp only [List.cons_append, List.cons.injEq] at hm
      exact absurd hm.2 (by simp)

lemma Delimited.not_inside (hne : opening ≠ closing) (hu : Delimited opening closing u)
    (hv : Delimited opening closing v) {text : List α} {d : ℕ} (hfront : u <+: text)
    (hoccurs : OccursAt text v d) (hpos : 0 < d) : u.length ≤ d := by
  by_contra hlt
  obtain ⟨body, rfl, hopening, -⟩ := hu
  obtain ⟨body', rfl, -, -⟩ := hv
  have hletter : text[d]? = some opening := by
    obtain ⟨rest, hrest⟩ := hoccurs
    rw [← List.head?_drop, ← hrest]
    rfl
  obtain ⟨rest, rfl⟩ := hfront
  rw [List.getElem?_append_left (by omega)] at hletter
  obtain ⟨d, rfl⟩ : ∃ m, d = m + 1 := ⟨d - 1, by omega⟩
  rw [List.getElem?_cons_succ] at hletter
  have hmem := List.mem_of_getElem? hletter
  simp only [List.mem_append, List.mem_singleton] at hmem
  exact hmem.elim hopening hne

lemma separable_of_delimited {content : ι → List α} {markers : List ι}
    (hne : opening ≠ closing) (hd : ∀ i ∈ markers, Delimited opening closing (content i))
    (hinj : ∀ i ∈ markers, ∀ j ∈ markers, content i = content j → i = j) :
    Separable content markers where
  nonempty i hi := by
    obtain ⟨body, hbody, -⟩ := hd i hi
    rw [hbody]
    exact List.cons_ne_nil _ _
  overlap i hi j hj text p q hp hq hle hlt := by
    obtain ⟨d, rfl⟩ : ∃ d, q = p + d := ⟨q - p, by omega⟩
    rw [← occursAt_drop] at hq
    obtain rfl | hpos := Nat.eq_zero_or_pos d
    · rw [OccursAt, List.drop_zero] at hq
      refine ⟨rfl, hinj i hi j hj ?_⟩
      obtain h | h := List.prefix_or_prefix_of_prefix hp hq
      · exact (hd i hi).eq_of_front (hd j hj) h
      · exact ((hd j hj).eq_of_front (hd i hi) h).symm
    · have := (hd i hi).not_inside hne (hd j hj) hp hq hpos
      omega

end Delimited

end Qwen3xOrin.Library
