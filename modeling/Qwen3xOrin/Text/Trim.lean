import Qwen3xOrin.Text.Chat
import Mathlib.Data.List.DropRight

/-! Trimming: what is left of a text once the white space at its two ends is gone. -/

namespace Qwen3xOrin.Text

open Library

-- A code point with the bytes that spell it.
abbrev Segment := ℕ × Bytes

def spelling (segments : List Segment) : Bytes := segments.flatMap Prod.snd

lemma spelling_cons (segment : Segment) (segments : List Segment) :
    spelling (segment :: segments) = segment.2 ++ spelling segments := rfl

lemma spelling_append (left right : List Segment) :
    spelling (left ++ right) = spelling left ++ spelling right := List.flatMap_append

inductive Decodes : Bytes → List Segment → Prop
  | nil : Decodes [] []
  | cons {codepoint : ℕ} {piece rest : Bytes} {segments : List Segment}
      (hpiece : decodeUtf8At (piece ++ rest) = some (codepoint, rest))
      (hrest : Decodes rest segments) : Decodes (piece ++ rest) ((codepoint, piece) :: segments)

lemma Decodes.spelled {input : Bytes} {segments : List Segment} (h : Decodes input segments) :
    spelling segments = input := by
  induction h with
  | nil => rfl
  | cons hpiece hrest ih => rw [spelling_cons, ih]

lemma decodeUtf8At_suffix {symbols rest : Bytes} {codepoint : ℕ}
    (h : decodeUtf8At symbols = some (codepoint, rest)) : ∃ piece, symbols = piece ++ rest := by
  match symbols with
  | [] => cases h
  | byte :: tail =>
    unfold decodeUtf8At at h
    dsimp only at h
    split_ifs at h with hone htwo hthree hfour
    · cases h
      exact ⟨[byte], rfl⟩
    · match tail, h with
      | b1 :: tail, h =>
        dsimp only at h
        split_ifs at h
        cases h
        exact ⟨[byte, b1], rfl⟩
    · match tail, h with
      | b1 :: b2 :: tail, h =>
        dsimp only at h
        split_ifs at h
        cases h
        exact ⟨[byte, b1, b2], rfl⟩
    · match tail, h with
      | b1 :: b2 :: b3 :: tail, h =>
        dsimp only at h
        split_ifs at h
        cases h
        exact ⟨[byte, b1, b2, b3], rfl⟩

section Scan

variable (space : ℕ → Bool)

def trimSegments (segments : List Segment) : List Segment :=
  (segments.dropWhile fun segment => space segment.1).rdropWhile fun segment => space segment.1

def scan : ℕ → List Segment → TrimState → TrimState
  | _, [], state => state
  | offset, (codepoint, piece) :: segments, state =>
    if space codepoint then scan (offset + piece.length) segments state
    else
      scan (offset + piece.length) segments
        { start := if state.sawNonspace then state.start else offset
          stop := offset + piece.length
          sawNonspace := true }

lemma scan_cons (offset codepoint : ℕ) (piece : Bytes) (segments : List Segment)
    (state : TrimState) :
    scan space offset ((codepoint, piece) :: segments) state =
      if space codepoint then scan space (offset + piece.length) segments state
      else
        scan space (offset + piece.length) segments
          { start := if state.sawNonspace then state.start else offset
            stop := offset + piece.length
            sawNonspace := true } := rfl

variable {space}

lemma rdropWhile_cons {α : Type} (p : α → Bool) (a : α) (l : List α) :
    (a :: l).rdropWhile p =
      if l.rdropWhile p = [] ∧ p a = true then [] else a :: l.rdropWhile p := by
  induction l using List.reverseRecOn with
  | nil => simp [List.rdropWhile_singleton]
  | append_singleton l b ih =>
    rw [← List.cons_append, List.rdropWhile_concat, List.rdropWhile_concat]
    by_cases hb : p b = true
    · rw [if_pos hb, if_pos hb, ih]
    · rw [if_neg hb, if_neg hb, if_neg (by simp)]
      rfl

lemma scan_seen (segments : List Segment) (offset start stop : ℕ) :
    scan space offset segments ⟨start, stop, true⟩ =
      ⟨start, if segments.rdropWhile (fun segment => space segment.1) = [] then stop
        else offset + (spelling (segments.rdropWhile fun segment => space segment.1)).length,
        true⟩ := by
  induction segments generalizing offset stop with
  | nil => simp [scan, List.rdropWhile_nil]
  | cons segment segments ih =>
    obtain ⟨codepoint, piece⟩ := segment
    rw [scan_cons, rdropWhile_cons]
    by_cases hspace : space codepoint = true
    · rw [if_pos hspace, ih]
      by_cases hrest : segments.rdropWhile (fun segment => space segment.1) = []
      · simp [hrest, hspace]
      · simp [hrest, spelling_cons, Nat.add_assoc]
    · rw [if_neg hspace]
      dsimp only
      rw [if_pos rfl, ih]
      by_cases hrest : segments.rdropWhile (fun segment => space segment.1) = []
      · simp [hrest, hspace, spelling]
      · simp [hrest, spelling_cons, Nat.add_assoc]

lemma scan_unseen (segments : List Segment) (offset : ℕ) :
    scan space offset segments {} =
      if trimSegments space segments = [] then {}
      else
        { start := offset +
            (spelling (segments.takeWhile fun segment => space segment.1)).length
          stop := offset +
            (spelling (segments.takeWhile fun segment => space segment.1)).length +
            (spelling (trimSegments space segments)).length
          sawNonspace := true } := by
  induction segments generalizing offset with
  | nil => simp [scan, trimSegments, List.rdropWhile_nil]
  | cons segment segments ih =>
    obtain ⟨codepoint, piece⟩ := segment
    rw [scan_cons]
    by_cases hspace : space codepoint = true
    · have htrim : trimSegments space ((codepoint, piece) :: segments) =
          trimSegments space segments := by
        simp [trimSegments, hspace]
      rw [if_pos hspace, ih, htrim]
      simp [hspace, spelling_cons, Nat.add_assoc]
    · have htrim : trimSegments space ((codepoint, piece) :: segments) =
          (codepoint, piece) :: segments.rdropWhile fun segment => space segment.1 := by
        rw [trimSegments, List.dropWhile_cons_of_neg (by simpa using hspace), rdropWhile_cons,
          if_neg (by simp [hspace])]
      rw [if_neg hspace, scan_seen, htrim, if_neg (List.cons_ne_nil _ _)]
      by_cases hrest : segments.rdropWhile (fun segment => space segment.1) = []
      · simp [hrest, hspace, spelling]
      · simp [hrest, hspace, spelling, Nat.add_assoc]

end Scan

section Trimmed

variable {isUWhiteSpace : ℕ → Bool} {input rest : Bytes} {segments : List Segment}
  {state : TrimState}

lemma trimLoop_decodes (h : Decodes rest segments) {fuel : ℕ} (hfuel : rest.length ≤ fuel)
    (hinput : rest.length ≤ input.length) :
    trimLoop isUWhiteSpace input fuel rest state = .ok
      (scan (isTrimmed isUWhiteSpace) (input.length - rest.length) segments state) := by
  induction h generalizing fuel state with
  | nil => cases fuel <;> rfl
  | @cons codepoint piece rest segments hpiece hrest ih =>
    obtain ⟨-, hshorter⟩ := decodeUtf8At_append hpiece []
    rw [List.length_append] at hshorter hfuel hinput
    obtain ⟨byte, bytes, hbytes⟩ : ∃ byte bytes, piece ++ rest = byte :: bytes := by
      cases piece with
      | nil => simp at hshorter
      | cons byte piece => exact ⟨byte, piece ++ rest, rfl⟩
    obtain ⟨fuel, rfl⟩ : ∃ less, fuel = less + 1 := ⟨fuel - 1, by omega⟩
    have hoffset : input.length - (piece ++ rest).length + piece.length =
        input.length - rest.length := by
      rw [List.length_append]
      omega
    rw [scan_cons, hbytes, trimLoop, ← hbytes, hpiece]
    dsimp only
    rw [hoffset]
    by_cases hspace : isTrimmed isUWhiteSpace codepoint = true
    · rw [if_pos hspace, if_pos hspace]
      exact ih (by omega) (by omega)
    · rw [if_neg hspace, if_neg hspace]
      exact ih (by omega) (by omega)

lemma decodes_of_trimLoop {fuel : ℕ} {reached : TrimState} (hfuel : rest.length ≤ fuel)
    (h : trimLoop isUWhiteSpace input fuel rest state = .ok reached) :
    ∃ segments, Decodes rest segments := by
  induction fuel generalizing rest state with
  | zero =>
    rw [List.length_eq_zero_iff.mp (Nat.le_zero.mp hfuel)]
    exact ⟨[], .nil⟩
  | succ fuel ih =>
    cases rest with
    | nil => exact ⟨[], .nil⟩
    | cons byte bytes =>
      rw [trimLoop] at h
      cases hdecoded : decodeUtf8At (byte :: bytes) with
      | none =>
        rw [hdecoded] at h
        cases h
      | some decoded =>
        obtain ⟨codepoint, rest⟩ := decoded
        obtain ⟨-, hshorter⟩ := decodeUtf8At_append hdecoded []
        obtain ⟨piece, hpiece⟩ := decodeUtf8At_suffix hdecoded
        rw [hdecoded] at h
        dsimp only at h
        have hless : rest.length ≤ fuel := by
          rw [List.length_cons] at hshorter hfuel
          omega
        obtain ⟨segments, hsegments⟩ : ∃ segments, Decodes rest segments := by
          by_cases hspace : isTrimmed isUWhiteSpace codepoint = true
          · rw [if_pos hspace] at h
            exact ih hless h
          · rw [if_neg hspace] at h
            exact ih hless h
        rw [hpiece] at hdecoded ⊢
        exact ⟨_, .cons hdecoded hsegments⟩

-- The scan keeps the two offsets between which the trimmed text lies.
lemma scan_text (h : Decodes input segments) :
    (if (scan (isTrimmed isUWhiteSpace) 0 segments {}).sawNonspace then
        (input.drop (scan (isTrimmed isUWhiteSpace) 0 segments {}).start).take
          ((scan (isTrimmed isUWhiteSpace) 0 segments {}).stop -
            (scan (isTrimmed isUWhiteSpace) 0 segments {}).start)
      else []) = spelling (trimSegments (isTrimmed isUWhiteSpace) segments) := by
  rw [scan_unseen]
  by_cases hempty : trimSegments (isTrimmed isUWhiteSpace) segments = []
  · rw [if_pos hempty, hempty]
    rfl
  · rw [if_neg hempty, if_pos rfl, ← h.spelled]
    dsimp only
    have hsplit : spelling segments =
        spelling (segments.takeWhile fun segment => isTrimmed isUWhiteSpace segment.1) ++
          (spelling (trimSegments (isTrimmed isUWhiteSpace) segments) ++
            spelling ((segments.dropWhile fun segment =>
              isTrimmed isUWhiteSpace segment.1).rtakeWhile fun segment =>
                isTrimmed isUWhiteSpace segment.1)) := by
      rw [← spelling_append, ← spelling_append, trimSegments, List.rdropWhile_append_rtakeWhile,
        List.takeWhile_append_dropWhile]
    rw [hsplit, Nat.zero_add, List.drop_left, Nat.add_sub_cancel_left, List.take_left]

lemma trimUnicode_ok {content : Bytes} :
    trimUnicode isUWhiteSpace input = .ok content ↔
      ∃ segments, Decodes input segments ∧
        content = spelling (trimSegments (isTrimmed isUWhiteSpace) segments) := by
  unfold trimUnicode
  rw [bind_ok]
  constructor
  · rintro ⟨state, hstate, hcontent⟩
    obtain ⟨segments, hsegments⟩ := decodes_of_trimLoop le_rfl hstate
    rw [trimLoop_decodes hsegments le_rfl le_rfl, Nat.sub_self] at hstate
    obtain rfl := Except.ok.inj hstate
    exact ⟨segments, hsegments, ((scan_text hsegments).symm.trans (Except.ok.inj hcontent)).symm⟩
  · rintro ⟨segments, hsegments, rfl⟩
    refine ⟨_, trimLoop_decodes hsegments le_rfl le_rfl, ?_⟩
    rw [Nat.sub_self]
    exact congrArg Except.ok (scan_text hsegments)

end Trimmed

end Qwen3xOrin.Text
