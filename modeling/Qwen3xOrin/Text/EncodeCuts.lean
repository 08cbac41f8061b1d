import Qwen3xOrin.Library.Guard
import Qwen3xOrin.Text.BpeExact
import Qwen3xOrin.Text.Validate

/-! The encoder walks the cut of the text at its added tokens, and what it appends for a piece
does not depend on the pieces before it. -/

namespace Qwen3xOrin.Text

open Library Library.Utf8

def LimitError (error : TokenizerError) : Prop :=
  error.code = .inputTooLarge ∨ error.code = .tooManyTokens

-- What the encoder needs of the Unicode library: no status fails and the matches are in order.
def OrderedMatches : ℕ → List (Option (ℕ × ℕ)) → Prop
  | _, [] => True
  | _, none :: _ => False
  | previousEnd, some (start, stop) :: found =>
    previousEnd ≤ start ∧ start < stop ∧ OrderedMatches stop found

structure IcuSucceeds (icu : Icu) : Prop where
  instance_ok : icu.nfcInstance = none
  normalize_ok : ∀ value, ∃ normalized, icu.normalize value = .ok normalized
  findAll_ok : ∀ value, ∃ found, icu.findAll value = .ok (found, none) ∧ OrderedMatches 0 found

section Pieces

variable (data : EncoderData) (queues : CandidateQueue) (icu : Icu)

lemma referenceBpe_ne_nil {piece : Bytes} (h : piece ≠ []) : referenceBpe data piece ≠ [] := by
  have hall : ∀ n (l : List ℕ), l ≠ [] → mergeAll (bpeRule data) n l ≠ [] := by
    intro n
    induction n with
    | zero => exact fun l hl => hl
    | succ n ih =>
      intro l hl
      cases hm : mergeLowest (bpeRule data) l with
      | none => rwa [mergeAll_done hm]
      | some merged =>
        rw [mergeAll_step hm]
        refine ih merged ?_
        rintro rfl
        -- A single entry has no adjacent pair to merge.
        obtain ⟨a, rfl⟩ := List.length_eq_one_iff.mp (mergeLowest_length hm).symm
        exact nomatch hm
  exact hall _ _ (by simpa using h)

lemma bpePiece_eq (piece : Bytes) (output : List ℕ) :
    bpePiece data queues piece output =
      if piece ≠ [] ∧ data.limits.maxTokens < output.length + (referenceBpe data piece).length then
        setError .tooManyTokens "encoded output exceeds max_tokens"
      else .ok (output ++ referenceBpe data piece) := by
  rw [bpePiece, encodeBpePiece_spec data queues piece output le_rfl]
  rfl

lemma bpePiece_fits {piece : Bytes} {output : List ℕ} :
    Fits data.limits.maxTokens output (referenceBpe data piece) ↔ ¬ (piece ≠ [] ∧
      data.limits.maxTokens < output.length + (referenceBpe data piece).length) := by
  unfold Fits
  by_cases hp : piece = []
  · subst hp
    simp [referenceBpe, referenceMerge, mergeAll]
  · simp only [referenceBpe_ne_nil data hp, false_or, ne_eq, hp, not_false_eq_true, true_and]
    omega

lemma bpePiece_appending (piece : Bytes) :
    Appending data.limits.maxTokens (bpePiece data queues piece) := by
  intro out x h
  rw [bpePiece_eq, setError] at h
  obtain ⟨hfits, h⟩ := guard_ok.mp h
  refine ⟨referenceBpe data piece, (Except.ok.inj h).symm, (bpePiece_fits data).mpr hfits, ?_⟩
  intro other hother
  rw [bpePiece_eq, if_neg ((bpePiece_fits data).mp hother)]

lemma bpePiece_errors (piece : Bytes) : ErrorsIn LimitError (bpePiece data queues piece) := by
  intro out e h
  rw [bpePiece_eq] at h
  split_ifs at h
  obtain rfl := Except.error.inj h
  exact .inr rfl

lemma encodeUnicodePiece_appending (value : icu.UnicodeString) :
    Appending data.limits.maxTokens (encodeUnicodePiece data queues icu value) :=
  .ite .error (.ite .error (bpePiece_appending data queues _))

lemma encodeUnicodePiece_errors (value : icu.UnicodeString) :
    ErrorsIn LimitError (encodeUnicodePiece data queues icu value) :=
  .ite (fun _ => .error (.inl rfl)) fun _ => .ite (fun _ => .error (.inl rfl)) fun _ =>
    bpePiece_errors data queues _

-- The matches, and what the segment does after them.
def matchesThen (normalized : icu.UnicodeString) (found : List (Option (ℕ × ℕ)))
    (previousEnd : ℕ) (rest : ℕ → List ℕ → Except TokenizerError (List ℕ)) (output : List ℕ) :
    Except TokenizerError (List ℕ) :=
  encodeMatches data queues icu normalized found previousEnd output >>= fun reached =>
    rest reached.1 reached.2

lemma matchesThen_cons (normalized : icu.UnicodeString) (start stop : ℕ)
    (found : List (Option (ℕ × ℕ))) (previousEnd : ℕ)
    (rest : ℕ → List ℕ → Except TokenizerError (List ℕ)) :
    matchesThen data queues icu normalized (some (start, stop) :: found) previousEnd rest =
      fun output => if start < previousEnd ∨ stop ≤ start then
          setError .regexError "tokenizer regex returned invalid match offsets"
        else ((if previousEnd < start then
            encodeUnicodePiece data queues icu (icu.slice normalized previousEnd start) output
          else .ok output) >>= fun output =>
            encodeUnicodePiece data queues icu (icu.slice normalized start stop) output >>=
              matchesThen data queues icu normalized found stop rest) := by
  funext output
  rw [matchesThen, encodeMatches]
  split_ifs
  · rfl
  · simp only [bind_assoc]
    rfl
  · simp only [bind_assoc, pure_bind]
    rfl

lemma matchesThen_appending (normalized : icu.UnicodeString) (found : List (Option (ℕ × ℕ)))
    (previousEnd : ℕ) {rest : ℕ → List ℕ → Except TokenizerError (List ℕ)}
    (hrest : ∀ stop, Appending data.limits.maxTokens (rest stop)) :
    Appending data.limits.maxTokens
      (matchesThen data queues icu normalized found previousEnd rest) := by
  induction found generalizing previousEnd with
  | nil => exact hrest previousEnd
  | cons entry found ih =>
    cases entry with
    | none => exact .error
    | some bounds =>
      rw [matchesThen_cons]
      exact .ite .error (.bind (.ite (encodeUnicodePiece_appending data queues icu _) .ok)
        (.bind (encodeUnicodePiece_appending data queues icu _) (ih _)))

lemma matchesThen_errors (normalized : icu.UnicodeString) {found : List (Option (ℕ × ℕ))}
    {previousEnd : ℕ} (hfound : OrderedMatches previousEnd found)
    {rest : ℕ → List ℕ → Except TokenizerError (List ℕ)}
    (hrest : ∀ stop, ErrorsIn LimitError (rest stop)) :
    ErrorsIn LimitError (matchesThen data queues icu normalized found previousEnd rest) := by
  induction found generalizing previousEnd with
  | nil => exact hrest previousEnd
  | cons entry found ih =>
    cases entry with
    | none => exact hfound.elim
    | some bounds =>
      obtain ⟨hle, hlt, hfound⟩ := hfound
      rw [matchesThen_cons]
      refine .ite (fun hbad => absurd hbad (by omega)) fun _ => .bind ?_ (.bind ?_ (ih hfound))
      · exact .ite (fun _ => encodeUnicodePiece_errors data queues icu _) fun _ => .ok
      · exact encodeUnicodePiece_errors data queues icu _

lemma encodeNormalized_eq {normalized : icu.UnicodeString} {found : List (Option (ℕ × ℕ))}
    {status : Option String} (h : icu.findAll normalized = .ok (found, status)) :
    encodeNormalized data queues icu normalized =
      matchesThen data queues icu normalized found 0
        (encodeRemainder data queues icu normalized status) := by
  funext output
  rw [encodeNormalized, h]
  rfl

lemma encodeNormalized_appending (normalized : icu.UnicodeString) :
    Appending data.limits.maxTokens (encodeNormalized data queues icu normalized) := by
  cases h : icu.findAll normalized with
  | error status =>
    intro out x hx
    simp only [encodeNormalized, h] at hx
    exact nomatch hx
  | ok result =>
    obtain ⟨found, status⟩ := result
    rw [encodeNormalized_eq data queues icu h]
    refine matchesThen_appending data queues icu normalized found 0 fun stop => ?_
    cases status with
    | some status => exact .error
    | none => exact .ite (encodeUnicodePiece_appending data queues icu _) .ok

lemma encodeNormalized_errors (hicu : IcuSucceeds icu) (normalized : icu.UnicodeString) :
    ErrorsIn LimitError (encodeNormalized data queues icu normalized) := by
  obtain ⟨found, hfound, hordered⟩ := hicu.findAll_ok normalized
  rw [encodeNormalized_eq data queues icu hfound]
  refine matchesThen_errors data queues icu normalized hordered fun stop => ?_
  exact .ite (fun _ => encodeUnicodePiece_errors data queues icu _) fun _ => .ok

lemma encodeNormalSegment_wellFormed {segment : Bytes} (hne : segment ≠ [])
    (hwell : WellFormed segment) (output : List ℕ) :
    encodeNormalSegment data queues icu segment output =
      if int32Max < segment.length then
        setError .inputTooLarge "input exceeds ICU string length"
      else normalizeSegment icu segment >>= fun normalized =>
        encodeNormalized data queues icu normalized output := by
  rw [encodeNormalSegment, if_neg hne, validateUtf8_eq_none.mpr hwell]

lemma encodeNormalSegment_illFormed {segment : Bytes} {offset : ℕ}
    (h : FirstIllFormed segment offset) (output : List ℕ) :
    encodeNormalSegment data queues icu segment output =
      .error ⟨.invalidUtf8, "input is not valid UTF-8", offset⟩ := by
  have hne : segment ≠ [] := by
    rintro rfl
    exact absurd h.inside (Nat.not_lt_zero _)
  rw [encodeNormalSegment, if_neg hne, validateUtf8_eq_some.mpr h]

lemma encodeNormalSegment_appending (segment : Bytes) :
    Appending data.limits.maxTokens (encodeNormalSegment data queues icu segment) := by
  by_cases hne : segment = []
  · subst hne
    exact .ok
  obtain hwell | ⟨offset, hbad⟩ := wellFormed_or_illFormed segment
  · rw [funext (encodeNormalSegment_wellFormed data queues icu hne hwell)]
    refine .ite .error ?_
    cases normalizeSegment icu segment with
    | error status => exact .error
    | ok normalized => exact encodeNormalized_appending data queues icu normalized
  · rw [funext (encodeNormalSegment_illFormed data queues icu hbad)]
    exact .error

lemma encodeNormalSegment_errors (hicu : IcuSucceeds icu) {segment : Bytes}
    (hwell : WellFormed segment) :
    ErrorsIn LimitError (encodeNormalSegment data queues icu segment) := by
  by_cases hne : segment = []
  · subst hne
    exact .ok
  rw [funext (encodeNormalSegment_wellFormed data queues icu hne hwell)]
  refine .ite (fun _ => .error (.inl rfl)) fun _ => ?_
  obtain ⟨normalized, hnormalized⟩ := hicu.normalize_ok (icu.fromUtf8 segment)
  have hsegment : normalizeSegment icu segment = .ok normalized := by
    rw [normalizeSegment, hicu.instance_ok, hnormalized]
  rw [hsegment]
  exact encodeNormalized_errors data queues icu hicu normalized

lemma pushToken_appending (limit id : ℕ) :
    Appending limit fun output => pushToken limit output id := by
  intro out x h
  obtain ⟨hlt, h⟩ := guard_ok.mp h
  refine ⟨[id], (Except.ok.inj h).symm, .inr (by simp only [List.length_singleton]; omega), ?_⟩
  rintro other (hother | hother)
  · exact nomatch hother
  · rw [List.length_singleton] at hother
    rw [pushToken, if_neg (by omega)]

lemma pushToken_errors (limit id : ℕ) :
    ErrorsIn LimitError fun output => pushToken limit output id := by
  intro out e h
  simp only [pushToken] at h
  split_ifs at h
  obtain rfl := Except.error.inj h
  exact .inr rfl

end Pieces

section Search

variable {text content : Bytes} {cursor : ℕ}

lemma findFrom_none (h : findFrom text content cursor = none) {p : ℕ} (hle : cursor ≤ p)
    (hp : p ≤ text.length) : ¬ OccursAt text content p := by
  rw [findFrom, List.find?_eq_none] at h
  intro hoccurs
  refine h p ?_ (List.isPrefixOf_iff_prefix.mpr hoccurs)
  rw [List.mem_range'_1]
  omega

lemma findFrom_some {p : ℕ} (h : findFrom text content cursor = some p) :
    cursor ≤ p ∧ OccursAt text content p ∧ ∀ q, cursor ≤ q → q < p → ¬ OccursAt text content q := by
  rw [findFrom, List.find?_eq_some_iff_append] at h
  obtain ⟨hoccurs, before, rest, hrange, hbefore⟩ := h
  have hsorted : (List.range' cursor (text.length + 1 - cursor)).Pairwise (· < ·) :=
    List.pairwise_lt_range'
  have hmem : p ∈ List.range' cursor (text.length + 1 - cursor) := hrange ▸ by simp
  rw [List.mem_range'_1] at hmem
  refine ⟨hmem.1, List.isPrefixOf_iff_prefix.mp hoccurs, ?_⟩
  intro q hle hlt hq
  have hqmem : q ∈ before ++ p :: rest := hrange ▸ (List.mem_range'_1.mpr (by omega))
  rw [hrange, List.pairwise_append, List.pairwise_cons] at hsorted
  obtain hqmem | hqmem := List.mem_append.mp hqmem
  · have hno := hbefore q hqmem
    rw [List.isPrefixOf_iff_prefix.mpr hq] at hno
    exact nomatch hno
  · obtain rfl | hqmem := List.mem_cons.mp hqmem
    · omega
    · have := hsorted.2.1.1 q hqmem
      omega

-- What the search over the first tokens has found.
def BestOf (text : Bytes) (cursor : ℕ) (seen : List AddedEntry) :
    Option (ℕ × AddedEntry) → Prop
  | none => ∀ token ∈ seen, findFrom text token.2.content cursor = none
  | some (p, token) => token ∈ seen ∧ findFrom text token.2.content cursor = some p ∧
    ∀ other ∈ seen, ∀ q, findFrom text other.2.content cursor = some q → p ≤ q

lemma BestOf.extend {seen : List AddedEntry} {best : Option (ℕ × AddedEntry)}
    (h : BestOf text cursor seen best) (token : AddedEntry) :
    BestOf text cursor (seen ++ [token]) (closerAdded text cursor best token) := by
  have hmem : ∀ {other}, other ∈ seen ++ [token] ↔ other ∈ seen ∨ other = token := by simp
  cases hfound : findFrom text token.2.content cursor with
  | none =>
    unfold closerAdded
    rw [hfound]
    cases best with
    | none =>
      intro other hother
      obtain hother | rfl := hmem.mp hother
      · exact h other hother
      · exact hfound
    | some found =>
      obtain ⟨p, matched⟩ := found
      refine ⟨hmem.mpr (.inl h.1), h.2.1, ?_⟩
      intro other hother q hq
      obtain hother | rfl := hmem.mp hother
      · exact h.2.2 other hother q hq
      · rw [hfound] at hq
        exact nomatch hq
  | some position =>
    unfold closerAdded
    rw [hfound]
    cases best with
    | none =>
      refine ⟨hmem.mpr (.inr rfl), hfound, ?_⟩
      intro other hother q hq
      obtain hother | rfl := hmem.mp hother
      · rw [h other hother] at hq
        exact nomatch hq
      · rw [hfound] at hq
        exact (Option.some.inj hq).le
    | some found =>
      obtain ⟨p, matched⟩ := found
      dsimp only
      split_ifs with hcloser
      · refine ⟨hmem.mpr (.inr rfl), hfound, ?_⟩
        intro other hother q hq
        obtain hother | rfl := hmem.mp hother
        · have := h.2.2 other hother q hq
          omega
        · rw [hfound] at hq
          exact (Option.some.inj hq).le
      · refine ⟨hmem.mpr (.inl h.1), h.2.1, ?_⟩
        intro other hother q hq
        obtain hother | rfl := hmem.mp hother
        · exact h.2.2 other hother q hq
        · rw [hfound] at hq
          have := Option.some.inj hq
          omega

lemma selectAdded_best (text : Bytes) (cursor : ℕ) (tokens : List AddedEntry) :
    BestOf text cursor tokens (selectAdded text cursor tokens) := by
  induction tokens using List.reverseRecOn with
  | nil => exact fun token htoken => nomatch htoken
  | append_singleton tokens token ih =>
    rw [selectAdded, List.foldl_append]
    exact ih.extend token

end Search

section Loop

variable (data : EncoderData) (queues : CandidateQueue) (icu : Icu)

def encodePiece (output : List ℕ) :
    Piece UInt8 AddedEntry → Except TokenizerError (List ℕ)
  | .plain segment => encodeNormalSegment data queues icu segment output
  | .marker token => pushToken data.limits.maxTokens output token.1

abbrev addedContent (token : AddedEntry) : Bytes := token.2.content

lemma encodePiece_appending (piece : Piece UInt8 AddedEntry) :
    Appending data.limits.maxTokens fun output => encodePiece data queues icu output piece := by
  cases piece with
  | plain segment => exact encodeNormalSegment_appending data queues icu segment
  | marker token => exact pushToken_appending _ _

lemma encode_plainOf (segment : Bytes) (output : List ℕ) :
    (plainOf segment : List (Piece UInt8 AddedEntry)).foldlM (encodePiece data queues icu) output =
      encodeNormalSegment data queues icu segment output := by
  unfold plainOf
  split_ifs with hnil
  · rw [encodeNormalSegment, if_pos hnil]
    rfl
  · rw [List.foldlM_cons]
    exact bind_pure _

-- The loop encodes the pieces of a cut in order.
lemma encodeLoop_cuts (hsep : Separable addedContent data.addedTokens) (text : Bytes)
    {fuel cursor : ℕ} (hfuel : text.length - cursor ≤ fuel) :
    ∃ pieces, Cuts addedContent data.addedTokens (text.drop cursor) pieces ∧ ∀ output,
      encodeLoop data queues icu text fuel cursor output =
        pieces.foldlM (encodePiece data queues icu) output := by
  induction fuel generalizing cursor with
  | zero =>
    have hdone : text.length ≤ cursor := by omega
    refine ⟨plainOf [], ?_, fun output => ?_⟩
    · rw [List.drop_eq_nil_of_le hdone]
      exact .last fun _ _ p hp => absurd hp (Nat.not_lt_zero p)
    · rw [encodeLoop, if_pos hdone]
      rfl
  | succ fuel ih =>
    by_cases hdone : text.length ≤ cursor
    · refine ⟨plainOf [], ?_, fun output => ?_⟩
      · rw [List.drop_eq_nil_of_le hdone]
        exact .last fun _ _ p hp => absurd hp (Nat.not_lt_zero p)
      · rw [encodeLoop, if_pos hdone]
        rfl
    have hbest := selectAdded_best text cursor data.addedTokens
    cases hselect : selectAdded text cursor data.addedTokens with
    | none =>
      rw [hselect] at hbest
      refine ⟨plainOf (text.drop cursor), .last ?_, fun output => ?_⟩
      · intro token htoken p hp hoccurs
        rw [List.length_drop] at hp
        rw [occursAt_drop] at hoccurs
        exact findFrom_none (hbest token htoken) (by omega) (by omega) hoccurs
      · rw [encodeLoop, if_neg hdone, hselect]
        exact (encode_plainOf data queues icu _ _).symm
    | some found =>
      obtain ⟨position, id, token⟩ := found
      rw [hselect] at hbest
      obtain ⟨hmem, hfound, hfirst⟩ := hbest
      obtain ⟨hle, ⟨rest, hoccurs⟩, -⟩ := findFrom_some hfound
      dsimp only at hoccurs
      have hpos : 0 < token.content.length := List.length_pos_iff.mpr (hsep.nonempty _ hmem)
      have hin : position < text.length := by
        by_contra hge
        rw [List.drop_eq_nil_of_le (by omega), List.append_eq_nil_iff] at hoccurs
        rw [hoccurs.1] at hpos
        exact Nat.lt_irrefl 0 hpos
      obtain ⟨pieces, hcuts, hrun⟩ := @ih (position + token.content.length) (by omega)
      set before := (text.drop cursor).take (position - cursor) with hbefore
      have hlength : before.length = position - cursor := by
        rw [hbefore, List.length_take, List.length_drop]
        omega
      have hrest : text.drop (position + token.content.length) = rest := by
        rw [← List.drop_drop, ← hoccurs, List.drop_left]
      have htext : text.drop cursor = before ++ addedContent (id, token) ++ rest := by
        rw [List.append_assoc, hoccurs, hbefore]
        conv_lhs => rw [← List.take_append_drop (position - cursor) (text.drop cursor)]
        rw [List.drop_drop, Nat.add_sub_cancel' hle]
      rw [hrest] at hcuts
      refine ⟨plainOf before ++ .marker (id, token) :: pieces, ?_, fun output => ?_⟩
      · rw [htext]
        refine .step hmem ?_ hcuts
        intro other hother p hp hoccurs'
        rw [← htext, occursAt_drop] at hoccurs'
        cases hfind : findFrom text other.2.content cursor with
        | none => exact findFrom_none hfind (by omega) (by omega) hoccurs'
        | some q =>
          have hq := hfirst other hother q hfind
          exact (findFrom_some hfind).2.2 (cursor + p) (by omega) (by omega) hoccurs'
      · rw [encodeLoop, if_neg hdone, hselect]
        simp only [List.foldlM_append, List.foldlM_cons, encode_plainOf]
        by_cases hlt : cursor < position
        · rw [if_pos hlt]
          simp only [hrun]
          rfl
        · have hnil : before = [] := List.length_eq_zero_iff.mp (by omega)
          rw [if_neg hlt, hnil]
          simp only [hrun]
          rfl

lemma encodeImpl_cuts (hsep : Separable addedContent data.addedTokens) (text : Bytes) :
    ∃ pieces, Cuts addedContent data.addedTokens text pieces ∧
      encodeImpl data queues icu text =
        if data.limits.maxInputBytes < text.length then
          setError .inputTooLarge "input exceeds max_input_bytes"
        else pieces.foldlM (encodePiece data queues icu) [] := by
  obtain ⟨pieces, hcuts, hrun⟩ := @encodeLoop_cuts data queues icu hsep text text.length 0
    (by omega)
  rw [List.drop_zero] at hcuts
  exact ⟨pieces, hcuts, by rw [encodeImpl, hrun]⟩

end Loop

end Qwen3xOrin.Text
