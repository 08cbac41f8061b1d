import Qwen3xOrin.Text.EncodeCuts

/-! The encoder at the added tokens: it is a homomorphism there, and it reports the first
ill-formed sequence by its offset in the segment between two added tokens. -/

namespace Qwen3xOrin.Text

open Library Library.Utf8

lemma pinned_checked :
    (pinnedAddedTokens.all fun token =>
      let body := (addedContent token).tail.dropLast
      decide (addedContent token = 0x3C :: (body ++ [0x3E])) && !body.contains 0x3C &&
        !body.contains 0x3E) = true ∧
    (pinnedAddedTokens.all fun token => pinnedAddedTokens.all fun other =>
      decide (addedContent token = addedContent other → token = other)) = true ∧
    (pinnedAddedTokens.all fun token =>
      (addedContent token).all fun byte => decide (byte.toNat < 0x80)) = true := by
  simp only [pinnedAddedTokens, pinnedAddedContents, List.zipIdx_cons, List.zipIdx_nil,
    List.map_cons, List.map_nil]
  repeat rw [ascii_ofList]
  decide +kernel

lemma pinned_delimited : ∀ token ∈ pinnedAddedTokens,
    Delimited 0x3C 0x3E (addedContent token) := by
  intro token htoken
  have htoken := List.all_eq_true.mp pinned_checked.1 token htoken
  simp only [Bool.and_eq_true, decide_eq_true_eq, Bool.not_eq_true'] at htoken
  obtain ⟨⟨hshape, hopening⟩, hclosing⟩ := htoken
  exact ⟨_, hshape, by simpa using hopening, by simpa using hclosing⟩

lemma pinned_separable : Separable addedContent pinnedAddedTokens := by
  refine separable_of_delimited (show (0x3C : UInt8) ≠ 0x3E by decide) pinned_delimited ?_
  intro token htoken other hother
  exact of_decide_eq_true
    (List.all_eq_true.mp (List.all_eq_true.mp pinned_checked.2.1 token htoken) other hother)

lemma pinned_ascii : ∀ token ∈ pinnedAddedTokens, ∀ byte ∈ addedContent token,
    byte.toNat < 0x80 := by
  intro token htoken byte hbyte
  exact of_decide_eq_true
    (List.all_eq_true.mp (List.all_eq_true.mp pinned_checked.2.2 token htoken) byte hbyte)

section WellFormed

lemma wellFormed_ascii {text : Bytes} (h : ∀ byte ∈ text, byte.toNat < 0x80) :
    WellFormed text := by
  induction text with
  | nil => exact wellFormed_nil
  | cons byte text ih =>
    exact wellFormed_append (wellFormed_unit (u := [byte]) (h byte List.mem_cons_self))
      (ih fun other hother => h other (List.mem_cons_of_mem byte hother))

lemma not_wellFormed {text : Bytes} {offset : ℕ} (h : FirstIllFormed text offset) :
    ¬ WellFormed text := by
  intro hwell
  have hsome := validateUtf8_eq_some.mpr h
  rw [validateUtf8_eq_none.mpr hwell] at hsome
  exact nomatch hsome

lemma firstIllFormed_unique {text : Bytes} {offset other : ℕ} (h : FirstIllFormed text offset)
    (h' : FirstIllFormed text other) : offset = other :=
  Option.some.inj ((validateUtf8_eq_some.mpr h).symm.trans (validateUtf8_eq_some.mpr h'))

lemma table_tail {u : Bytes} (h : Table u) {i : ℕ} {byte : UInt8} (hi : u[i + 1]? = some byte) :
    IsTail byte := by
  match u, h with
  | [_], _ => exact nomatch hi
  | [_, b], h =>
    match i, hi with
    | 0, hi => exact Option.some.inj hi ▸ h.2.2
  | [_, b, c], h =>
    match i, hi with
    | 0, hi => exact Option.some.inj hi ▸ h.2.2.1
    | 1, hi => exact Option.some.inj hi ▸ h.2.2.2.1
  | [_, b, c, d], h =>
    match i, hi with
    | 0, hi => exact Option.some.inj hi ▸ h.2.2.1
    | 1, hi => exact Option.some.inj hi ▸ h.2.2.2.1
    | 2, hi => exact Option.some.inj hi ▸ h.2.2.2.2.1

-- A sequence that an ASCII byte cuts off stays ill formed.
lemma FirstIllFormed.append {text : Bytes} {offset : ℕ} (h : FirstIllFormed text offset)
    {byte : UInt8} (hbyte : byte.toNat < 0x80) (rest : Bytes) :
    FirstIllFormed (text ++ byte :: rest) offset where
  inside := by
    have := h.inside
    rw [List.length_append]
    omega
  before := by
    rw [List.take_append_of_le_length h.inside.le]
    exact h.before
  illFormed u hu hoccurs := by
    have hinside := h.inside
    by_cases hlen : offset + u.length ≤ text.length
    · exact h.illFormed u hu (hoccurs.of_append hlen)
    · obtain ⟨more, hmore⟩ := hoccurs
      have hget : u[text.length - offset]? = some byte := by
        have hbyteAt : (text ++ byte :: rest)[text.length]? = some byte := by simp
        rw [← @List.getElem?_append_left _ _ more _ (by omega), hmore, List.getElem?_drop]
        rwa [Nat.add_sub_cancel' hinside.le]
      obtain ⟨i, hi⟩ : ∃ i, text.length - offset = i + 1 := ⟨text.length - offset - 1, by omega⟩
      rw [hi] at hget
      have htail := (table_tail hu hget).1
      omega

lemma FirstIllFormed.after {text : Bytes} {offset : ℕ} (h : FirstIllFormed text offset)
    {front : Bytes} (hfront : WellFormed front) :
    FirstIllFormed (front ++ text) (front.length + offset) where
  inside := by
    have := h.inside
    rw [List.length_append]
    omega
  before := by
    rw [List.take_length_add_append]
    exact wellFormed_append hfront h.before
  illFormed u hu hoccurs := by
    rw [← occursAt_drop, List.drop_left] at hoccurs
    exact h.illFormed u hu hoccurs

end WellFormed

section Cut

def pieceText : Piece UInt8 AddedEntry → Bytes
  | .plain segment => segment
  | .marker token => addedContent token

lemma pieceText_plainOf (text : Bytes) : (plainOf text).flatMap pieceText = text := by
  unfold plainOf
  split_ifs with h
  · rw [h]
    rfl
  · simp [pieceText]

lemma cuts_text {tokens : List AddedEntry} {text : Bytes} {pieces : List (Piece UInt8 AddedEntry)}
    (h : Cuts addedContent tokens text pieces) : pieces.flatMap pieceText = text := by
  induction h with
  | last => exact pieceText_plainOf _
  | step hi hfirst hrest ih =>
    rw [List.flatMap_append, List.flatMap_cons, pieceText_plainOf, ih, List.append_assoc]
    rfl

-- The first ill-formed sequence of a text lies in the first ill-formed piece of its cut.
structure IllFormedAt (text : Bytes) (pieces front : List (Piece UInt8 AddedEntry))
    (segment : Bytes) (offset : ℕ) : Prop where
  split : ∃ back, pieces = front ++ .plain segment :: back
  front_ok : ∀ plain, Piece.plain plain ∈ front → WellFormed plain
  segment_bad : FirstIllFormed segment offset
  text_bad : FirstIllFormed text ((front.flatMap pieceText).length + offset)
  marker : front ≠ [] → ∃ token ∈ pinnedAddedTokens, ∃ p,
    OccursAt text (addedContent token) p ∧
      p + (addedContent token).length ≤ (front.flatMap pieceText).length

lemma wellFormed_plainOf {text plain : Bytes} (h : WellFormed text)
    (hplain : Piece.plain plain ∈ (plainOf text : List (Piece UInt8 AddedEntry))) :
    WellFormed plain :=
  (mem_plainOf.mp hplain).1 ▸ h

lemma illFormedAt_plain {text rest : Bytes} {offset : ℕ} (h : FirstIllFormed text offset)
    (hrest : FirstIllFormed (text ++ rest) offset) (back : List (Piece UInt8 AddedEntry)) :
    IllFormedAt (text ++ rest) (plainOf text ++ back) [] text offset where
  split := by
    have hne : text ≠ [] := by
      rintro rfl
      exact absurd h.inside (Nat.not_lt_zero _)
    exact ⟨back, by rw [plainOf, if_neg hne]; rfl⟩
  front_ok _ hplain := nomatch hplain
  segment_bad := h
  text_bad := by simpa using hrest
  marker hne := absurd rfl hne

lemma cuts_wellFormed {text : Bytes} {pieces : List (Piece UInt8 AddedEntry)}
    (h : Cuts addedContent pinnedAddedTokens text pieces) :
    (WellFormed text ∧ ∀ plain, Piece.plain plain ∈ pieces → WellFormed plain) ∨
      ∃ front segment offset, IllFormedAt text pieces front segment offset := by
  induction h with
  | @last text hnone =>
    obtain hwell | ⟨offset, hbad⟩ := wellFormed_or_illFormed text
    · exact .inl ⟨hwell, fun plain hplain => wellFormed_plainOf hwell hplain⟩
    · have hat := @illFormedAt_plain _ [] _ hbad (by rwa [List.append_nil]) []
      rw [List.append_nil, List.append_nil] at hat
      exact .inr ⟨_, _, _, hat⟩
  | @step before rest token pieces hi hfirst hrest ih =>
    have hascii := pinned_ascii token hi
    have hcontent := wellFormed_ascii hascii
    obtain hwell | ⟨offset, hbad⟩ := wellFormed_or_illFormed before
    · obtain ⟨hrestWell, hplains⟩ | ⟨front, segment, offset, hat⟩ := ih
      · refine .inl ⟨wellFormed_append (wellFormed_append hwell hcontent) hrestWell, ?_⟩
        intro plain hplain
        simp only [List.mem_append, List.mem_cons, reduceCtorEq, false_or] at hplain
        obtain hplain | hplain := hplain
        · exact wellFormed_plainOf hwell hplain
        · exact hplains plain hplain
      · obtain ⟨back, hback⟩ := hat.split
        have hlength : ((plainOf before ++ Piece.marker token :: front).flatMap pieceText).length =
            (before ++ addedContent token).length + (front.flatMap pieceText).length := by
          rw [List.flatMap_append, List.flatMap_cons, pieceText_plainOf]
          simp only [pieceText, List.length_append]
          omega
        refine .inr ⟨plainOf before ++ .marker token :: front, segment, offset, ?_⟩
        refine
          { split := ⟨back, by rw [hback]; simp⟩
            front_ok := ?_
            segment_bad := hat.segment_bad
            text_bad := ?_
            marker := fun _ => ⟨token, hi, before.length, occursAt_middle _ _ _, ?_⟩ }
        · intro plain hplain
          simp only [List.mem_append, List.mem_cons, reduceCtorEq, false_or] at hplain
          obtain hplain | hplain := hplain
          · exact wellFormed_plainOf hwell hplain
          · exact hat.front_ok plain hplain
        · rw [hlength, Nat.add_assoc]
          exact hat.text_bad.after (wellFormed_append hwell hcontent)
        · rw [hlength, List.length_append]
          omega
    · obtain ⟨byte, content, hbytes⟩ :=
        List.exists_cons_of_ne_nil (pinned_separable.nonempty token hi)
      have hbad' : FirstIllFormed (before ++ (addedContent token ++ rest)) offset := by
        rw [hbytes, List.cons_append]
        exact hbad.append (hascii byte (hbytes ▸ List.mem_cons_self)) _
      rw [List.append_assoc]
      exact .inr ⟨_, _, _, illFormedAt_plain hbad hbad' _⟩

end Cut

section Encode

variable {data : EncoderData} {queues : CandidateQueue} {icu : Icu}

-- The text stays within the byte and token limits.
def WithinLimits (result : Except TokenizerError (List ℕ)) : Prop :=
  ∀ error, result = .error error → ¬ LimitError error

lemma encodePieces_errors (hicu : IcuSucceeds icu) {pieces : List (Piece UInt8 AddedEntry)}
    (hpieces : ∀ plain, Piece.plain plain ∈ pieces → WellFormed plain) :
    ErrorsIn LimitError fun output => pieces.foldlM (encodePiece data queues icu) output := by
  refine ErrorsIn.foldlM fun piece hpiece => ?_
  cases piece with
  | plain segment => exact encodeNormalSegment_errors data queues icu hicu (hpieces segment hpiece)
  | marker token => exact pushToken_errors _ _

lemma encodePieces_ok (hicu : IcuSucceeds icu) {pieces : List (Piece UInt8 AddedEntry)}
    (hpieces : ∀ plain, Piece.plain plain ∈ pieces → WellFormed plain) {output : List ℕ}
    (hlimits : WithinLimits (pieces.foldlM (encodePiece data queues icu) output)) :
    ∃ ids, pieces.foldlM (encodePiece data queues icu) output = .ok ids := by
  cases h : pieces.foldlM (encodePiece data queues icu) output with
  | ok ids => exact ⟨ids, rfl⟩
  | error error => exact absurd (encodePieces_errors hicu hpieces _ _ h) (hlimits error h)

lemma encodeImpl_within (hadded : data.addedTokens = pinnedAddedTokens) {text : Bytes}
    (hlimits : WithinLimits (encodeImpl data queues icu text)) :
    ∃ pieces, Cuts addedContent pinnedAddedTokens text pieces ∧
      text.length ≤ data.limits.maxInputBytes ∧
      encodeImpl data queues icu text = pieces.foldlM (encodePiece data queues icu) [] := by
  obtain ⟨pieces, hcuts, hrun⟩ := encodeImpl_cuts data queues icu (hadded ▸ pinned_separable) text
  rw [hadded] at hcuts
  by_cases hlarge : data.limits.maxInputBytes < text.length
  · rw [if_pos hlarge] at hrun
    exact absurd (.inl rfl) (hlimits _ hrun)
  · rw [if_neg hlarge] at hrun
    exact ⟨pieces, hcuts, Nat.le_of_not_lt hlarge, hrun⟩

lemma encodeImpl_ok (hadded : data.addedTokens = pinnedAddedTokens) (hicu : IcuSucceeds icu)
    {text : Bytes} (hwell : WellFormed text)
    (hlimits : WithinLimits (encodeImpl data queues icu text)) :
    ∃ pieces ids, Cuts addedContent pinnedAddedTokens text pieces ∧
      encodeImpl data queues icu text = .ok ids ∧
      pieces.foldlM (encodePiece data queues icu) [] = .ok ids := by
  obtain ⟨pieces, hcuts, -, hrun⟩ := encodeImpl_within hadded hlimits
  obtain ⟨-, hplains⟩ | ⟨front, segment, offset, hat⟩ := cuts_wellFormed hcuts
  · rw [hrun] at hlimits
    obtain ⟨ids, hids⟩ := encodePieces_ok hicu hplains hlimits
    exact ⟨pieces, ids, hcuts, hrun.trans hids, hids⟩
  · exact absurd hwell (not_wellFormed hat.text_bad)

-- A tokenizer without merges, and a Unicode library for words of ASCII letters.
def letterData : EncoderData :=
  { addedTokens := pinnedAddedTokens, byteTokenIds := fun byte => byte.toNat }

def letterIcu : Icu where
  UnicodeString := Bytes
  nfcInstance := none
  fromUtf8 text := text
  normalize text := .ok text
  findAll text := .ok (if text = [] then [] else [some (0, text.length)], none)
  slice text start stop := (text.drop start).take (stop - start)
  length text := text.length
  toUtf8 text := text

lemma letterIcu_succeeds : IcuSucceeds letterIcu where
  instance_ok := rfl
  normalize_ok text := ⟨text, rfl⟩
  findAll_ok text := by
    refine ⟨_, rfl, ?_⟩
    split_ifs with h
    · trivial
    · exact ⟨le_rfl, List.length_pos_iff.mpr h, trivial⟩

lemma withinLimits_of_ok {result : Except TokenizerError (List ℕ)} {ids : List ℕ}
    (h : result = .ok ids) : WithinLimits result := by
  intro error herror
  rw [h] at herror
  exact nomatch herror

lemma letter_runs :
    encodeImpl letterData listQueue letterIcu (ascii "a") = .ok [97] ∧
    encodeImpl letterData listQueue letterIcu (ascii "b") = .ok [98] ∧
    encodeImpl letterData listQueue letterIcu (ascii "a" ++ ascii "<think>" ++ ascii "b") =
      .ok [97, 248068, 98] ∧
    encodeImpl letterData listQueue letterIcu [97, 0xFF] =
      .error ⟨.invalidUtf8, "input is not valid UTF-8", 1⟩ ∧
    encodeImpl letterData listQueue letterIcu (ascii "<think>" ++ [0xFF]) =
      .error ⟨.invalidUtf8, "input is not valid UTF-8", 0⟩ ∧
    (248068, ⟨ascii "<think>", false⟩) ∈ pinnedAddedTokens ∧
    ∀ token ∈ pinnedAddedTokens, 2 < token.2.content.length := by
  simp only [letterData, pinnedAddedTokens, pinnedAddedContents, List.zipIdx_cons, List.zipIdx_nil,
    List.map_cons, List.map_nil]
  repeat rw [ascii_ofList]
  decide +kernel

-- The report the encoder owes: `invalidUtf8` exactly on ill-formed text, at its first bad byte.
def ReportsFirstIllFormed (data : EncoderData) (queues : CandidateQueue) (icu : Icu)
    (text : Bytes) : Prop :=
  ((∃ error, encodeImpl data queues icu text = .error error ∧ error.code = .invalidUtf8) ↔
    ¬ WellFormed text) ∧
  ∀ error, encodeImpl data queues icu text = .error error → error.code = .invalidUtf8 →
    FirstIllFormed text error.offset

lemma encodeImpl_illFormed (hadded : data.addedTokens = pinnedAddedTokens)
    (hicu : IcuSucceeds icu) {text : Bytes} (hbad : ¬ WellFormed text)
    (hlimits : WithinLimits (encodeImpl data queues icu text)) :
    ∃ pieces front segment offset, Cuts addedContent pinnedAddedTokens text pieces ∧
      IllFormedAt text pieces front segment offset ∧
      encodeImpl data queues icu text =
        .error ⟨.invalidUtf8, "input is not valid UTF-8", offset⟩ := by
  obtain ⟨pieces, hcuts, -, hrun⟩ := encodeImpl_within hadded hlimits
  obtain ⟨hwell, -⟩ | ⟨front, segment, offset, hat⟩ := cuts_wellFormed hcuts
  · exact absurd hwell hbad
  refine ⟨pieces, front, segment, offset, hcuts, hat, ?_⟩
  obtain ⟨back, hback⟩ := hat.split
  rw [hrun, hback, List.foldlM_append] at hlimits ⊢
  cases hfront : front.foldlM (encodePiece data queues icu) [] with
  | error error =>
    rw [hfront] at hlimits
    exact absurd (encodePieces_errors hicu hat.front_ok _ _ hfront) (hlimits error rfl)
  | ok ids =>
    change List.foldlM (encodePiece data queues icu) ids (Piece.plain segment :: back) = _
    rw [List.foldlM_cons, encodePiece, encodeNormalSegment_illFormed data queues icu
      hat.segment_bad]
    rfl

lemma FirstIllFormed.of_pieces {text : Bytes} {pieces front : List (Piece UInt8 AddedEntry)}
    {segment : Bytes} {offset : ℕ} (hcuts : Cuts addedContent pinnedAddedTokens text pieces)
    (hat : IllFormedAt text pieces front segment offset) :
    FirstIllFormed text offset ↔ ¬ ∃ token ∈ pinnedAddedTokens, ∃ p bad,
      FirstIllFormed text bad ∧ OccursAt text token.2.content p ∧
        p + token.2.content.length ≤ bad := by
  constructor
  · rintro hfirst ⟨token, htoken, p, bad, hbad, hoccurs, hle⟩
    obtain rfl := firstIllFormed_unique hbad hfirst
    -- The ill-formed piece stands at the front, and no token occurs in it.
    have hfront : (front.flatMap pieceText).length = 0 := by
      have := firstIllFormed_unique hat.text_bad hfirst
      omega
    have hnil : front = [] := by
      by_contra hne
      obtain ⟨other, hother, q, -, hq⟩ := hat.marker hne
      have := List.length_pos_iff.mpr (pinned_separable.nonempty other hother)
      omega
    obtain ⟨back, hback⟩ := hat.split
    rw [hnil, List.nil_append] at hback
    have htext := cuts_text hcuts
    rw [hback, List.flatMap_cons] at htext
    have hinside := hat.segment_bad.inside
    rw [← htext] at hoccurs
    have hsegment := hoccurs.of_append (by simp only [pieceText]; omega)
    have hplain : Piece.plain segment ∈ pieces := by simp [hback]
    refine hcuts.plain_free pinned_separable hplain htoken ?_
    exact (List.IsPrefix.isInfix hsegment).trans (List.drop_suffix p _).isInfix
  · intro hnone
    have hnil : front = [] := by
      by_contra hne
      obtain ⟨token, htoken, p, hoccurs, hle⟩ := hat.marker hne
      exact hnone ⟨token, htoken, p, _, hat.text_bad, hoccurs, Nat.le_add_right_of_le hle⟩
    have htext := hat.text_bad
    rw [hnil, List.flatMap_nil, List.length_nil, Nat.zero_add] at htext
    exact htext

theorem encode_reports_first_illFormed_iff (data : EncoderData) (queues : CandidateQueue)
    (icu : Icu) (hadded : data.addedTokens = pinnedAddedTokens) (hicu : IcuSucceeds icu)
    (text : Bytes) (hlimits : WithinLimits (encodeImpl data queues icu text)) :
    ReportsFirstIllFormed data queues icu text ↔
      ¬ ∃ token ∈ pinnedAddedTokens, ∃ p bad, FirstIllFormed text bad ∧
        OccursAt text token.2.content p ∧ p + token.2.content.length ≤ bad := by
  by_cases hwell : WellFormed text
  · obtain ⟨pieces, ids, -, hids, -⟩ := encodeImpl_ok hadded hicu hwell hlimits
    refine ⟨fun _ => ?_, fun _ => ⟨⟨?_, fun hbad => absurd hwell hbad⟩, ?_⟩⟩
    · rintro ⟨_, _, _, _, hbad, _⟩
      exact not_wellFormed hbad hwell
    · rintro ⟨error, herror, -⟩
      rw [hids] at herror
      exact nomatch herror
    · intro error herror
      rw [hids] at herror
      exact nomatch herror
  · obtain ⟨pieces, front, segment, offset, hcuts, hat, hresult⟩ :=
      encodeImpl_illFormed hadded hicu hwell hlimits
    rw [← FirstIllFormed.of_pieces hcuts hat]
    constructor
    · exact fun h => h.2 _ hresult rfl
    · refine fun h => ⟨⟨fun _ => hwell, fun _ => ⟨_, hresult, rfl⟩⟩, ?_⟩
      intro error herror _
      rw [hresult] at herror
      obtain rfl := Except.error.inj herror
      exact h

theorem illFormed_letter_reported :
    ReportsFirstIllFormed letterData listQueue letterIcu [97, 0xFF] := by
  obtain ⟨-, -, -, hresult, -, -, hlong⟩ := letter_runs
  refine (encode_reports_first_illFormed_iff letterData listQueue letterIcu rfl letterIcu_succeeds
    [97, 0xFF] ?_).mpr ?_
  · intro error herror hlimit
    rw [hresult] at herror
    obtain rfl := Except.error.inj herror
    obtain hlimit | hlimit := hlimit <;> exact nomatch hlimit
  · rintro ⟨token, htoken, p, bad, hbad, hoccurs, hle⟩
    have hinside := hbad.inside
    have := hlong token htoken
    simp only [List.length_cons, List.length_nil] at hinside
    omega

theorem illFormed_after_think_misreported :
    ¬ ReportsFirstIllFormed letterData listQueue letterIcu (ascii "<think>" ++ [0xFF]) := by
  intro h
  have hzero := validateUtf8_eq_some.mpr (h.2 _ letter_runs.2.2.2.2.1 rfl)
  exact absurd hzero (by decide +kernel)

end Encode

end Qwen3xOrin.Text
