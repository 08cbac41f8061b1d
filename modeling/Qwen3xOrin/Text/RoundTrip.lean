import Qwen3xOrin.Text.AddedTokens
import Qwen3xOrin.Text.DecodeLimit

/-! Decoding what was encoded: every segment between added tokens comes back in its normal
form, and the added tokens as they were. -/

namespace Qwen3xOrin.Text

open Library Library.Utf8

-- The matches lie at code point boundaries, where the conversion to UTF-8 can be cut, and the
-- normalizer gives the normal form of every well-formed segment.
structure IcuFaithful (icu : Icu) (boundary : icu.UnicodeString → ℕ → Prop) (nfc : Bytes → Bytes) :
    Prop where
  slice_all : ∀ value, icu.toUtf8 (icu.slice value 0 (icu.length value)) = icu.toUtf8 value
  slice_empty : ∀ value a, icu.toUtf8 (icu.slice value a a) = []
  slice_append : ∀ value a b c, a ≤ b → b ≤ c → c ≤ icu.length value → boundary value b →
    icu.toUtf8 (icu.slice value a b) ++ icu.toUtf8 (icu.slice value b c) =
      icu.toUtf8 (icu.slice value a c)
  matched : ∀ value found status, icu.findAll value = .ok (found, status) →
    ∀ start stop, some (start, stop) ∈ found →
      boundary value start ∧ boundary value stop ∧ stop ≤ icu.length value
  normal : ∀ segment, WellFormed segment → ∀ value, icu.normalize (icu.fromUtf8 segment) =
    .ok value → icu.toUtf8 value = nfc segment

section Spelling

variable {data : EncoderData}

lemma idBytes_token {options : DecodeOptions} {id : ℕ} {token : Bytes}
    (h : data.idToToken[id]? = some token) : idBytes data options id = tokenBytes data token := by
  rw [idBytes, h]

-- The ids are vocabulary ids and spell the bytes.
def Spells (data : EncoderData) (ids : List ℕ) (bytes : Bytes) : Prop :=
  (∀ id ∈ ids, ∃ token, data.idToToken[id]? = some token) ∧ decodedBytes data {} ids = bytes

lemma Spells.append {ids ids' : List ℕ} {bytes bytes' : Bytes} (h : Spells data ids bytes)
    (h' : Spells data ids' bytes') : Spells data (ids ++ ids') (bytes ++ bytes') := by
  refine ⟨fun id hid => ?_, ?_⟩
  · obtain hid | hid := List.mem_append.mp hid
    · exact h.1 id hid
    · exact h'.1 id hid
  · rw [← h.2, ← h'.2, decodedBytes, List.flatMap_append]
    rfl

lemma tokenBytes_append (hloaded : Loaded data) {left right id : ℕ} {token token' : Bytes}
    (hleft : data.idToToken[left]? = some token) (hright : data.idToToken[right]? = some token')
    (hid : data.idToToken[id]? = some (token ++ token')) :
    tokenBytes data (token ++ token') = tokenBytes data token ++ tokenBytes data token' := by
  have hjoined := symbolBytes_append (symbolBytes_token hloaded hleft)
    (symbolBytes_token hloaded hright) le_rfl
  rw [symbolBytes_token hloaded hid] at hjoined
  exact Except.ok.inj hjoined

lemma spells_merge (hloaded : Loaded data) {p s : List ℕ} {a b c r : ℕ} {bytes : Bytes}
    (hrule : bpeRule data a b = some (r, c)) (h : Spells data (p ++ a :: b :: s) bytes) :
    Spells data (p ++ c :: s) bytes := by
  obtain ⟨hvocab, hbytes⟩ := h
  obtain ⟨tokenA, ha⟩ := hvocab a (by simp)
  obtain ⟨tokenB, hb⟩ := hvocab b (by simp)
  obtain ⟨rule, hmerge, hpair⟩ := Option.map_eq_some_iff.mp hrule
  have hresult : rule.resultId = c := congrArg Prod.snd hpair
  have hc := hresult ▸ hloaded.merged a b tokenA tokenB rule ha hb hmerge
  refine ⟨fun id hid => ?_, ?_⟩
  · simp only [List.mem_append, List.mem_cons] at hid
    obtain hid | rfl | hid := hid
    · exact hvocab id (by simp [hid])
    · exact ⟨_, hc⟩
    · exact hvocab id (by simp [hid])
  · rw [← hbytes]
    simp only [decodedBytes, List.flatMap_append, List.flatMap_cons, idBytes_token ha,
      idBytes_token hb, idBytes_token hc, tokenBytes_append hloaded ha hb hc, List.append_assoc]

lemma spells_bytes (hloaded : Loaded data) (piece : Bytes) :
    Spells data (piece.map data.byteTokenIds) piece := by
  induction piece with
  | nil => exact ⟨fun _ hid => absurd hid List.not_mem_nil, rfl⟩
  | cons byte piece ih =>
    have htoken := hloaded.byteTokens byte
    have hspelled := symbolBytes_token hloaded htoken
    have hbyte : tokenBytes data (byteEncoder byte) = [byte] := by
      have hat := byteEncoder_decodes byte []
      rw [List.append_nil] at hat
      have hdecoder : data.byteDecoder (byteCodepoint byte) = some byte := by
        rw [hloaded.decoder, byteDecoder_byteCodepoint]
      have hnil : symbolBytes data.toTokenizerData ((byteEncoder byte).length - 1) [] = .ok [] := by
        rw [symbolBytes]
      have hstep := symbolBytes_step hat hdecoder hnil
      obtain ⟨-, hshorter⟩ := decodeUtf8At_append hat []
      rw [Nat.sub_add_cancel (Nat.succ_le_of_lt (by simpa using hshorter))] at hstep
      rw [hspelled] at hstep
      exact Except.ok.inj hstep
    have hone : Spells data [data.byteTokenIds byte] [byte] := by
      refine ⟨fun id hid => ⟨_, (List.mem_singleton.mp hid) ▸ htoken⟩, ?_⟩
      rw [decodedBytes, List.flatMap_singleton, idBytes_token htoken, hbyte]
    exact hone.append ih

lemma spells_reference (hloaded : Loaded data) (piece : Bytes) :
    Spells data (referenceBpe data piece) piece := by
  refine referenceMerge_induction (motive := fun ids => Spells data ids piece) ?_
    (spells_bytes hloaded piece)
  exact fun p a b s r c hrule h => spells_merge hloaded hrule h

end Spelling

section Segments

variable {data : EncoderData} {queues : CandidateQueue} {icu : Icu}
  {boundary : icu.UnicodeString → ℕ → Prop} {nfc : Bytes → Bytes}

lemma encodeUnicodePiece_spells (hloaded : Loaded data) {value : icu.UnicodeString}
    {output out : List ℕ} (h : encodeUnicodePiece data queues icu value output = .ok out) :
    ∃ ids, out = output ++ ids ∧ Spells data ids (icu.toUtf8 value) := by
  obtain ⟨-, h⟩ := guard_ok.mp h
  obtain ⟨-, h⟩ := guard_ok.mp h
  rw [bpePiece_eq, setError] at h
  obtain ⟨-, h⟩ := guard_ok.mp h
  exact ⟨_, (Except.ok.inj h).symm, spells_reference hloaded _⟩

-- Behind the matches stands the rest of the segment, whatever it is cut to.
lemma encodeMatches_spells (hloaded : Loaded data) (hicu : IcuFaithful icu boundary nfc)
    {value : icu.UnicodeString} {found : List (Option (ℕ × ℕ))}
    (hfound : ∀ start stop, some (start, stop) ∈ found →
      boundary value start ∧ boundary value stop ∧ stop ≤ icu.length value)
    {previousEnd stop : ℕ} {output out : List ℕ} (hprevious : previousEnd ≤ icu.length value)
    (h : encodeMatches data queues icu value found previousEnd output = .ok (stop, out)) :
    stop ≤ icu.length value ∧ ∃ ids bytes, out = output ++ ids ∧ Spells data ids bytes ∧
      ∀ last, stop ≤ last → last ≤ icu.length value →
        bytes ++ icu.toUtf8 (icu.slice value stop last) =
          icu.toUtf8 (icu.slice value previousEnd last) ∧ previousEnd ≤ stop := by
  induction found generalizing previousEnd output with
  | nil =>
    obtain ⟨rfl, rfl⟩ := Prod.mk.inj (Except.ok.inj h)
    exact ⟨hprevious, [], [], (List.append_nil _).symm, ⟨fun _ hid => absurd hid List.not_mem_nil, rfl⟩,
      fun last _ _ => ⟨rfl, le_rfl⟩⟩
  | cons entry found ih =>
    cases entry with
    | none => cases h
    | some bounds =>
      obtain ⟨start, stop'⟩ := bounds
      obtain ⟨hstart, hstop, hlength⟩ := hfound start stop' List.mem_cons_self
      rw [encodeMatches] at h
      obtain ⟨hordered, h⟩ := guard_ok.mp h
      push Not at hordered
      obtain ⟨gap, hgap, h⟩ : ∃ gap, (if previousEnd < start then
            encodeUnicodePiece data queues icu (icu.slice value previousEnd start) output
          else .ok output) = .ok gap ∧
          (encodeUnicodePiece data queues icu (icu.slice value start stop') gap >>=
            encodeMatches data queues icu value found stop') = .ok (stop, out) := by
        dsimp only at h
        split_ifs at h ⊢
        · exact bind_ok.mp h
        · exact ⟨output, rfl, h⟩
      obtain ⟨reached, hmatch, h⟩ := bind_ok.mp h
      obtain ⟨ids₁, bytes₁, rfl, hspells₁, hbytes₁⟩ : ∃ ids bytes, gap = output ++ ids ∧
          Spells data ids bytes ∧ ∀ last, start ≤ last → last ≤ icu.length value →
            bytes ++ icu.toUtf8 (icu.slice value start last) =
              icu.toUtf8 (icu.slice value previousEnd last) := by
        split_ifs at hgap with hlt
        · obtain ⟨ids, rfl, hspells⟩ := encodeUnicodePiece_spells hloaded hgap
          refine ⟨ids, _, rfl, hspells, fun last hle hlast => ?_⟩
          exact hicu.slice_append value previousEnd start last hlt.le hle hlast hstart
        · obtain rfl := Except.ok.inj hgap
          obtain rfl : start = previousEnd := by omega
          exact ⟨[], [], (List.append_nil _).symm, ⟨fun _ hid => absurd hid List.not_mem_nil, rfl⟩,
            fun last _ _ => rfl⟩
      obtain ⟨ids₂, rfl, hspells₂⟩ := encodeUnicodePiece_spells hloaded hmatch
      obtain ⟨hle, ids₃, bytes₃, rfl, hspells₃, hbytes₃⟩ := ih
        (fun a b hab => hfound a b (List.mem_cons_of_mem _ hab)) hlength h
      refine ⟨hle, ids₁ ++ (ids₂ ++ ids₃), _, by simp, hspells₁.append (hspells₂.append hspells₃),
        fun last hstoplast hlast => ?_⟩
      obtain ⟨hrest, hstop'⟩ := hbytes₃ last hstoplast hlast
      refine ⟨?_, by omega⟩
      rw [List.append_assoc, List.append_assoc, hrest,
        hicu.slice_append value start stop' last hordered.2.le (by omega) hlast hstop,
        hbytes₁ last (by omega) hlast]

lemma encodeNormalized_spells (hloaded : Loaded data) (hicu : IcuFaithful icu boundary nfc)
    {value : icu.UnicodeString} {output out : List ℕ}
    (h : encodeNormalized data queues icu value output = .ok out) :
    ∃ ids, out = output ++ ids ∧ Spells data ids (icu.toUtf8 value) := by
  cases hfind : icu.findAll value with
  | error status =>
    rw [encodeNormalized, hfind] at h
    cases h
  | ok result =>
    obtain ⟨found, status⟩ := result
    rw [encodeNormalized, hfind] at h
    obtain ⟨⟨stop, reached⟩, hmatches, h⟩ := bind_ok.mp h
    obtain ⟨hle, ids, bytes, rfl, hspells, hbytes⟩ := encodeMatches_spells hloaded hicu
      (hicu.matched value found status hfind) (Nat.zero_le _) hmatches
    have hall := (hbytes (icu.length value) hle le_rfl).1
    rw [hicu.slice_all] at hall
    cases status with
    | some status => cases h
    | none =>
      simp only [encodeRemainder] at h
      split_ifs at h with hlt
      · obtain ⟨ids', rfl, hspells'⟩ := encodeUnicodePiece_spells hloaded h
        exact ⟨ids ++ ids', by simp, hall ▸ hspells.append hspells'⟩
      · obtain rfl := Except.ok.inj h
        obtain rfl : stop = icu.length value := by omega
        rw [hicu.slice_empty, List.append_nil] at hall
        exact ⟨ids, rfl, hall ▸ hspells⟩

lemma encodeNormalSegment_spells (hloaded : Loaded data) (hicu : IcuFaithful icu boundary nfc)
    {segment : Bytes} (hne : segment ≠ []) (hwell : WellFormed segment) {output out : List ℕ}
    (h : encodeNormalSegment data queues icu segment output = .ok out) :
    ∃ ids, out = output ++ ids ∧ Spells data ids (nfc segment) := by
  rw [encodeNormalSegment_wellFormed data queues icu hne hwell] at h
  obtain ⟨-, h⟩ := guard_ok.mp h
  obtain ⟨value, hvalue, h⟩ := bind_ok.mp h
  have hnormal : icu.normalize (icu.fromUtf8 segment) = .ok value := by
    unfold normalizeSegment at hvalue
    split at hvalue
    · cases hvalue
    · split at hvalue
      · cases hvalue
      · rename_i hok
        rw [hok, Except.ok.inj hvalue]
  rw [← hicu.normal segment hwell value hnormal]
  exact encodeNormalized_spells hloaded hicu h

def normalText (nfc : Bytes → Bytes) : Piece UInt8 AddedEntry → Bytes
  | .plain segment => nfc segment
  | .marker token => addedContent token

-- The ids are ids of the tokenizer and stand for the bytes.
def Denotes (data : EncoderData) (ids : List ℕ) (bytes : Bytes) : Prop :=
  (∀ id ∈ ids, validId data id = true) ∧ decodedBytes data {} ids = bytes

lemma Denotes.append {ids ids' : List ℕ} {bytes bytes' : Bytes} (h : Denotes data ids bytes)
    (h' : Denotes data ids' bytes') : Denotes data (ids ++ ids') (bytes ++ bytes') := by
  refine ⟨fun id hid => ?_, ?_⟩
  · obtain hid | hid := List.mem_append.mp hid
    · exact h.1 id hid
    · exact h'.1 id hid
  · rw [← h.2, ← h'.2, decodedBytes, List.flatMap_append]
    rfl

lemma encodePiece_denotes (hloaded : Loaded data) (hicu : IcuFaithful icu boundary nfc)
    {piece : Piece UInt8 AddedEntry}
    (hplain : ∀ segment, piece = .plain segment → segment ≠ [] ∧ WellFormed segment)
    (hmarker : ∀ token, piece = .marker token → token ∈ pinnedAddedTokens)
    {output out : List ℕ} (h : encodePiece data queues icu output piece = .ok out) :
    ∃ ids, out = output ++ ids ∧ Denotes data ids (normalText nfc piece) := by
  cases piece with
  | plain segment =>
    obtain ⟨hne, hwell⟩ := hplain segment rfl
    obtain ⟨ids, hout, hvocab, hbytes⟩ := encodeNormalSegment_spells hloaded hicu hne hwell h
    refine ⟨ids, hout, fun id hid => ?_, hbytes⟩
    obtain ⟨token, htoken⟩ := hvocab id hid
    rw [validId, htoken]
    rfl
  | marker token =>
    obtain ⟨hnone, hadded⟩ := hloaded.addedById token (hmarker token rfl)
    obtain ⟨-, h⟩ := guard_ok.mp h
    refine ⟨[token.1], (Except.ok.inj h).symm, fun id hid => ?_, ?_⟩
    · rw [List.mem_singleton.mp hid, validId, hadded]
      simp
    · rw [decodedBytes, List.flatMap_singleton, idBytes, hnone, hadded]
      rfl

lemma encodePieces_denotes (hloaded : Loaded data) (hicu : IcuFaithful icu boundary nfc)
    {pieces : List (Piece UInt8 AddedEntry)}
    (hplain : ∀ segment, Piece.plain segment ∈ pieces → segment ≠ [] ∧ WellFormed segment)
    (hmarker : ∀ token, Piece.marker token ∈ pieces → token ∈ pinnedAddedTokens)
    {output out : List ℕ} (h : pieces.foldlM (encodePiece data queues icu) output = .ok out) :
    ∃ ids, out = output ++ ids ∧ Denotes data ids (pieces.flatMap (normalText nfc)) := by
  induction pieces generalizing output with
  | nil =>
    obtain rfl := Except.ok.inj h
    exact ⟨[], (List.append_nil _).symm, fun _ hid => absurd hid List.not_mem_nil, rfl⟩
  | cons piece pieces ih =>
    rw [List.foldlM_cons] at h
    obtain ⟨reached, hpiece, h⟩ := bind_ok.mp h
    obtain ⟨ids, rfl, hdenotes⟩ := encodePiece_denotes hloaded hicu
      (fun segment hs => hplain segment (hs ▸ List.mem_cons_self))
      (fun token ht => hmarker token (ht ▸ List.mem_cons_self)) hpiece
    obtain ⟨ids', rfl, hdenotes'⟩ := ih
      (fun segment hs => hplain segment (List.mem_cons_of_mem _ hs))
      (fun token ht => hmarker token (List.mem_cons_of_mem _ ht)) h
    exact ⟨ids ++ ids', by simp, hdenotes.append hdenotes'⟩

end Segments

section RoundTrip

variable {data : EncoderData} {queues : CandidateQueue} {icu : Icu}
  {boundary : icu.UnicodeString → ℕ → Prop} {nfc : Bytes → Bytes}

lemma cuts_markers {tokens : List AddedEntry} {text : Bytes}
    {pieces : List (Piece UInt8 AddedEntry)} (h : Cuts addedContent tokens text pieces)
    {token : AddedEntry} (htoken : Piece.marker token ∈ pieces) : token ∈ tokens := by
  have hplain : ∀ t : Bytes, Piece.marker token ∉ (plainOf t : List (Piece UInt8 AddedEntry)) := by
    intro t
    unfold plainOf
    split_ifs <;> simp
  induction h with
  | last => exact absurd htoken (hplain _)
  | step hi hfirst hrest ih =>
    simp only [List.mem_append, List.mem_cons, hplain, false_or, Piece.marker.injEq] at htoken
    obtain rfl | htoken := htoken
    · exact hi
    · exact ih htoken

-- What a successful encoding stands for.
lemma encodeImpl_denotes (hloaded : Loaded data) (hicu : IcuFaithful icu boundary nfc)
    {text : Bytes} {ids : List ℕ} (h : encodeImpl data queues icu text = .ok ids) :
    ∃ pieces, Cuts addedContent pinnedAddedTokens text pieces ∧
      text.length ≤ data.limits.maxInputBytes ∧ ids.length ≤ data.limits.maxTokens ∧
      Denotes data ids (pieces.flatMap (normalText nfc)) := by
  obtain ⟨pieces, hcuts, hlength, hrun⟩ :=
    encodeImpl_within hloaded.added (withinLimits_of_ok h)
  rw [h] at hrun
  obtain ⟨-, hplains⟩ | ⟨front, segment, offset, hat⟩ := cuts_wellFormed hcuts
  · obtain ⟨own, hown, hdenotes⟩ := encodePieces_denotes hloaded hicu
      (fun segment hs => ⟨hcuts.plain_ne_nil hs, hplains segment hs⟩)
      (fun token ht => cuts_markers hcuts ht) hrun.symm
    rw [List.nil_append] at hown
    obtain ⟨other, hother, happends⟩ :=
      Appending.foldlM (encodePiece_appending data queues icu) pieces _ _ hrun.symm
    rw [List.nil_append] at hother
    subst hother
    refine ⟨pieces, hcuts, hlength, ?_, hown ▸ hdenotes⟩
    obtain hnil | hfits := happends.fits
    · rw [hnil]
      exact Nat.zero_le _
    · simpa using hfits
  · obtain ⟨back, hback⟩ := hat.split
    rw [hback, List.foldlM_append] at hrun
    obtain ⟨reached, -, hrest⟩ := bind_ok.mp hrun.symm
    rw [List.foldlM_cons, encodePiece,
      encodeNormalSegment_illFormed data queues icu hat.segment_bad] at hrest
    cases hrest

lemma normalText_eq {pieces : List (Piece UInt8 AddedEntry)}
    (h : ∀ segment, Piece.plain segment ∈ pieces → nfc segment = segment) :
    pieces.flatMap (normalText nfc) = pieces.flatMap pieceText := by
  refine List.flatMap_congr fun piece hpiece => ?_
  cases piece with
  | plain segment => exact h segment hpiece
  | marker token => rfl

theorem decode_encode_normal_form (data : EncoderData) (hloaded : Loaded data)
    (queues : CandidateQueue) (icu : Icu) (boundary : icu.UnicodeString → ℕ → Prop)
    (nfc : Bytes → Bytes) (hicu : IcuFaithful icu boundary nfc) (text : Bytes) (ids : List ℕ)
    (decoded : Bytes) (hencode : encodeImpl data queues icu text = .ok ids)
    (hdecode : decode data.toTokenizerData ids {} = .ok decoded) :
    ∃ pieces, Cuts addedContent pinnedAddedTokens text pieces ∧
      decoded = pieces.flatMap (normalText nfc) ∧
      ((∀ segment, Piece.plain segment ∈ pieces → nfc segment = segment) → decoded = text) := by
  obtain ⟨pieces, hcuts, -, hcount, hvalid, hbytes⟩ := encodeImpl_denotes hloaded hicu hencode
  have hout : decoded = pieces.flatMap (normalText nfc) := by
    rw [decode_eq hloaded hcount hvalid] at hdecode
    split_ifs at hdecode
    · rw [← Except.ok.inj hdecode, hbytes]
    · cases hdecode
  refine ⟨pieces, hcuts, hout, fun hnormal => ?_⟩
  rw [hout, normalText_eq hnormal, cuts_text hcuts]

theorem decode_limits_decoded_bytes_iff (data : EncoderData) (hloaded : Loaded data) :
    (∀ (options : DecodeOptions) (tokenIds : List ℕ), tokenIds.length ≤ data.limits.maxTokens →
      (∀ id ∈ tokenIds, validId data id = true) →
      (LimitsDecodedBytes data options tokenIds ↔ RunsFit data tokenIds ∨
        data.limits.maxInputBytes < (decodedBytes data options tokenIds).length)) ∧
    ∀ (queues : CandidateQueue) (icu : Icu) (boundary : icu.UnicodeString → ℕ → Prop)
      (nfc : Bytes → Bytes), IcuFaithful icu boundary nfc → ∀ (text : Bytes) (ids : List ℕ),
      encodeImpl data queues icu text = .ok ids →
      (∀ pieces, Cuts addedContent pinnedAddedTokens text pieces →
        ∀ segment, Piece.plain segment ∈ pieces → nfc segment = segment) →
      (decode data.toTokenizerData ids {} = .ok text ↔ RunsFit data ids) := by
  refine ⟨fun options tokenIds hcount hvalid => limitsDecodedBytes_iff hloaded options hcount hvalid,
    ?_⟩
  intro queues icu boundary nfc hicu text ids hencode hnormal
  obtain ⟨pieces, hcuts, hlength, hcount, hvalid, hbytes⟩ :=
    encodeImpl_denotes hloaded hicu hencode
  rw [normalText_eq (hnormal pieces hcuts), cuts_text hcuts] at hbytes
  rw [decode_eq hloaded hcount hvalid, hbytes]
  split_ifs with hfits
  · exact ⟨fun _ => hfits.1, fun _ => rfl⟩
  · exact ⟨fun h => (by cases h), fun h => absurd ⟨h, hlength⟩ hfits⟩

end RoundTrip

section Sample

-- The byte tokens alone, under an input limit.
def byteData (maxInputBytes : ℕ) : EncoderData :=
  { limits := { maxInputBytes := maxInputBytes }
    idToToken := (List.range 256).map fun byte => byteEncoder (UInt8.ofNat byte)
    byteDecoder := byteDecoder
    byteTokenIds := fun byte => byte.toNat
    addedTokens := pinnedAddedTokens
    addedById := fun id => (pinnedAddedTokens.find? (·.1 == id)).map Prod.snd }

lemma byteData_loaded (maxInputBytes : ℕ) : Loaded (byteData maxInputBytes) where
  decoder := rfl
  byteTokens byte := by simp [byteData, byte.toNat_lt]
  byteLevel token htoken := by
    obtain ⟨byte, -, rfl⟩ := List.mem_map.mp htoken
    exact byteLevelToken_byteEncoder _
  merged _ _ _ _ _ _ _ h := nomatch h
  added := rfl
  addedById token htoken := by
    have hid := pinned_ids htoken
    have hlarge : 256 ≤ token.1 := Nat.le_trans (by decide) hid.1
    exact ⟨List.getElem?_eq_none (by simpa [byteData] using hlarge), hid.2⟩

lemma take_drop_append (value : Bytes) {a b c : ℕ} (hab : a ≤ b) (hbc : b ≤ c) :
    (value.drop a).take (b - a) ++ (value.drop b).take (c - b) =
      (value.drop a).take (c - a) := by
  rw [show c - a = b - a + (c - b) by omega, List.take_add, List.drop_drop,
    Nat.add_sub_cancel' hab]

lemma letterIcu_faithful : IcuFaithful letterIcu (fun _ _ => True) id where
  slice_all value := List.take_length
  slice_empty value a := by simp [letterIcu]
  slice_append value _ _ _ hab hbc _ _ := take_drop_append value hab hbc
  matched value found status h start stop hmem := by
    obtain ⟨rfl, -⟩ := Prod.mk.inj (Except.ok.inj h)
    split_ifs at hmem
    · cases hmem
    · obtain ⟨rfl, rfl⟩ := Prod.mk.inj (Option.some.inj (List.mem_singleton.mp hmem))
      exact ⟨trivial, trivial, le_rfl⟩
  normal segment _ value h := (Except.ok.inj h).symm

lemma byteData_runs :
    encodeImpl (byteData 100) listQueue letterIcu (ascii "a<think>b") = .ok [97, 248068, 98] ∧
    decode (byteData 100).toTokenizerData [97, 248068, 98] {} = .ok (ascii "a<think>b") ∧
    (∀ id ∈ [97], validId (byteData 1) id = true) ∧
    encodeImpl (byteData 1) listQueue letterIcu (ascii " ") = .ok [32] ∧
    decodedBytes (byteData 1) {} [32] = ascii " " ∧
    decode (byteData 1).toTokenizerData [32] {} =
      .error ⟨.inputTooLarge, "decoded output exceeds max_input_bytes", 0⟩ := by
  simp only [byteData, pinnedAddedTokens, pinnedAddedContents, List.zipIdx_cons, List.zipIdx_nil,
    List.map_cons, List.map_nil]
  repeat rw [ascii_ofList]
  decide +kernel

theorem think_between_letters_decoded :
    ∃ pieces, Cuts addedContent pinnedAddedTokens (ascii "a<think>b") pieces ∧
      ascii "a<think>b" = pieces.flatMap (normalText id) ∧
      ((∀ segment, Piece.plain segment ∈ pieces → id segment = segment) →
        ascii "a<think>b" = ascii "a<think>b") :=
  decode_encode_normal_form (byteData 100) (byteData_loaded 100) listQueue letterIcu _ id
    letterIcu_faithful (ascii "a<think>b") [97, 248068, 98] (ascii "a<think>b")
    byteData_runs.1 byteData_runs.2.1

theorem letter_decoded_within_limit :
    LimitsDecodedBytes (byteData 1) {} [97] ↔ RunsFit (byteData 1) [97] ∨
      1 < (decodedBytes (byteData 1) {} [97]).length :=
  (decode_limits_decoded_bytes_iff (byteData 1) (byteData_loaded 1)).1 {} [97] (by decide)
    byteData_runs.2.2.1

theorem space_exceeds_symbol_limit :
    encodeImpl (byteData 1) listQueue letterIcu (ascii " ") = .ok [32] ∧
      decodedBytes (byteData 1) {} [32] = ascii " " ∧
      ¬ LimitsDecodedBytes (byteData 1) {} [32] := by
  obtain ⟨-, -, -, hencode, hbytes, hdecode⟩ := byteData_runs
  refine ⟨hencode, hbytes, fun h => ?_⟩
  have hlarge := h.1.mp ⟨_, hdecode, rfl⟩
  rw [hbytes] at hlarge
  exact absurd hlarge (by decide)

end Sample

end Qwen3xOrin.Text
