import Qwen3xOrin.Server.OpenAiRoundTrip

/-! No payload breaks a line, so a stream of events splits only where they end. -/

namespace Qwen3xOrin.Server

open Io.Json Library Library.Utf8

section Events

def Breakless (text : Bytes) : Prop := ∀ byte ∈ text, byte ≠ 10 ∧ byte ≠ 13

instance (text : Bytes) : Decidable (Breakless text) := List.decidableBAll _ _

-- The end of a line, where a blank one ends the event. Both breaks, and their pair, end a line.
def readEvents (line : Bytes) (lines : List Bytes) : Bytes → List (List Bytes)
  | [] => []
  | 13 :: 10 :: rest =>
    if line = [] then lines :: readEvents [] [] rest else readEvents [] (lines ++ [line]) rest
  | byte :: rest =>
    if byte = 10 ∨ byte = 13 then
      if line = [] then lines :: readEvents [] [] rest else readEvents [] (lines ++ [line]) rest
    else readEvents (line ++ [byte]) lines rest

def splitEvents (stream : Bytes) : List (List Bytes) := readEvents [] [] stream

lemma breakless_append {text text' : Bytes} :
    Breakless (text ++ text') ↔ Breakless text ∧ Breakless text' := List.forall_mem_append

lemma breakless_hexDigit {nibble : ℕ} (h : nibble < 16) : Breakless [hexDigit nibble] := by
  interval_cases nibble <;> decide

lemma breakless_escapeByte (byte : UInt8) : Breakless (escapeByte byte) := by
  unfold escapeByte
  split_ifs with _ _ _ _ hn hr _ hcontrol
  · decide
  · decide
  · decide
  · decide
  · decide
  · decide
  · decide
  · refine breakless_append.2 ⟨by decide, ?_⟩
    exact (@breakless_append [_] [_]).mpr ⟨breakless_hexDigit (Nat.mod_lt _ (by decide)),
      breakless_hexDigit (Nat.mod_lt _ (by decide))⟩
  · simpa [Breakless] using ⟨hn, hr⟩

lemma breakless_appendJsonString (value : Bytes) : Breakless (appendJsonString value) := by
  refine (@breakless_append [34] _).mpr ⟨by decide, breakless_append.2 ⟨?_, by decide⟩⟩
  intro byte hbyte
  obtain ⟨source, -, hbyte⟩ := List.mem_flatMap.mp hbyte
  exact breakless_escapeByte source byte hbyte

lemma breakless_toStringUnsigned (value : ℕ) : Breakless (toStringUnsigned value) := by
  intro byte hbyte
  have hdigit := (digits_toStringUnsigned value).2 byte hbyte
  constructor <;>
  · rintro rfl
    revert hdigit
    decide

lemma breakless_toStringSigned (value : ℤ) : Breakless (toStringSigned value) := by
  unfold toStringSigned
  split_ifs
  · exact (@breakless_append [45] _).mpr ⟨by decide, breakless_toStringUnsigned _⟩
  · exact breakless_toStringUnsigned _

lemma breakless_finishText (finishReason : Option OpenAiFinishReason) :
    Breakless (finishText finishReason) := by
  cases finishReason with
  | none => decide
  | some reason => exact breakless_appendJsonString _

lemma breakless_appendUsage (usage : OpenAiUsage) : Breakless (appendUsage usage) := by
  simp only [appendUsage, breakless_append, breakless_toStringUnsigned, and_true]
  repeat rw [ascii_ofList]
  decide

lemma breakless_appendCommonPrefix (id object : Bytes) (created : Int64) (model : Bytes) :
    Breakless (appendCommonPrefix id object created model) := by
  simp only [appendCommonPrefix, breakless_append, breakless_appendJsonString,
    breakless_toStringSigned, and_true]
  repeat rw [ascii_ofList]
  decide

lemma breakless_serialize (response : Response) : Breakless response.serialize := by
  cases response with
  | chatCompletion id created model text finishReason usage =>
    simp only [Response.serialize, serializeChatCompletion, breakless_append,
      breakless_appendCommonPrefix, breakless_appendJsonString, breakless_appendUsage, and_true]
    repeat rw [ascii_ofList]
    decide
  | textCompletion id created model text finishReason usage =>
    simp only [Response.serialize, serializeTextCompletion, breakless_append,
      breakless_appendCommonPrefix, breakless_appendJsonString, breakless_appendUsage, and_true]
    repeat rw [ascii_ofList]
    decide
  | chatChunk id created model textDelta includeRole finishReason =>
    simp only [Response.serialize, serializeChatChunk, breakless_append,
      breakless_appendCommonPrefix, breakless_appendJsonString, breakless_finishText, and_true]
    repeat rw [ascii_ofList]
    cases includeRole <;> decide
  | textChunk id created model textDelta finishReason =>
    simp only [Response.serialize, serializeTextChunk, breakless_append,
      breakless_appendCommonPrefix, breakless_appendJsonString, breakless_finishText, and_true]
    repeat rw [ascii_ofList]
    decide
  | usageChunk endpoint id created model usage =>
    simp only [Response.serialize, serializeUsageChunk, breakless_append,
      breakless_appendCommonPrefix, breakless_appendUsage, and_true]
    repeat rw [ascii_ofList]
    decide
  | error e =>
    simp only [Response.serialize, serializeOpenAiError, breakless_append,
      breakless_appendJsonString, and_true]
    repeat rw [ascii_ofList]
    split_ifs
    · decide
    · exact ⟨⟨⟨by decide, breakless_appendJsonString e.param⟩, by decide⟩, by decide⟩

lemma readEvents_byte {line : Bytes} {lines : List Bytes} {byte : UInt8}
    (h : byte ≠ 10 ∧ byte ≠ 13) (rest : Bytes) :
    readEvents line lines (byte :: rest) = readEvents (line ++ [byte]) lines rest := by
  rw [readEvents]
  · rw [if_neg (by simp [h])]
  · rintro other rfl
    exact absurd rfl h.2

lemma readEvents_line {text : Bytes} (h : Breakless text) (line : Bytes) (lines : List Bytes)
    (rest : Bytes) :
    readEvents line lines (text ++ rest) = readEvents (line ++ text) lines rest := by
  induction text generalizing line with
  | nil => rw [List.nil_append, List.append_nil]
  | cons byte text ih =>
    rw [List.cons_append, readEvents_byte (h byte List.mem_cons_self),
      ih fun other hother => h other (List.mem_cons_of_mem byte hother)]
    simp

lemma splitEvents_sseData {payload : Bytes} (h : Breakless payload) (rest : Bytes) :
    splitEvents (sseData payload ++ rest) = [ascii "data: " ++ payload] :: splitEvents rest := by
  have hline : Breakless (ascii "data: " ++ payload) := breakless_append.2 ⟨by decide, h⟩
  rw [splitEvents, sseData, List.append_assoc, readEvents_line hline]
  rfl

lemma splitEvents_stream {payloads : List Bytes} (h : ∀ payload ∈ payloads, Breakless payload) :
    splitEvents (payloads.flatMap sseData) =
      payloads.map fun payload => [ascii "data: " ++ payload] := by
  induction payloads with
  | nil => rfl
  | cons payload payloads ih =>
    rw [List.flatMap_cons, splitEvents_sseData (h payload List.mem_cons_self),
      ih fun other hother => h other (List.mem_cons_of_mem payload hother), List.map_cons]

lemma stream_unique {payloads payloads' : List Bytes}
    (h : ∀ payload ∈ payloads, Breakless payload) (h' : ∀ payload ∈ payloads', Breakless payload)
    (hstream : payloads'.flatMap sseData = payloads.flatMap sseData) : payloads' = payloads := by
  have hsplit := splitEvents_stream h'
  rw [hstream, splitEvents_stream h] at hsplit
  refine (List.map_injective_iff.mpr ?_ hsplit).symm
  intro payload payload' heq
  exact List.append_cancel_left (List.singleton_inj.mp heq)

end Events

theorem response_round_trip :
    (∀ limits value rest, WellFormed value →
      parseString limits (appendJsonString value ++ rest) = .ok (value, rest)) ∧
    (∀ (response : Response) (options : ParseOptions), response.WellFormed →
      Sufficient options response → parse response.serialize options = .ok response.value) ∧
    (∀ created : Int64, toInt64 (toStringSigned created.toInt) = some created.toInt) ∧
    (∀ count : UInt64, toUint64 (toStringUnsigned count.toNat) = some count.toNat) ∧
    (∀ response : Response, Breakless response.serialize) ∧
    ∀ payloads : List Bytes, (∀ payload ∈ payloads, Breakless payload) →
      splitEvents (payloads.flatMap sseData) =
          payloads.map (fun payload => [ascii "data: " ++ payload]) ∧
        ∀ payloads', (∀ payload ∈ payloads', Breakless payload) →
          payloads'.flatMap sseData = payloads.flatMap sseData → payloads' = payloads :=
  ⟨fun limits _ rest h => parseString_appendJsonString limits h rest,
    fun _ _ h hlimits => parse_serialize h hlimits, toInt64_toStringSigned,
    toUint64_toStringUnsigned, breakless_serialize,
    fun _ h => ⟨splitEvents_stream h, fun _ h' => stream_unique h h'⟩⟩

def sampleResponse : Response :=
  .chatChunk (ascii "chatcmpl-1") 7 (ascii "qwen") [34, 10, 0xc3, 0xa9] true (some .stop)

lemma sampleResponse_length : sampleResponse.serialize.length ≤ 512 := by
  simp only [sampleResponse, Response.serialize, serializeChatChunk, appendCommonPrefix, finishText]
  repeat rw [ascii_ofList]
  decide +kernel

theorem response_round_trip_sample :
    sampleResponse.WellFormed ∧ Sufficient {} sampleResponse ∧
      parse sampleResponse.serialize {} = .ok sampleResponse.value ∧
      splitEvents ([sampleResponse.serialize].flatMap sseData) =
        [[ascii "data: " ++ sampleResponse.serialize]] := by
  have hwords : sampleResponse.WellFormed := by
    refine List.forall_mem_cons.mpr ⟨wellFormed_plain (by decide), ?_⟩
    refine List.forall_mem_cons.mpr ⟨wellFormed_plain (by decide), ?_⟩
    refine List.forall_mem_singleton.mpr ⟨[34, 10, 0xe9], by simp [IsScalar], by decide⟩
  have hlimits : Sufficient {} sampleResponse :=
    ⟨sampleResponse_length.trans (by decide), by decide, by decide, by decide⟩
  exact ⟨hwords, hlimits, response_round_trip.2.1 _ _ hwords hlimits,
    (response_round_trip.2.2.2.2.2 [sampleResponse.serialize]
      (List.forall_mem_singleton.mpr (breakless_serialize sampleResponse))).1⟩

end Qwen3xOrin.Server
