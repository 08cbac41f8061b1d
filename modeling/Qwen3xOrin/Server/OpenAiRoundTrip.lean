import Qwen3xOrin.Io.JsonComplete
import Qwen3xOrin.Server.OpenAiProtocol

/-! Every payload is a JSON text for the object it was written from. -/

namespace Qwen3xOrin.Server

open Io.Json Library Library.Utf8

section Strings

lemma hexValue_hexDigit {nibble : ℕ} (h : nibble < 16) :
    hexValue (hexDigit nibble) = some nibble := by
  interval_cases nibble <;> decide

lemma encode_byte {byte : UInt8} (h : byte.toNat < 0x80) : encode byte.toNat = [byte] := by
  rw [encode, if_pos h, UInt8.ofNat_toNat]

lemma character_control {byte : UInt8} (h : byte.toNat < 0x20) :
    CharacterText
      (ascii "\\u00" ++ [hexDigit (byte.toNat / 16 % 16), hexDigit (byte.toNat % 16)]) [byte] := by
  have hhex : HexText [48, 48, hexDigit (byte.toNat / 16 % 16), hexDigit (byte.toNat % 16)]
      byte.toNat :=
    ⟨_, _, _, _, 0, 0, _, _, rfl, by decide, by decide,
      hexValue_hexDigit (Nat.mod_lt _ (by decide)), hexValue_hexDigit (Nat.mod_lt _ (by decide)),
      by omega⟩
  have hscalar : IsScalar byte.toNat := Or.inl (by omega)
  have hcharacter := CharacterText.unicode _ _ hhex hscalar
  rwa [encode_byte (by omega)] at hcharacter

lemma character_escapeByte {byte : UInt8} (h : byte.toNat < 0x80) :
    CharacterText (escapeByte byte) [byte] := by
  unfold escapeByte
  split_ifs with hquote hslash hb hf hn hr ht hcontrol
  · exact hquote ▸ .escape 34 34 (by decide)
  · exact hslash ▸ .escape 92 92 (by decide)
  · exact hb ▸ .escape 98 8 (by decide)
  · exact hf ▸ .escape 102 12 (by decide)
  · exact hn ▸ .escape 110 10 (by decide)
  · exact hr ▸ .escape 114 13 (by decide)
  · exact ht ▸ .escape 116 9 (by decide)
  · exact character_control (UInt8.lt_iff_toNat_lt.mp hcontrol)
  · exact .plain byte (UInt8.not_lt.mp hcontrol) (UInt8.lt_iff_toNat_lt.mpr h) hquote hslash

lemma escapeByte_wide {byte : UInt8} (h : 0x80 ≤ byte.toNat) : escapeByte byte = [byte] := by
  have hne : ∀ other : UInt8, other.toNat < 0x80 → byte ≠ other := by
    rintro other hother rfl
    omega
  unfold escapeByte
  rw [if_neg (hne _ (by decide)), if_neg (hne _ (by decide)), if_neg (hne _ (by decide)),
    if_neg (hne _ (by decide)), if_neg (hne _ (by decide)), if_neg (hne _ (by decide)),
    if_neg (hne _ (by decide)), if_neg]
  intro hless
  have hless := UInt8.lt_iff_toNat_lt.mp hless
  change byte.toNat < 0x20 at hless
  omega

lemma table_wide {unit : Bytes} (h : Table unit) (hlength : 1 < unit.length) :
    ∀ byte ∈ unit, 0x80 ≤ byte.toNat := by
  match unit, h with
  | [a, b], h =>
    simp only [Table, IsTail] at h
    simp only [List.forall_mem_cons, List.not_mem_nil, false_imp_iff, implies_true, and_true]
    omega
  | [a, b, c], h =>
    simp only [Table, IsTail] at h
    simp only [List.forall_mem_cons, List.not_mem_nil, false_imp_iff, implies_true, and_true]
    omega
  | [a, b, c, d], h =>
    simp only [Table, IsTail] at h
    simp only [List.forall_mem_cons, List.not_mem_nil, false_imp_iff, implies_true, and_true]
    omega
  | [a], h => simp at hlength

lemma flatMap_escapeByte_wide {unit : Bytes} (h : ∀ byte ∈ unit, 0x80 ≤ byte.toNat) :
    unit.flatMap escapeByte = unit := by
  induction unit with
  | nil => rfl
  | cons byte unit ih =>
    rw [List.flatMap_cons, escapeByte_wide (h byte List.mem_cons_self),
      ih fun other hother => h other (List.mem_cons_of_mem byte hother)]
    rfl

lemma character_unit {unit : Bytes} (h : Table unit) :
    CharacterText (unit.flatMap escapeByte) unit := by
  by_cases hlength : 1 < unit.length
  · rw [flatMap_escapeByte_wide (table_wide h hlength)]
    exact .wide unit h hlength
  · match unit, h, hlength with
    | [byte], h, _ =>
      rw [List.flatMap_singleton]
      exact character_escapeByte h
    | _ :: _ :: _, _, hlength => exact absurd (by simp) hlength

lemma stringText_escaped {value : Bytes} (h : WellFormed value) :
    StringText (value.flatMap escapeByte) value := by
  refine @WellFormed.induction (fun value => StringText (value.flatMap escapeByte) value) value h
    .nil ?_
  intro unit rest hunit _ ih
  rw [List.flatMap_append]
  exact .cons (character_unit hunit) ih

lemma parseString_appendJsonString (limits : Limits) {value : Bytes} (h : WellFormed value)
    (rest : Bytes) : parseString limits (appendJsonString value ++ rest) = .ok (value, rest) := by
  rw [appendJsonString, List.cons_append, List.append_assoc]
  exact parseString_complete (stringText_escaped h) rest

end Strings

section Written

-- A text together with the value it denotes.
structure Written where
  depth : ℕ
  values : ℕ
  items : ℕ
  text : Bytes
  value : Value
  denotes : Denotes depth values items text (.value value)

structure WrittenMembers (keys : List Bytes) where
  depth : ℕ
  values : ℕ
  items : ℕ
  text : Bytes
  members : List (Bytes × Value)
  members_keys : members.map (·.1) = keys
  denotes : Denotes depth values items text (.members members)

def Plain (key : Bytes) : Prop :=
  ∀ byte ∈ key, 0x20 ≤ byte ∧ byte < 0x80 ∧ byte ≠ 34 ∧ byte ≠ 92

instance (key : Bytes) : Decidable (Plain key) := List.decidableBAll _ _

lemma stringText_plain {key : Bytes} (h : Plain key) : StringText key key := by
  induction key with
  | nil => exact .nil
  | cons byte key ih =>
    obtain ⟨hlow, hhigh, hquote, hslash⟩ := h byte List.mem_cons_self
    exact .cons (.plain byte hlow hhigh hquote hslash)
      (ih fun other hother => h other (List.mem_cons_of_mem byte hother))

lemma whitespace_nil : Whitespace [] := fun _ hbyte => absurd hbyte (by simp)

def Written.null : Written := ⟨0, 1, 0, _, _, .null⟩

def Written.number (text : Bytes) (h : NumberText text) : Written := ⟨0, 1, 0, _, _, .number h⟩

def Written.unsigned (value : UInt64) : Written :=
  .number (toStringUnsigned value.toNat) (numberText_toStringUnsigned value.toNat)

def Written.signed (value : Int64) : Written :=
  .number (toStringSigned value.toInt) (numberText_toStringSigned value.toInt)

def Written.zero : Written := .number (ascii "0") (numberText_of_integer (Or.inl rfl))

def Written.string (value : Bytes) (h : WellFormed value) : Written :=
  ⟨0, 1, 0, appendJsonString value, .string value, .string (stringText_escaped h)⟩

lemma wellFormed_plain {key : Bytes} (h : Plain key) : WellFormed key := by
  induction key with
  | nil => exact wellFormed_nil
  | cons byte key ih =>
    have hbyte : Table [byte] := UInt8.lt_iff_toNat_lt.mp (h byte List.mem_cons_self).2.1
    exact wellFormed_append (wellFormed_unit hbyte)
      (ih fun other hother => h other (List.mem_cons_of_mem byte hother))

def Written.word (key : Bytes) (h : Plain key) : Written := .string key (wellFormed_plain h)

def Written.emptyArray : Written := ⟨1, 1, 0, [91, 93], .array [], .emptyArray whitespace_nil⟩

def Written.singleton (element : Written) : Written where
  depth := element.depth + 1
  values := element.values + 1
  items := element.items + 1
  text := 91 :: (element.text ++ [93])
  value := .array [element.value]
  denotes := by
    have helement := Denotes.element whitespace_nil element.denotes whitespace_nil
    simp only [List.nil_append, List.append_nil] at helement
    exact .array helement

def WrittenMembers.last (key : Bytes) (h : Plain key) (written : Written) :
    WrittenMembers [key] where
  depth := written.depth
  values := written.values
  items := written.items + 1
  text := 34 :: (key ++ 34 :: 58 :: written.text)
  members := [(key, written.value)]
  members_keys := rfl
  denotes := by
    have hmember := Denotes.member whitespace_nil (stringText_plain h) whitespace_nil
      whitespace_nil written.denotes whitespace_nil
    simpa only [List.nil_append, List.append_nil] using hmember

def WrittenMembers.cons {keys : List Bytes} (key : Bytes) (h : Plain key) (written : Written)
    (others : WrittenMembers keys) : WrittenMembers (key :: keys) where
  depth := max written.depth others.depth
  values := written.values + others.values
  items := written.items + 1 + others.items
  text := 34 :: (key ++ 34 :: 58 :: (written.text ++ 44 :: others.text))
  members := (key, written.value) :: others.members
  members_keys := congrArg (key :: ·) others.members_keys
  denotes := by
    have hmembers := Denotes.members whitespace_nil (stringText_plain h) whitespace_nil
      whitespace_nil written.denotes whitespace_nil others.denotes
    simpa only [List.nil_append] using hmembers

def Written.object {keys : List Bytes} (written : WrittenMembers keys) (h : keys.Nodup) :
    Written where
  depth := written.depth + 1
  values := written.values + 1
  items := written.items
  text := 123 :: (written.text ++ [125])
  value := .object (objectOf written.members)
  denotes := .object written.denotes (by rwa [written.members_keys])

lemma Written.parse (written : Written) {options : ParseOptions}
    (hlength : written.text.length ≤ options.maxInputBytes)
    (hdepth : written.depth ≤ min options.maxNestingDepth absoluteMaxNestingDepth)
    (hvalues : written.values ≤ options.maxValues)
    (hitems : written.items ≤ options.maxContainerItems) :
    Io.Json.parse written.text options = .ok written.value :=
  parse_complete ⟨hlength, written.depth, written.values, written.items, [], written.text, [],
    whitespace_nil, whitespace_nil, by simp, written.denotes, hdepth, hvalues, hitems⟩

end Written

section Responses

inductive Response
  | chatCompletion (id : Bytes) (created : Int64) (model text : Bytes)
    (finishReason : OpenAiFinishReason) (usage : OpenAiUsage)
  | textCompletion (id : Bytes) (created : Int64) (model text : Bytes)
    (finishReason : OpenAiFinishReason) (usage : OpenAiUsage)
  | chatChunk (id : Bytes) (created : Int64) (model textDelta : Bytes) (includeRole : Bool)
    (finishReason : Option OpenAiFinishReason)
  | textChunk (id : Bytes) (created : Int64) (model textDelta : Bytes)
    (finishReason : Option OpenAiFinishReason)
  | usageChunk (endpoint : OpenAiEndpoint) (id : Bytes) (created : Int64) (model : Bytes)
    (usage : OpenAiUsage)
  | error (error : OpenAiProtocolError)

def Response.serialize : Response → Bytes
  | chatCompletion id created model text finishReason usage =>
    serializeChatCompletion id created model text finishReason usage
  | textCompletion id created model text finishReason usage =>
    serializeTextCompletion id created model text finishReason usage
  | chatChunk id created model textDelta includeRole finishReason =>
    serializeChatChunk id created model textDelta includeRole finishReason
  | textChunk id created model textDelta finishReason =>
    serializeTextChunk id created model textDelta finishReason
  | usageChunk endpoint id created model usage =>
    serializeUsageChunk id created model endpoint usage
  | error e => serializeOpenAiError e

-- The strings it was given.
def Response.strings : Response → List Bytes
  | chatCompletion id _ model text _ _ => [id, model, text]
  | textCompletion id _ model text _ _ => [id, model, text]
  | chatChunk id _ model textDelta _ _ => [id, model, textDelta]
  | textChunk id _ model textDelta _ => [id, model, textDelta]
  | usageChunk _ id _ model _ => [id, model]
  | error e => [e.message, e.param, e.code]

def record (members : List (String × Value)) : Value :=
  .object (objectOf (members.map fun member => (ascii member.1, member.2)))

def word (text : String) : Value := .string (ascii text)

def usageValue (usage : OpenAiUsage) : Value :=
  record [("prompt_tokens", .number (toStringUnsigned usage.promptTokens.toNat)),
    ("completion_tokens", .number (toStringUnsigned usage.completionTokens.toNat)),
    ("total_tokens", .number (toStringUnsigned usage.totalTokens.toNat))]

def finishValue (finishReason : Option OpenAiFinishReason) : Value :=
  match finishReason with
  | some .stop => word "stop"
  | some .length => word "length"
  | none => .null

def commonMembers (id : Bytes) (object : String) (created : Int64) (model : Bytes) :
    List (String × Value) :=
  [("id", .string id), ("object", word object), ("created", .number (toStringSigned created.toInt)),
    ("model", .string model)]

-- The object that a client is to read.
def Response.value : Response → Value
  | chatCompletion id created model text finishReason usage =>
    record (commonMembers id "chat.completion" created model ++
      [("choices", .array [record [("index", .number (ascii "0")),
        ("message", record [("role", word "assistant"), ("content", .string text)]),
        ("logprobs", .null), ("finish_reason", finishValue finishReason)]]),
      ("usage", usageValue usage)])
  | textCompletion id created model text finishReason usage =>
    record (commonMembers id "text_completion" created model ++
      [("choices", .array [record [("index", .number (ascii "0")), ("text", .string text),
        ("logprobs", .null), ("finish_reason", finishValue finishReason)]]),
      ("usage", usageValue usage)])
  | chatChunk id created model textDelta includeRole finishReason =>
    record (commonMembers id "chat.completion.chunk" created model ++
      [("choices", .array [record [("index", .number (ascii "0")),
        ("delta", record ((if includeRole then [("role", word "assistant")] else []) ++
          [("content", .string textDelta)])),
        ("logprobs", .null), ("finish_reason", finishValue finishReason)]])])
  | textChunk id created model textDelta finishReason =>
    record (commonMembers id "text_completion" created model ++
      [("choices", .array [record [("index", .number (ascii "0")), ("text", .string textDelta),
        ("logprobs", .null), ("finish_reason", finishValue finishReason)]])])
  | usageChunk endpoint id created model usage =>
    record (commonMembers id
        (match endpoint with
          | .chatCompletions => "chat.completion.chunk"
          | .completions => "text_completion") created model ++
      [("choices", .array []), ("usage", usageValue usage)])
  | error e =>
    record [("error", record [("message", .string e.message),
      ("type", word "invalid_request_error"),
      ("param", if e.param = [] then .null else .string e.param), ("code", .string e.code)])]

def writtenUsage (usage : OpenAiUsage) : Written :=
  .object
    (.cons (ascii "prompt_tokens") (by decide) (.unsigned usage.promptTokens)
      (.cons (ascii "completion_tokens") (by decide) (.unsigned usage.completionTokens)
        (.last (ascii "total_tokens") (by decide) (.unsigned usage.totalTokens))))
    (by decide)

def writtenFinish (finishReason : Option OpenAiFinishReason) : Written :=
  match finishReason with
  | some reason => .word reason.toText (by cases reason <;> decide)
  | none => .null

def commonKeys (keys : List Bytes) : List Bytes :=
  ascii "id" :: ascii "object" :: ascii "created" :: ascii "model" :: keys

def writtenCommon {keys : List Bytes} (id object : Bytes) (created : Int64) (model : Bytes)
    (hid : WellFormed id) (hobject : Plain object) (hmodel : WellFormed model)
    (others : WrittenMembers keys) : WrittenMembers (commonKeys keys) :=
  .cons (ascii "id") (by decide) (.string id hid)
    (.cons (ascii "object") (by decide) (.word object hobject)
      (.cons (ascii "created") (by decide) (.signed created)
        (.cons (ascii "model") (by decide) (.string model hmodel) others)))

def writtenDelta (includeRole : Bool) (text : Bytes) (h : WellFormed text) : Written :=
  match includeRole with
  | true => .object
    (.cons (ascii "role") (by decide) (.word (ascii "assistant") (by decide))
      (.last (ascii "content") (by decide) (.string text h))) (by decide)
  | false => .object (.last (ascii "content") (by decide) (.string text h)) (by decide)

-- A choice with what it carries under `key`.
def writtenChoice (key : Bytes) (hkey : Plain key) (content : Written)
    (finishReason : Option OpenAiFinishReason)
    (h : [ascii "index", key, ascii "logprobs", ascii "finish_reason"].Nodup) : Written :=
  .singleton (.object
    (.cons (ascii "index") (by decide) .zero
      (.cons key hkey content
        (.cons (ascii "logprobs") (by decide) .null
          (.last (ascii "finish_reason") (by decide) (writtenFinish finishReason))))) h)

section Texts

lemma writtenUsage_text (usage : OpenAiUsage) : (writtenUsage usage).text = appendUsage usage := by
  simp only [appendUsage, writtenUsage, Written.object, WrittenMembers.cons, WrittenMembers.last,
    List.append_assoc, List.cons_append]
  repeat rw [ascii_ofList]
  rfl

lemma writtenFinish_text (finishReason : Option OpenAiFinishReason) :
    (writtenFinish finishReason).text = finishText finishReason := by
  cases finishReason <;> rfl

lemma writtenCommon_text {keys : List Bytes} {id object model : Bytes} {created : Int64}
    {hid : WellFormed id} {hobject : Plain object} {hmodel : WellFormed model}
    {others : WrittenMembers keys} :
    123 :: (writtenCommon id object created model hid hobject hmodel others).text =
      appendCommonPrefix id object created model ++ 44 :: others.text := by
  simp only [appendCommonPrefix, writtenCommon, WrittenMembers.cons, List.append_assoc]
  repeat rw [ascii_ofList]
  rfl

lemma writtenDelta_text {includeRole : Bool} {text : Bytes} {h : WellFormed text} :
    (writtenDelta includeRole text h).text =
      ascii "\x7b" ++ (if includeRole then ascii "\"role\":\"assistant\"," else []) ++
        ascii "\"content\":" ++ appendJsonString text ++ ascii "\x7d" := by
  cases includeRole <;>
  · simp only [writtenDelta, Written.object, WrittenMembers.cons, WrittenMembers.last,
      List.append_assoc, List.cons_append]
    repeat rw [ascii_ofList]
    rfl

lemma writtenChoice_text {key : Bytes} {hkey : Plain key} {content : Written}
    {finishReason : Option OpenAiFinishReason}
    {h : [ascii "index", key, ascii "logprobs", ascii "finish_reason"].Nodup} :
    (writtenChoice key hkey content finishReason h).text =
      ascii "[\x7b\"index\":0,\"" ++ key ++ ascii "\":" ++ content.text ++
        ascii ",\"logprobs\":null,\"finish_reason\":" ++ finishText finishReason ++
        ascii "\x7d]" := by
  rw [← writtenFinish_text]
  simp only [writtenChoice, Written.singleton, Written.object, WrittenMembers.cons,
    WrittenMembers.last, List.append_assoc, List.cons_append]
  repeat rw [ascii_ofList]
  rfl

end Texts

def Response.WellFormed (response : Response) : Prop :=
  ∀ text ∈ response.strings, Utf8.WellFormed text

structure Fits (response : Response) (written : Written) : Prop where
  text_eq : written.text = response.serialize
  value_eq : written.value = response.value
  depth_le : written.depth ≤ 4
  values_le : written.values ≤ 17
  items_le : written.items ≤ 16

section Fits

variable {id model text : Bytes} (hid : WellFormed id) (hmodel : WellFormed model)
  (htext : WellFormed text) (created : Int64)

include hid hmodel

lemma fits_usageChunk (endpoint : OpenAiEndpoint) (usage : OpenAiUsage) :
    ∃ written, Fits (.usageChunk endpoint id created model usage) written := by
  have hobject : Plain (if endpoint = .chatCompletions then ascii "chat.completion.chunk"
      else ascii "text_completion") := by
    cases endpoint <;> decide
  refine ⟨.object (writtenCommon id _ created model hid hobject hmodel
    (.cons (ascii "choices") (by decide) .emptyArray
      (.last (ascii "usage") (by decide) (writtenUsage usage)))) (by decide), ?_, ?_,
    Nat.le_of_ble_eq_true rfl, Nat.le_of_ble_eq_true rfl, Nat.le_of_ble_eq_true rfl⟩
  · simp only [Written.object, ← List.cons_append, writtenCommon_text]
    simp only [WrittenMembers.cons, WrittenMembers.last, writtenUsage_text, Response.serialize,
      serializeUsageChunk, List.append_assoc, List.cons_append]
    repeat rw [ascii_ofList]
    rfl
  · cases endpoint <;> rfl

include htext

lemma fits_chatCompletion (finishReason : OpenAiFinishReason) (usage : OpenAiUsage) :
    ∃ written, Fits (.chatCompletion id created model text finishReason usage) written := by
  refine ⟨.object (writtenCommon id (ascii "chat.completion") created model hid (by decide) hmodel
    (.cons (ascii "choices") (by decide)
      (writtenChoice (ascii "message") (by decide) (writtenDelta true text htext)
        (some finishReason) (by decide))
      (.last (ascii "usage") (by decide) (writtenUsage usage)))) (by decide), ?_, ?_,
    Nat.le_of_ble_eq_true rfl, Nat.le_of_ble_eq_true rfl, Nat.le_of_ble_eq_true rfl⟩
  · simp only [Written.object, ← List.cons_append, writtenCommon_text]
    simp only [WrittenMembers.cons, WrittenMembers.last, writtenChoice_text, writtenDelta_text,
      writtenUsage_text, Response.serialize, serializeChatCompletion, finishText,
      List.append_assoc, List.cons_append]
    repeat rw [ascii_ofList]
    rfl
  · cases finishReason <;> rfl

lemma fits_textCompletion (finishReason : OpenAiFinishReason) (usage : OpenAiUsage) :
    ∃ written, Fits (.textCompletion id created model text finishReason usage) written := by
  refine ⟨.object (writtenCommon id (ascii "text_completion") created model hid (by decide) hmodel
    (.cons (ascii "choices") (by decide)
      (writtenChoice (ascii "text") (by decide) (.string text htext) (some finishReason)
        (by decide))
      (.last (ascii "usage") (by decide) (writtenUsage usage)))) (by decide), ?_, ?_,
    Nat.le_of_ble_eq_true rfl, Nat.le_of_ble_eq_true rfl, Nat.le_of_ble_eq_true rfl⟩
  · simp only [Written.object, ← List.cons_append, writtenCommon_text]
    simp only [WrittenMembers.cons, WrittenMembers.last, writtenChoice_text, writtenUsage_text,
      Response.serialize, serializeTextCompletion, finishText, List.append_assoc,
      List.cons_append]
    repeat rw [ascii_ofList]
    rfl
  · cases finishReason <;> rfl

lemma fits_chatChunk (includeRole : Bool) (finishReason : Option OpenAiFinishReason) :
    ∃ written, Fits (.chatChunk id created model text includeRole finishReason) written := by
  refine ⟨.object (writtenCommon id (ascii "chat.completion.chunk") created model hid (by decide)
    hmodel
    (.last (ascii "choices") (by decide)
      (writtenChoice (ascii "delta") (by decide) (writtenDelta includeRole text htext)
        finishReason (by decide)))) (by decide), ?_, ?_, ?_, ?_, ?_⟩
  · simp only [Written.object, ← List.cons_append, writtenCommon_text]
    simp only [WrittenMembers.last, writtenChoice_text, writtenDelta_text, Response.serialize,
      serializeChatChunk, List.append_assoc, List.cons_append]
    repeat rw [ascii_ofList]
    rfl
  · cases includeRole <;> rcases finishReason with _ | _ | _ <;> rfl
  all_goals cases includeRole <;> cases finishReason <;> exact Nat.le_of_ble_eq_true rfl

lemma fits_textChunk (finishReason : Option OpenAiFinishReason) :
    ∃ written, Fits (.textChunk id created model text finishReason) written := by
  refine ⟨.object (writtenCommon id (ascii "text_completion") created model hid (by decide) hmodel
    (.last (ascii "choices") (by decide)
      (writtenChoice (ascii "text") (by decide) (.string text htext) finishReason
        (by decide)))) (by decide), ?_, ?_, ?_, ?_, ?_⟩
  · simp only [Written.object, ← List.cons_append, writtenCommon_text]
    simp only [WrittenMembers.last, writtenChoice_text, Response.serialize, serializeTextChunk,
      List.append_assoc, List.cons_append]
    repeat rw [ascii_ofList]
    rfl
  · rcases finishReason with _ | _ | _ <;> rfl
  all_goals cases finishReason <;> exact Nat.le_of_ble_eq_true rfl

end Fits

def writtenParam (param : Bytes) (h : WellFormed param) : Written :=
  if param = [] then .null else .string param h

lemma writtenParam_spec {param : Bytes} {h : WellFormed param} :
    (writtenParam param h).depth = 0 ∧ (writtenParam param h).values = 1 ∧
      (writtenParam param h).items = 0 ∧
      (writtenParam param h).text = (if param = [] then ascii "null" else appendJsonString param) ∧
      (writtenParam param h).value = (if param = [] then .null else .string param) := by
  unfold writtenParam
  rw [ascii_ofList]
  split_ifs <;> exact ⟨rfl, rfl, rfl, rfl, rfl⟩

lemma fits_error {error : OpenAiProtocolError} (hmessage : WellFormed error.message)
    (hparam : WellFormed error.param) (hcode : WellFormed error.code) :
    ∃ written, Fits (.error error) written := by
  obtain ⟨hdepth, hvalues, hitems, htext, hvalue⟩ := @writtenParam_spec error.param hparam
  refine ⟨.object (.last (ascii "error") (by decide) (.object
    (.cons (ascii "message") (by decide) (.string error.message hmessage)
      (.cons (ascii "type") (by decide) (.word (ascii "invalid_request_error") (by decide))
        (.cons (ascii "param") (by decide) (writtenParam error.param hparam)
          (.last (ascii "code") (by decide) (.string error.code hcode))))) (by decide)))
    (by decide), ?_, ?_, ?_, ?_, ?_⟩
  · simp only [Written.object, WrittenMembers.cons, WrittenMembers.last, htext,
      Response.serialize, serializeOpenAiError, List.append_assoc, List.cons_append]
    repeat rw [ascii_ofList]
    rfl
  · simp only [Written.object, WrittenMembers.cons, WrittenMembers.last, hvalue]
    rfl
  all_goals
    simp only [Written.object, WrittenMembers.cons, WrittenMembers.last, hdepth, hvalues, hitems]
    exact Nat.le_of_ble_eq_true rfl

lemma Response.fits {response : Response} (h : response.WellFormed) :
    ∃ written, Fits response written := by
  cases response with
  | chatCompletion id created model text finishReason usage =>
    simp only [WellFormed, strings, List.forall_mem_cons] at h
    exact fits_chatCompletion h.1 h.2.1 h.2.2.1 created finishReason usage
  | textCompletion id created model text finishReason usage =>
    simp only [WellFormed, strings, List.forall_mem_cons] at h
    exact fits_textCompletion h.1 h.2.1 h.2.2.1 created finishReason usage
  | chatChunk id created model textDelta includeRole finishReason =>
    simp only [WellFormed, strings, List.forall_mem_cons] at h
    exact fits_chatChunk h.1 h.2.1 h.2.2.1 created includeRole finishReason
  | textChunk id created model textDelta finishReason =>
    simp only [WellFormed, strings, List.forall_mem_cons] at h
    exact fits_textChunk h.1 h.2.1 h.2.2.1 created finishReason
  | usageChunk endpoint id created model usage =>
    simp only [WellFormed, strings, List.forall_mem_cons] at h
    exact fits_usageChunk h.1 h.2.1 created endpoint usage
  | error e =>
    simp only [WellFormed, strings, List.forall_mem_cons] at h
    exact fits_error h.1 h.2.1 h.2.2.1

-- Limits that no response reaches.
structure Sufficient (options : ParseOptions) (response : Response) : Prop where
  bytes : response.serialize.length ≤ options.maxInputBytes
  depth : 4 ≤ options.maxNestingDepth
  values : 17 ≤ options.maxValues
  items : 16 ≤ options.maxContainerItems

lemma parse_serialize {response : Response} (h : response.WellFormed) {options : ParseOptions}
    (hlimits : Sufficient options response) :
    parse response.serialize options = .ok response.value := by
  obtain ⟨written, hfits⟩ := Response.fits h
  have hdepth := hfits.depth_le
  have hparsed := @Written.parse written options (by rw [hfits.text_eq]; exact hlimits.bytes)
    (le_min (hdepth.trans hlimits.depth) (hdepth.trans (by decide)))
    (hfits.values_le.trans hlimits.values) (hfits.items_le.trans hlimits.items)
  rwa [hfits.text_eq, hfits.value_eq] at hparsed

end Responses

end Qwen3xOrin.Server
