import Qwen3xOrin.Io.JsonBudgets
import Qwen3xOrin.Server.OpenAiRequests
import Qwen3xOrin.Server.OpenAiRoundTrip

/-! A request for token ids against its two limits: the budgets of the JSON parser, and the steps
that the sequence has room for. -/

namespace Qwen3xOrin.Server

open Io.Json Library

-- The token ids in plain decimal.
def tokenArray (ids : List ℕ) : Value := .array (ids.map fun id => .number (toStringUnsigned id))

structure SupportedStreamOptions (root streamOptions : Value) : Prop where
  streaming : root.find (ascii "stream") = some (.bool true)
  usage : ∃ members, streamOptions = .object members ∧
    ∀ member ∈ members, member.1 = ascii "include_usage" ∧ ∃ enabled, member.2 = .bool enabled

-- The object carries this model, prompt and output limit, temperature 0, and beside them any of
-- the other fields that the gateway knows with a value that it supports.
structure Carries (servedModel : Bytes) (ids : List ℕ) (maxTokens : ℕ) (root : Value) : Prop where
  known : ∃ members, root = .object members ∧
    ∀ member ∈ members, member.1 ∈ payloadName .completions :: commonFields
  model : root.find (ascii "model") = some (.string servedModel)
  prompt : root.find (ascii "prompt") = some (tokenArray ids)
  maxTokens :
    root.find (ascii "max_tokens") = some (.number (toStringUnsigned maxTokens)) ∧
        root.find (ascii "max_completion_tokens") = none ∨
      root.find (ascii "max_tokens") = none ∧
        root.find (ascii "max_completion_tokens") = some (.number (toStringUnsigned maxTokens))
  temperature : ∃ text, root.find (ascii "temperature") = some (.number text) ∧
    NumberText text ∧ decimalValue text = 0
  topP : ∀ value ∈ root.find (ascii "top_p"), ∃ text, value = .number text ∧
    NumberText text ∧ nearestBinary64 (decimalValue text) = some 1
  n : ∀ value ∈ root.find (ascii "n"), value = .number (toStringUnsigned 1)
  seed : ∀ value ∈ root.find (ascii "seed"), ∃ text seed, value = .number text ∧
    toInt64 text = some seed
  stop : ∀ value ∈ root.find (ascii "stop"), value = .null
  stream : ∀ value ∈ root.find (ascii "stream"), ∃ enabled, value = .bool enabled
  streamOptions : ∀ value ∈ root.find (ascii "stream_options"), SupportedStreamOptions root value

section Fields

variable {servedModel : Bytes} {ids : List ℕ} {maxTokens : ℕ} {root : Value}

lemma hasOnlyMembers_ok {members : List (Bytes × Value)} {allowed : List Bytes}
    (h : ∀ member ∈ members, member.1 ∈ allowed) : hasOnlyMembers members allowed = .ok () := by
  induction members with
  | nil => rfl
  | cons member members ih =>
    have hrest := ih fun other hother => h other (List.mem_cons_of_mem member hother)
    rw [hasOnlyMembers, List.forM_eq_forM] at hrest ⊢
    rw [List.forM_cons, if_pos (h member List.mem_cons_self)]
    exact hrest

lemma parseUint32_toStringUnsigned {value : ℕ} (h : value < 2 ^ 32) :
    parseUint32 (.number (toStringUnsigned value)) = some value := by
  have htext := toUint64_toStringUnsigned (UInt64.ofNat value)
  rw [UInt64.toNat_ofNat_of_lt' (h.trans (by decide))] at htext
  rw [parseUint32, htext, Option.filter_some, if_pos (decide_eq_true h)]

lemma parseTokenId_ok {id : ℕ} (h : id < referenceVocabularySize) (index : ℕ) :
    parseTokenId (.number (toStringUnsigned id)) index = .ok id := by
  have hrange : id < 2 ^ 32 := h.trans (by decide)
  rw [parseTokenId, parseUint32_toStringUnsigned hrange]
  exact if_neg (Nat.not_le.mpr h)

lemma parseTokenIds_ok (h : ∀ id ∈ ids, id < referenceVocabularySize) (start : ℕ) :
    (((ids.map fun id => Value.number (toStringUnsigned id)).zipIdx start).mapM fun id =>
      parseTokenId id.1 id.2) = .ok ids := by
  induction ids generalizing start with
  | nil => rfl
  | cons id ids ih =>
    have hrest := ih (fun other hother => h other (List.mem_cons_of_mem id hother)) (start + 1)
    rw [List.map_cons, List.zipIdx_cons, List.mapM_cons, hrest,
      parseTokenId_ok (h id List.mem_cons_self)]
    rfl

lemma parsePrompt_tokenArray (hids : ids ≠ []) (h : ∀ id ∈ ids, id < referenceVocabularySize)
    (request : OpenAiRequest) :
    parsePrompt (tokenArray ids) request =
      .ok { request with promptTokenIds := ids, promptKind := .tokenIds } := by
  rw [tokenArray, parsePrompt, if_neg (by simpa using hids), parseTokenIds_ok h]
  rfl

lemma checkMember_ok {name code message : String} {supported : Value → Bool}
    (h : ∀ value ∈ root.find (ascii name), supported value = true) :
    checkMember root name supported code message = .ok () :=
  if_pos ((Option.all_eq_true _ _).mpr h)

namespace Carries

variable (h : Carries servedModel ids maxTokens root)

include h

lemma checkMembers_ok : checkMembers root .completions = .ok () := by
  obtain ⟨members, rfl, hmembers⟩ := h.known
  rw [checkMembers, hasOnlyMembers_ok hmembers]

lemma parseModel_ok (hserved : servedModel ≠ []) :
    parseModel root servedModel = .ok servedModel := by
  rw [parseModel, h.model]
  dsimp only
  rw [if_neg hserved, if_neg (not_not.mpr rfl)]

lemma parsePayload_ok (hids : ids ≠ []) (hvocabulary : ∀ id ∈ ids, id < referenceVocabularySize)
    (request : OpenAiRequest) (hendpoint : request.endpoint = .completions) :
    parsePayload root request =
      .ok { request with promptTokenIds := ids, promptKind := .tokenIds } := by
  have hprompt : root.find (payloadName .completions) = some (tokenArray ids) := h.prompt
  cases request
  cases hendpoint
  rw [parsePayload, hprompt]
  exact parsePrompt_tokenArray hids hvocabulary _

lemma parseMaxTokens_ok {maximumOutputTokens : ℕ} (hmaximum : maximumOutputTokens < 2 ^ 32)
    (hpositive : 0 < maxTokens) (hlimit : maxTokens ≤ maximumOutputTokens) :
    parseMaxTokens root maximumOutputTokens = .ok maxTokens := by
  have hvalue := parseUint32_toStringUnsigned (hlimit.trans_lt hmaximum)
  have hfilter : (parseUint32 (.number (toStringUnsigned maxTokens))).filter (fun maxTokens =>
      0 < maxTokens ∧ maxTokens ≤ maximumOutputTokens) = some maxTokens := by
    rw [hvalue, Option.filter_some, if_pos (decide_eq_true ⟨hpositive, hlimit⟩)]
  obtain ⟨htokens, hcompletion⟩ | ⟨htokens, hcompletion⟩ := h.maxTokens
  · rw [parseMaxTokens, htokens, hcompletion]
    dsimp only
    rw [hfilter]
  · rw [parseMaxTokens, htokens, hcompletion]
    dsimp only
    rw [hfilter]

lemma checkTemperature_ok : checkTemperature root = .ok () := by
  obtain ⟨text, hfind, htext, hzero⟩ := h.temperature
  have hnumber : isNumber (.number text) 0 = true := by
    rw [isNumber, toDouble_eq htext, hzero, nearestBinary64_zero]
    rfl
  rw [checkTemperature, hfind]
  exact if_pos hnumber

lemma checkTopP_ok : checkTopP root = .ok () :=
  checkMember_ok fun value hvalue => by
    obtain ⟨text, rfl, htext, hone⟩ := h.topP value hvalue
    rw [isNumber, toDouble_eq htext, hone]
    rfl

lemma checkN_ok : checkN root = .ok () :=
  checkMember_ok fun value hvalue => by
    rw [h.n value hvalue, parseUint32_toStringUnsigned (by decide)]
    rfl

lemma checkStop_ok : checkStop root = .ok () :=
  checkMember_ok fun value hvalue => by
    rw [h.stop value hvalue]
    rfl

lemma parseSeed_ok : ∃ seed, parseSeed root = .ok seed := by
  have hseed := h.seed
  unfold parseSeed
  cases hfind : root.find (ascii "seed") with
  | none => exact ⟨none, rfl⟩
  | some value =>
    obtain ⟨text, seed, rfl, htext⟩ := hseed value hfind
    dsimp only
    rw [htext]
    exact ⟨some seed, rfl⟩

lemma parseStream_ok : ∃ stream, parseStream root = .ok stream ∧
    (root.find (ascii "stream") = some (.bool true) → stream = true) := by
  have hstream := h.stream
  unfold parseStream
  cases hfind : root.find (ascii "stream") with
  | none => exact ⟨false, rfl, fun hsome => by cases hsome⟩
  | some value =>
    obtain ⟨enabled, rfl⟩ := hstream value hfind
    refine ⟨enabled, rfl, fun hsome => ?_⟩
    cases hsome
    rfl

lemma parseStreamOptions_ok {stream : Bool}
    (hstream : root.find (ascii "stream") = some (.bool true) → stream = true) :
    ∃ includeUsage, parseStreamOptions root stream = .ok includeUsage := by
  have hoptions := h.streamOptions
  unfold parseStreamOptions
  cases hfind : root.find (ascii "stream_options") with
  | none => exact ⟨false, rfl⟩
  | some streamOptions =>
    obtain ⟨hstreaming, members, rfl, hmembers⟩ := hoptions streamOptions hfind
    dsimp only
    rw [if_neg (by simp [hstream hstreaming]), parseIncludeUsage,
      hasOnlyMembers_ok fun member hmember => List.mem_singleton.mpr (hmembers member hmember).1]
    dsimp only
    cases husage : (Value.object members).find (ascii "include_usage") with
    | none => exact ⟨false, rfl⟩
    | some value =>
      obtain ⟨-, enabled, henabled⟩ := hmembers _ (mem_of_lookup husage)
      dsimp only at henabled
      rw [henabled]
      exact ⟨enabled, rfl⟩

end Carries

end Fields

section Request

variable {servedModel : Bytes} {ids : List ℕ} {root : Value}
  {maxTokens maximumOutputTokens maximumSequenceLength : ℕ}

structure WithinLimits (servedModel : Bytes) (ids : List ℕ) (maxTokens maximumOutputTokens
    maximumSequenceLength : ℕ) : Prop where
  served : servedModel ≠ []
  output : maximumOutputTokens < 2 ^ 32
  sequence : 1 ≤ maximumSequenceLength ∧ maximumSequenceLength ≤ absoluteRequestMaxSequenceLength
  prompt : ids ≠ []
  vocabulary : ∀ id ∈ ids, id < referenceVocabularySize
  tokens : 1 ≤ maxTokens ∧ maxTokens ≤ maximumOutputTokens

-- Behind the JSON parser the capacity alone decides.
lemma Carries.parseRequestObject_ok (h : Carries servedModel ids maxTokens root)
    (hlimits : WithinLimits servedModel ids maxTokens maximumOutputTokens maximumSequenceLength) :
    ((∃ request, parseRequestObject .completions servedModel maximumOutputTokens
        maximumSequenceLength root = .ok request) ↔
      ids.length + maxTokens - 1 ≤ maximumSequenceLength) ∧
    ∀ request, parseRequestObject .completions servedModel maximumOutputTokens
        maximumSequenceLength root = .ok request →
      request.promptKind = .tokenIds ∧ request.promptTokenIds = ids ∧
        request.maxTokens = maxTokens := by
  obtain ⟨seed, hseed⟩ := h.parseSeed_ok
  obtain ⟨stream, hstream, hstreaming⟩ := h.parseStream_ok
  obtain ⟨includeUsage, husage⟩ := h.parseStreamOptions_ok hstreaming
  have hpayload := h.parsePayload_ok hlimits.prompt hlimits.vocabulary
    { endpoint := .completions, model := servedModel, maxTokens := min 16 maximumOutputTokens } rfl
  have htokens := h.parseMaxTokens_ok hlimits.output hlimits.tokens.1 hlimits.tokens.2
  rw [parseRequestObject, h.checkMembers_ok, ok_bind, h.parseModel_ok hlimits.served, ok_bind,
    hpayload, ok_bind, htokens, ok_bind]
  dsimp only
  rw [checkCapacity]
  dsimp only
  split_ifs with hover
  · have hrefused : ∀ {rest : Unit → Except OpenAiProtocolError OpenAiRequest} {request},
        (failure "context_length_exceeded"
          (ascii ("prompt tokens plus requested output exceed the configured " ++
            "sequence capacity")) (ascii "prompt") >>= rest) ≠ .ok request := fun h => by cases h
    refine ⟨⟨fun ⟨request, hrequest⟩ => absurd hrequest hrefused, fun hfits => ?_⟩,
      fun request hrequest => absurd hrequest hrefused⟩
    exact absurd hover.2 (Nat.not_lt.mpr hfits)
  · have hfits : ids.length + maxTokens - 1 ≤ maximumSequenceLength := by
      by_contra hlong
      exact hover ⟨rfl, Nat.not_le.mp hlong⟩
    rw [ok_bind, h.checkTemperature_ok, ok_bind, h.checkTopP_ok, ok_bind, h.checkN_ok, ok_bind,
      hseed, ok_bind, h.checkStop_ok, ok_bind, hstream, ok_bind, husage, ok_bind]
    refine ⟨⟨fun _ => hfits, fun _ => ⟨_, rfl⟩⟩, fun request hrequest => ?_⟩
    cases hrequest
    exact ⟨rfl, rfl, rfl⟩

def memberValues (count : ℕ) (key : Bytes) : ℕ :=
  if key = ascii "prompt" then count + 1 else if key = ascii "stream_options" then 2 else 1

def memberItems (count : ℕ) (key : Bytes) : ℕ :=
  if key = ascii "prompt" then count else if key = ascii "stream_options" then 1 else 0

lemma sum_memberValues (count : ℕ) :
    ((payloadName .completions :: commonFields).map (memberValues count)).sum = count + 12 := by
  rfl

lemma sum_memberItems (count : ℕ) :
    ((payloadName .completions :: commonFields).map fun key => memberItems count key + 1).sum =
      count + 12 := by
  rfl

namespace Carries

variable (h : Carries servedModel ids maxTokens root)

include h

lemma known_of_find {key : Bytes} {value : Value} (hfind : root.find key = some value) :
    key ∈ payloadName .completions :: commonFields := by
  obtain ⟨members, rfl, hmembers⟩ := h.known
  exact hmembers _ (mem_of_lookup hfind)

-- Every member but the prompt and the stream options is one value.
lemma scalar_costs {key : Bytes} {value : Value} (hfind : root.find key = some value)
    (hprompt : key ≠ ascii "prompt") (hoptions : key ≠ ascii "stream_options") :
    Costs 0 1 0 (.value value) := by
  have hknown := h.known_of_find hfind
  simp only [payloadName, commonFields, List.mem_cons, List.not_mem_nil, or_false] at hknown
  obtain rfl | rfl | rfl | rfl | rfl | rfl | rfl | rfl | rfl | rfl | rfl := hknown
  · exact absurd rfl hprompt
  · obtain rfl := Option.some.inj (h.model.symm.trans hfind)
    exact Costs.string _
  · obtain ⟨htokens, -⟩ | ⟨hnone, -⟩ := h.maxTokens
    · obtain rfl := Option.some.inj (htokens.symm.trans hfind)
      exact Costs.number _
    · cases hnone.symm.trans hfind
  · obtain ⟨-, hnone⟩ | ⟨-, htokens⟩ := h.maxTokens
    · cases hnone.symm.trans hfind
    · obtain rfl := Option.some.inj (htokens.symm.trans hfind)
      exact Costs.number _
  · obtain ⟨text, htemperature, -⟩ := h.temperature
    obtain rfl := Option.some.inj (htemperature.symm.trans hfind)
    exact Costs.number _
  · obtain ⟨text, rfl, -⟩ := h.topP value hfind
    exact Costs.number _
  · rw [h.n value hfind]
    exact Costs.number _
  · obtain ⟨text, seed, rfl, -⟩ := h.seed value hfind
    exact Costs.number _
  · obtain ⟨enabled, rfl⟩ := h.stream value hfind
    exact Costs.bool _
  · exact absurd rfl hoptions
  · rw [h.stop value hfind]
    exact Costs.null

lemma member_costs {key : Bytes} {value : Value} (hfind : root.find key = some value) :
    Costs 1 (memberValues ids.length key) (memberItems ids.length key) (.value value) := by
  by_cases hprompt : key = ascii "prompt"
  · rw [memberValues, if_pos hprompt, memberItems, if_pos hprompt]
    rw [hprompt, h.prompt] at hfind
    obtain rfl := Option.some.inj hfind
    have hids : ∀ id ∈ ids.map fun id => Value.number (toStringUnsigned id),
        Costs 0 1 0 (.value id) := by
      intro value hvalue
      obtain ⟨id, -, rfl⟩ := List.mem_map.mp hvalue
      exact Costs.number _
    have hcosts := Costs.array hids
    rwa [List.length_map] at hcosts
  by_cases hoptions : key = ascii "stream_options"
  · rw [memberValues, if_neg hprompt, if_pos hoptions, memberItems, if_neg hprompt,
      if_pos hoptions]
    rw [hoptions] at hfind
    obtain ⟨-, members, rfl, hmembers⟩ := h.streamOptions value hfind
    have hcosts := @Costs.object 0 members [ascii "include_usage"] (fun _ => 1) (fun _ => 0)
    refine hcosts ?_ ?_
    · intro key value hlookup
      exact List.mem_singleton.mpr (hmembers _ (mem_of_lookup hlookup)).1
    · intro key value hlookup
      obtain ⟨-, enabled, rfl⟩ := hmembers _ (mem_of_lookup hlookup)
      exact Costs.bool _
  · rw [memberValues, if_neg hprompt, if_neg hoptions, memberItems, if_neg hprompt,
      if_neg hoptions]
    exact (h.scalar_costs hfind hprompt hoptions).mono (Nat.zero_le 1)

-- One value and one item for each token, and at most 13 for all the rest.
lemma root_costs : Costs 2 (ids.length + 13) (ids.length + 12) (.value root) := by
  obtain ⟨members, rfl, -⟩ := h.known
  have hcosts := Costs.object (fun _ _ hlookup => h.known_of_find hlookup)
    fun _ _ hlookup => h.member_costs hlookup
  rwa [sum_memberValues, sum_memberItems] at hcosts

-- The budgets follow the capacity, so that they never refuse what fits into it.
lemma parse_ok (hlimits : WithinLimits servedModel ids maxTokens maximumOutputTokens
    maximumSequenceLength) {body : Bytes} (hbody : body.length ≤ 4 * 1024 * 1024)
    (htext : TextOf body root) (hfits : ids.length + maxTokens - 1 ≤ maximumSequenceLength) :
    parse body (requestParseOptions maximumSequenceLength) = .ok root := by
  have htokens := hlimits.tokens.1
  have hdepth : 2 ≤ min 32 absoluteMaxNestingDepth := by decide
  refine htext.parse h.root_costs hbody hdepth ?_ ?_
  · show ids.length + 13 ≤ maximumSequenceLength + 256
    omega
  · show ids.length + 12 ≤ maximumSequenceLength + 256
    omega

end Carries

end Request

theorem token_request_admitted_iff {servedModel body : Bytes} {ids : List ℕ} {root : Value}
    {maxTokens maximumOutputTokens maximumSequenceLength : ℕ}
    (hlimits : WithinLimits servedModel ids maxTokens maximumOutputTokens maximumSequenceLength)
    (hbody : body.length ≤ 4 * 1024 * 1024) (htext : TextOf body root)
    (hcarries : Carries servedModel ids maxTokens root) :
    ((∃ request, parseOpenAiRequest .completions servedModel maximumOutputTokens
        maximumSequenceLength body = .ok request) ↔
      ids.length + maxTokens - 1 ≤ maximumSequenceLength) ∧
    (∀ request, parseOpenAiRequest .completions servedModel maximumOutputTokens
        maximumSequenceLength body = .ok request →
      request.promptKind = .tokenIds ∧ request.promptTokenIds = ids ∧
        request.maxTokens = maxTokens) ∧
    (ids.length + maxTokens - 1 ≤ maximumSequenceLength →
      parse body (requestParseOptions maximumSequenceLength) = .ok root) := by
  have hparse := hcarries.parse_ok hlimits hbody htext
  have hconfigured : ¬(servedModel = [] ∨ maximumOutputTokens = 0 ∨ maximumSequenceLength = 0 ∨
      absoluteRequestMaxSequenceLength < maximumSequenceLength) := by
    have := hlimits.sequence
    have := hlimits.tokens
    simp only [hlimits.served, false_or, not_or]
    omega
  obtain ⟨hadmitted, hexact⟩ := hcarries.parseRequestObject_ok hlimits
  unfold parseOpenAiRequest
  rw [if_neg hconfigured]
  cases hjson : parse body (requestParseOptions maximumSequenceLength) with
  | error error =>
    refine ⟨⟨fun ⟨request, hrequest⟩ => (by cases hrequest), fun hfits => ?_⟩,
      fun request hrequest => (by cases hrequest), fun hfits => ?_⟩
    · cases hjson.symm.trans (hparse hfits)
    · exact hjson.symm.trans (hparse hfits)
  | ok value =>
    obtain rfl := htext.unique hcarries.root_costs (by decide) hjson
    exact ⟨hadmitted, hexact, fun _ => rfl⟩

section Sample

lemma model_plain : Plain (ascii "model") := by decide

-- {"model":"m","prompt":[7],"max_tokens":3,"temperature":0}
def sampleBody : Written :=
  .object
    (.cons (ascii "model") model_plain (.word (ascii "m") (by decide))
      (.cons (ascii "prompt") (by decide) (.singleton (.unsigned 7))
        (.cons (ascii "max_tokens") (by decide) (.unsigned 3)
          (.last (ascii "temperature") (by decide) .zero))))
    (by decide)

lemma sampleBody_textOf : TextOf sampleBody.text sampleBody.value :=
  ⟨_, _, _, [], _, [], whitespace_nil, whitespace_nil, (List.append_nil _).symm,
    sampleBody.denotes⟩

lemma sampleBody_carries : Carries (ascii "m") [7] 3 sampleBody.value where
  known := ⟨_, rfl, by decide⟩
  model := rfl
  prompt := rfl
  maxTokens := Or.inl ⟨rfl, rfl⟩
  temperature := ⟨[48], rfl, numberText_toStringUnsigned 0, decimalValue_zero⟩
  topP := fun value hvalue => by cases hvalue
  n := fun value hvalue => by cases hvalue
  seed := fun value hvalue => by cases hvalue
  stop := fun value hvalue => by cases hvalue
  stream := fun value hvalue => by cases hvalue
  streamOptions := fun value hvalue => by cases hvalue

end Sample

theorem one_token_admitted :
    ∃ request, parseOpenAiRequest .completions (ascii "m") 16 3 sampleBody.text = .ok request := by
  have hlimits : WithinLimits (ascii "m") [7] 3 16 3 :=
    ⟨by decide, by decide, by decide, by decide, by decide, by decide⟩
  have hadmitted := token_request_admitted_iff hlimits (by decide) sampleBody_textOf
    sampleBody_carries
  exact hadmitted.1.mpr (by decide)

end Qwen3xOrin.Server
