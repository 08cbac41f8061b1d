import Qwen3xOrin.Server.OpenAiProtocol
import Qwen3xOrin.Text.ChatGrammar

/-! The messages of a chat request: what the server takes is taken by the chat template. -/

namespace Qwen3xOrin.Server

open Io.Json Library

open Qwen3xOrin.Text (ChatMessage ChatRoles)

section Parse

def failure {α : Type} (code : String) (message param : Bytes) : Except OpenAiProtocolError α :=
  .error { code := ascii code, message := message, param := param }

-- The error is the first unexpected key.
def hasOnlyMembers (members : List (Bytes × Value)) (allowed : List Bytes) : Except Bytes Unit :=
  members.forM fun member => if member.1 ∈ allowed then .ok () else .error member.1

def messageParam (index : ℕ) : Bytes := ascii "messages[" ++ toStringUnsigned index ++ ascii "]"

def parseMessage (index : ℕ) (value : Value) : Except OpenAiProtocolError ChatMessage :=
  match value with
  | .object members =>
    match hasOnlyMembers members [ascii "role", ascii "content"] with
    | .error unexpected =>
      failure "unsupported_message_field" (ascii "unsupported message field: " ++ unexpected)
        (messageParam index ++ ascii "." ++ unexpected)
    | .ok () =>
      match value.find (ascii "role"), value.find (ascii "content") with
      | some (.string role), some (.string content) =>
        if role ≠ ascii "system" ∧ role ≠ ascii "user" ∧ role ≠ ascii "assistant" then
          failure "unsupported_message_role"
            (ascii "only system, user, and assistant roles are supported")
            (messageParam index ++ ascii ".role")
        else .ok ⟨role, content⟩
      | _, _ =>
        failure "unsupported_message" (ascii "message role and content must be strings")
          (messageParam index)
  | _ => failure "invalid_messages" (ascii "each message must be an object") (messageParam index)

def leadingSystem : List ChatMessage → ℕ
  | message :: _ => if message.role = ascii "system" then 1 else 0
  | [] => 0

def expectedRole (turn : ℕ) : Bytes := if turn % 2 = 0 then ascii "user" else ascii "assistant"

def checkTurn (leading : ℕ) (message : ChatMessage × ℕ) : Except OpenAiProtocolError Unit :=
  if message.1.role ≠ expectedRole (message.2 - leading) then
    failure "invalid_messages"
      (ascii ("messages must alternate user and assistant after an " ++
        "optional leading system message"))
      (messageParam message.2 ++ ascii ".role")
  else .ok ()

def checkRoles (messages : List ChatMessage) : Except OpenAiProtocolError Unit :=
  if leadingSystem messages = messages.length then
    failure "invalid_messages" (ascii "a system message must be followed by a user message")
      (ascii "messages")
  else do
    (messages.zipIdx.drop (leadingSystem messages)).forM (checkTurn (leadingSystem messages))
    if messages.getLast?.map ChatMessage.role ≠ some (ascii "user") then
      failure "invalid_messages" (ascii "the final chat message must have role user")
        (messageParam (messages.length - 1) ++ ascii ".role")
    else .ok ()

def parseMessages (value : Value) : Except OpenAiProtocolError (List ChatMessage) :=
  match value with
  | .array (first :: rest) => do
    let messages ← (first :: rest).zipIdx.mapM fun message => parseMessage message.2 message.1
    checkRoles messages
    pure messages
  | _ =>
    failure "invalid_messages" (ascii "messages must be a non-empty array") (ascii "messages")

end Parse

section Roles

variable {messages : List ChatMessage}

lemma leadingSystem_le : leadingSystem messages ≤ messages.length := by
  cases messages with
  | nil => exact le_rfl
  | cons message rest =>
    rw [leadingSystem]
    split_ifs <;> simp

lemma take_leadingSystem :
    (Text.roles messages).take (leadingSystem messages) =
      if leadingSystem messages = 1 then [Text.systemRole] else [] := by
  cases messages with
  | nil => rfl
  | cons message rest =>
    rw [leadingSystem]
    by_cases hsystem : message.role = ascii "system"
    · rw [if_pos hsystem, if_pos rfl]
      exact congrArg (fun role => [role]) hsystem
    · rw [if_neg hsystem, if_neg Nat.zero_ne_one]
      rfl

lemma expectedRole_eq (turn : ℕ) : expectedRole turn = Text.turnRole (turn % 2 = 0) := by
  by_cases h : turn % 2 = 0 <;> simp [expectedRole, Text.turnRole, h] <;> rfl

lemma forM_ok {α ε : Type} {items : List α} {check : α → Except ε Unit}
    (h : items.forM check = .ok ()) : ∀ item ∈ items, check item = .ok () := by
  induction items with
  | nil => exact fun _ hitem => (List.not_mem_nil hitem).elim
  | cons first items ih =>
    rw [List.forM_eq_forM, List.forM_cons] at h
    obtain ⟨⟨⟩, hfirst, hrest⟩ := bind_ok.mp h
    intro item hitem
    obtain rfl | hitem := List.mem_cons.mp hitem
    · exact hfirst
    · exact ih hrest item hitem

lemma drop_turns {leading : ℕ}
    (h : (messages.zipIdx.drop leading).forM (checkTurn leading) = .ok ()) :
    (Text.roles messages).drop leading = Text.turns (messages.length - leading) := by
  refine List.ext_getElem (by simp [Text.roles, Text.turns]) fun turn hturn _ => ?_
  have hlength : leading + turn < messages.length := by
    rw [List.length_drop, Text.roles, List.length_map] at hturn
    omega
  have hmember : (messages[leading + turn], leading + turn) ∈ messages.zipIdx.drop leading := by
    rw [List.mem_iff_getElem]
    exact ⟨turn, by simp; omega, by simp⟩
  have hrole := of_not_not (guard_ok.mp (forM_ok h _ hmember)).1
  rw [Nat.add_sub_cancel_left, expectedRole_eq] at hrole
  simpa [Text.roles, Text.turns] using hrole

lemma turns_last (count : ℕ) :
    (Text.turns (count + 1)).getLast? = some (Text.turnRole (count % 2 = 0)) := by
  rw [Text.turns, List.range_succ, List.map_append]
  exact List.getLast?_concat

lemma checkRoles_roles (h : checkRoles messages = .ok ()) :
    ChatRoles true (Text.roles messages) := by
  unfold checkRoles at h
  obtain ⟨hlength, h⟩ := guard_ok.mp h
  obtain ⟨⟨⟩, hturns, h⟩ := bind_ok.mp h
  have hlast := of_not_not (guard_ok.mp h).1
  obtain ⟨count, hcount⟩ : ∃ count, messages.length - leadingSystem messages = count + 1 := by
    have := @leadingSystem_le messages
    exact ⟨messages.length - leadingSystem messages - 1, by omega⟩
  have hsplit : Text.roles messages =
      (if leadingSystem messages = 1 then [Text.systemRole] else []) ++ Text.turns (count + 1) := by
    rw [← hcount, ← drop_turns hturns, ← take_leadingSystem, List.take_append_drop]
  refine ⟨leadingSystem messages = 1, count + 1, ?_, Nat.succ_pos _, fun _ => ?_⟩
  · simpa only [decide_eq_true_eq] using hsplit
  · have hfinal : (Text.roles messages).getLast? = some Text.userRole := by
      rw [Text.roles, List.getLast?_map]
      exact hlast
    rw [hsplit, List.getLast?_append, turns_last, Option.some_or, Option.some.injEq] at hfinal
    have heven : count % 2 = 0 := by
      by_contra hodd
      rw [decide_eq_false hodd] at hfinal
      exact absurd hfinal (by decide)
    omega

lemma parseMessages_roles {value : Value} (h : parseMessages value = .ok messages)
    (generationPrompt : Bool) : ChatRoles generationPrompt (Text.roles messages) := by
  unfold parseMessages at h
  split at h
  · obtain ⟨parsed, -, h⟩ := bind_ok.mp h
    obtain ⟨⟨⟩, hroles, h⟩ := bind_ok.mp h
    obtain rfl := Except.ok.inj h
    obtain ⟨leading, count, hshape, hcount, hodd⟩ := checkRoles_roles hroles
    exact ⟨leading, count, hshape, hcount, fun _ => hodd rfl⟩
  · cases h

end Roles

open Qwen3xOrin.Text in
-- What the two layers take, and what the template makes of it.
theorem chat_grammar_exact (isUWhiteSpace : ℕ → Bool) (limits : TokenizerLimits)
    (encode : Bytes → Except TokenizerError (List ℕ)) :
    (∀ messages options result,
      formatQwen36Chat isUWhiteSpace limits encode messages options = .ok result ↔
        Formatted isUWhiteSpace limits encode messages options result) ∧
    (∀ input content, trimUnicode isUWhiteSpace input = .ok content ↔
      ∃ segments, Decodes input segments ∧
        content = spelling (trimSegments (isTrimmed isUWhiteSpace) segments)) ∧
    ∀ value messages, parseMessages value = .ok messages → ∀ options : Qwen36ChatOptions,
      ChatRoles options.addGenerationPrompt (roles messages) ∧
        ((∃ result, formatQwen36Chat isUWhiteSpace limits encode messages options = .ok result) ↔
          messages.length ≤ limits.maxChatMessages ∧
          (∀ message ∈ messages, ContentOk isUWhiteSpace message) ∧
          (renderChat isUWhiteSpace messages options).length ≤ limits.maxInputBytes ∧
          ∃ tokenIds, encode (renderChat isUWhiteSpace messages options) = .ok tokenIds) := by
  refine ⟨fun _ _ _ => formatQwen36Chat_ok, fun _ _ => trimUnicode_ok,
    fun value messages hparsed options => ?_⟩
  have hroles := parseMessages_roles hparsed options.addGenerationPrompt
  refine ⟨hroles, ?_⟩
  simp only [formatQwen36Chat_ok]
  constructor
  · rintro ⟨⟨rendered, tokenIds⟩, h⟩
    obtain rfl : rendered = renderChat isUWhiteSpace messages options := h.rendered
    exact ⟨h.count, h.contents, h.size, tokenIds, h.encoded⟩
  · rintro ⟨hcount, hcontents, hsize, tokenIds, hencoded⟩
    exact ⟨⟨_, tokenIds⟩, hroles, hcount, hcontents, rfl, hsize, hencoded⟩

end Qwen3xOrin.Server
