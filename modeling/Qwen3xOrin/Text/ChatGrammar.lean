import Qwen3xOrin.Text.Trim

/-! The message lists that the chat template takes, and the text it makes of them. -/

namespace Qwen3xOrin.Text

open Library

section Grammar

def systemRole : Bytes := ascii "system"
def userRole : Bytes := ascii "user"
def assistantRole : Bytes := ascii "assistant"

def turnRole (expectUser : Bool) : Bytes := if expectUser then userRole else assistantRole

-- Turns of the user and the assistant, one after the other.
def turns (count : ℕ) : List Bytes := (List.range count).map fun turn => turnRole (turn % 2 = 0)

def ChatRoles (generationPrompt : Bool) (roles : List Bytes) : Prop :=
  ∃ (leading : Bool) (count : ℕ),
    roles = (if leading then [systemRole] else []) ++ turns count ∧ 0 < count ∧
      (generationPrompt = true → count % 2 = 1)

def alternates : Bool → List Bytes → Prop
  | _, [] => True
  | expectUser, role :: roles => role = turnRole expectUser ∧ alternates (!expectUser) roles

lemma alternates_cons (expectUser : Bool) (role : Bytes) (roles : List Bytes) :
    alternates expectUser (role :: roles) =
      (role = turnRole expectUser ∧ alternates (!expectUser) roles) := rfl

lemma alternates_iff (expectUser : Bool) (roles : List Bytes) :
    alternates expectUser roles ↔
      roles = (List.range roles.length).map fun turn => turnRole (expectUser == (turn % 2 = 0)) := by
  induction roles generalizing expectUser with
  | nil => simp [alternates]
  | cons role roles ih =>
    have hshift (turn : ℕ) : ((!expectUser) == decide (turn % 2 = 0)) =
        (expectUser == decide ((turn + 1) % 2 = 0)) := by
      cases expectUser <;> rcases Nat.mod_two_eq_zero_or_one turn with h | h <;>
        simp [Nat.add_mod, h]
    rw [alternates_cons, ih, List.length_cons, List.range_succ_eq_map, List.map_cons, List.map_map,
      List.cons.injEq]
    simp only [hshift, Function.comp_def]
    simp

lemma alternates_turns (roles : List Bytes) :
    alternates true roles ↔ roles = turns roles.length := by
  rw [alternates_iff, turns]
  simp only [Bool.true_beq]

lemma turns_length (count : ℕ) : (turns count).length = count := by simp [turns]

lemma role_ne : systemRole ≠ userRole ∧ systemRole ≠ assistantRole ∧ userRole ≠ assistantRole := by
  decide

end Grammar

section Template

variable (isUWhiteSpace : ℕ → Bool)

def trimmedContent (content : Bytes) : Bytes :=
  match trimUnicode isUWhiteSpace content with
  | .ok trimmed => trimmed
  | .error _ => []

def thinkingMarkup (content : Bytes) : Prop :=
  ascii "<think>" <:+: content ∨ ascii "</think>" <:+: content

-- A message whose content the template takes.
def ContentOk (message : ChatMessage) : Prop :=
  (∃ segments, Decodes message.content segments) ∧
    (message.role = assistantRole →
      ¬thinkingMarkup (trimmedContent isUWhiteSpace message.content))

def templateOpening (role : Bytes) (afterLastUser : Bool) : Bytes :=
  if role = assistantRole ∧ afterLastUser then
    ascii "<|im_start|>assistant\n<think>\n\n</think>\n\n"
  else ascii "<|im_start|>" ++ role ++ ascii "\n"

def templateBlock (message : ChatMessage) (afterLastUser : Bool) : Bytes :=
  templateOpening message.role afterLastUser ++ trimmedContent isUWhiteSpace message.content ++
    ascii "<|im_end|>\n"

def renderTemplate : List ChatMessage → Bytes
  | [] => []
  | message :: messages =>
    templateBlock isUWhiteSpace message (messages.all fun later => later.role ≠ userRole) ++
      renderTemplate messages

def renderChat (messages : List ChatMessage) (options : Qwen36ChatOptions) : Bytes :=
  renderTemplate isUWhiteSpace messages ++
    if options.addGenerationPrompt then generationSuffix options else []

-- The same with the test that the code makes: whether the index is past that of the last user.
def renderIndexed (lastUser : ℕ) : ℕ → List ChatMessage → Bytes
  | _, [] => []
  | index, message :: messages =>
    templateBlock isUWhiteSpace message (lastUser < index) ++
      renderIndexed lastUser (index + 1) messages

end Template

section Steps

variable {isUWhiteSpace : ℕ → Bool} {limits : TokenizerLimits} {lastUser : ℕ}
  {state reached : ChatState} {message : ChatMessage}

lemma appendBounded_ok {output text appended : Bytes} {limit : ℕ} :
    appendBounded output text limit = .ok appended ↔
      appended = output ++ text ∧ appended.length ≤ limit := by
  unfold appendBounded setError
  split_ifs with h
  · simp only [false_iff]
    rintro ⟨rfl, hle⟩
    rw [List.length_append] at hle
    omega
  · rw [Except.ok.injEq]
    constructor
    · rintro rfl
      refine ⟨rfl, ?_⟩
      rw [List.length_append]
      omega
    · exact fun h => h.1.symm

lemma appendMessage_ok {rendered opening content appended : Bytes} :
    appendMessage limits rendered opening content = .ok appended ↔
      appended = rendered ++ (opening ++ content ++ ascii "<|im_end|>\n") ∧
        appended.length ≤ limits.maxInputBytes := by
  unfold appendMessage
  simp only [bind_ok, appendBounded_ok]
  constructor
  · rintro ⟨_, ⟨rfl, -⟩, _, ⟨rfl, -⟩, rfl, hle⟩
    exact ⟨by simp, hle⟩
  · rintro ⟨rfl, hle⟩
    simp only [List.length_append] at hle
    refine ⟨_, ⟨rfl, ?_⟩, _, ⟨rfl, ?_⟩, by simp, ?_⟩ <;> simp only [List.length_append] <;> omega

lemma contentOk_trim : (∃ segments, Decodes message.content segments) ↔
    trimUnicode isUWhiteSpace message.content =
      .ok (trimmedContent isUWhiteSpace message.content) := by
  constructor
  · rintro ⟨segments, hsegments⟩
    have htrim := (@trimUnicode_ok isUWhiteSpace message.content _).mpr ⟨segments, hsegments, rfl⟩
    rw [trimmedContent, htrim]
  · intro h
    obtain ⟨segments, hsegments, -⟩ := trimUnicode_ok.mp h
    exact ⟨segments, hsegments⟩

-- What a message of each role does to the state when it is taken.
def advanceChat (isUWhiteSpace : ℕ → Bool) (lastUser : ℕ) (state : ChatState) (message : ChatMessage) : ChatState where
  index := state.index + 1
  expectUser :=
    if message.role = systemRole then state.expectUser
    else decide (message.role ≠ userRole)
  sawUser := state.sawUser || decide (message.role = userRole)
  rendered := state.rendered ++ templateBlock isUWhiteSpace message (lastUser < state.index)

def RoleOk (state : ChatState) (role : Bytes) : Prop :=
  role = systemRole ∧ state.index = 0 ∨ role = turnRole state.expectUser

lemma roleOk_system (h : message.role = systemRole) :
    RoleOk state message.role ↔ state.index = 0 := by
  have hturn : systemRole ≠ turnRole state.expectUser := by
    cases state.expectUser <;> decide
  rw [RoleOk, h]
  simp [hturn]

lemma roleOk_user (h : message.role = userRole) :
    RoleOk state message.role ↔ state.expectUser = true := by
  have hsystem : userRole ≠ systemRole := by decide
  have hassistant : userRole ≠ assistantRole := by decide
  rw [RoleOk, h]
  cases hexpect : state.expectUser <;> simp [turnRole, hsystem, hassistant]

lemma roleOk_assistant (h : message.role = assistantRole) :
    RoleOk state message.role ↔ state.expectUser = false := by
  have hsystem : assistantRole ≠ systemRole := by decide
  have huser : assistantRole ≠ userRole := by decide
  rw [RoleOk, h]
  cases hexpect : state.expectUser <;> simp [turnRole, hsystem, huser]

lemma not_roleOk (hsystem : message.role ≠ systemRole) (huser : message.role ≠ userRole)
    (hassistant : message.role ≠ assistantRole) : ¬RoleOk state message.role := by
  rw [RoleOk]
  cases hexpect : state.expectUser <;> simp [turnRole, hsystem, huser, hassistant]

lemma advance_system (h : message.role = systemRole) :
    { state with
      index := state.index + 1
      rendered := state.rendered ++ (ascii "<|im_start|>system\n" ++
        trimmedContent isUWhiteSpace message.content ++ ascii "<|im_end|>\n") } =
      advanceChat isUWhiteSpace lastUser state message := by
  have hopening : templateOpening systemRole (lastUser < state.index) =
      ascii "<|im_start|>system\n" := rfl
  have huser : systemRole ≠ userRole := by decide
  simp [advanceChat, templateBlock, h, hopening, huser]

lemma advance_user (h : message.role = userRole) :
    (⟨state.index + 1, false, true, state.rendered ++ (ascii "<|im_start|>user\n" ++
      trimmedContent isUWhiteSpace message.content ++ ascii "<|im_end|>\n")⟩ : ChatState) =
      advanceChat isUWhiteSpace lastUser state message := by
  have hopening : templateOpening userRole (lastUser < state.index) =
      ascii "<|im_start|>user\n" := rfl
  have hsystem : userRole ≠ systemRole := by decide
  simp [advanceChat, templateBlock, h, hopening, hsystem]

lemma advance_assistant (h : message.role = assistantRole) :
    { state with
      index := state.index + 1
      expectUser := true
      rendered := state.rendered ++ ((if lastUser < state.index then
          ascii "<|im_start|>assistant\n<think>\n\n</think>\n\n"
        else ascii "<|im_start|>assistant\n") ++
        trimmedContent isUWhiteSpace message.content ++ ascii "<|im_end|>\n") } =
      advanceChat isUWhiteSpace lastUser state message := by
  have hopening : templateOpening assistantRole (lastUser < state.index) =
      if lastUser < state.index then ascii "<|im_start|>assistant\n<think>\n\n</think>\n\n"
      else ascii "<|im_start|>assistant\n" := by
    rw [templateOpening]
    simp only [true_and, decide_eq_true_eq]
    rfl
  have hsystem : assistantRole ≠ systemRole := by decide
  have huser : assistantRole ≠ userRole := by decide
  simp [advanceChat, templateBlock, h, hopening, hsystem, huser]

-- The rest of a step once its role is known to be taken.
lemma appendMessage_advance {opening content : Bytes} {after : Bytes → ChatState}
    (hafter : ∀ rendered, (after rendered).rendered = rendered)
    (hadvance : after (state.rendered ++ (opening ++ content ++ ascii "<|im_end|>\n")) =
      advanceChat isUWhiteSpace lastUser state message) :
    (appendMessage limits state.rendered opening content >>= fun rendered =>
        pure (after rendered)) = .ok reached ↔
      reached = advanceChat isUWhiteSpace lastUser state message ∧
        reached.rendered.length ≤ limits.maxInputBytes := by
  rw [bind_ok]
  constructor
  · rintro ⟨rendered, hrendered, hreached⟩
    obtain ⟨rfl, hle⟩ := appendMessage_ok.1 hrendered
    obtain rfl := Except.ok.inj hreached
    exact ⟨hadvance, by rw [hafter]; exact hle⟩
  · rintro ⟨rfl, hle⟩
    rw [← hadvance, hafter] at hle
    exact ⟨_, appendMessage_ok.2 ⟨rfl, hle⟩, congrArg Except.ok hadvance⟩

lemma formatMessage_ok :
    formatMessage isUWhiteSpace limits lastUser state message = .ok reached ↔
      ContentOk isUWhiteSpace message ∧ RoleOk state message.role ∧
        reached = advanceChat isUWhiteSpace lastUser state message ∧
        reached.rendered.length ≤ limits.maxInputBytes := by
  unfold formatMessage
  by_cases hdecodes : ∃ segments, Decodes message.content segments
  · have hcontent : ContentOk isUWhiteSpace message ↔ (message.role = assistantRole →
        ¬thinkingMarkup (trimmedContent isUWhiteSpace message.content)) :=
      and_iff_right hdecodes
    rw [contentOk_trim.1 hdecodes, ok_bind, hcontent]
    by_cases hsystem : message.role = ascii "system"
    · have hassistant : message.role ≠ assistantRole := by
        rw [hsystem]
        decide
      rw [if_pos hsystem, roleOk_system hsystem]
      by_cases hindex : state.index = 0
      · rw [if_neg (not_not.mpr hindex),
          appendMessage_advance (fun _ => rfl) (@advance_system _ lastUser _ _ hsystem)]
        simp [hassistant, hindex]
      · rw [if_pos hindex]
        simp [setError, hindex]
    rw [if_neg hsystem]
    by_cases huser : message.role = ascii "user"
    · have hassistant : message.role ≠ assistantRole := by
        rw [huser]
        decide
      rw [if_pos huser, roleOk_user huser]
      by_cases hexpect : state.expectUser = false
      · rw [if_pos hexpect]
        simp [setError, hexpect]
      · rw [if_neg hexpect, appendMessage_advance (fun _ => rfl) (@advance_user _ lastUser _ _ huser)]
        simp [hassistant, hexpect]
    rw [if_neg huser]
    by_cases hassistant : message.role = ascii "assistant"
    · rw [if_pos hassistant, roleOk_assistant hassistant]
      by_cases hexpect : state.expectUser = true
      · rw [if_pos (Or.inl hexpect)]
        simp [setError, hexpect]
      by_cases hmarkup : ascii "<think>" <:+: trimmedContent isUWhiteSpace message.content ∨
          ascii "</think>" <:+: trimmedContent isUWhiteSpace message.content
      · rw [if_pos (Or.inr hmarkup)]
        simp only [setError, reduceCtorEq, false_iff]
        exact fun h => h.1 hassistant hmarkup
      · rw [if_neg (not_or.mpr ⟨hexpect, hmarkup⟩)]
        dsimp only
        rw [appendMessage_advance (fun _ => rfl) (advance_assistant hassistant)]
        simp [hexpect, thinkingMarkup, hmarkup]
    · rw [if_neg hassistant]
      simp [setError, not_roleOk hsystem huser hassistant]
  · cases htrim : trimUnicode isUWhiteSpace message.content with
    | ok content =>
      obtain ⟨segments, hsegments, -⟩ := trimUnicode_ok.mp htrim
      exact absurd ⟨segments, hsegments⟩ hdecodes
    | error error =>
      simp [ContentOk, hdecodes, bind, Except.bind]

end Steps

section Roles

variable {isUWhiteSpace : ℕ → Bool} {limits : TokenizerLimits} {lastUser : ℕ}
  {state reached : ChatState} {messages : List ChatMessage}

def rolesOk : Bool → Bool → List Bytes → Prop
  | _, _, [] => True
  | first, expectUser, role :: roles =>
    role = systemRole ∧ first = true ∧ rolesOk false expectUser roles ∨
      role = turnRole expectUser ∧ rolesOk false (!expectUser) roles

lemma rolesOk_unfold (first expectUser : Bool) (role : Bytes) (roles : List Bytes) :
    rolesOk first expectUser (role :: roles) =
      (role = systemRole ∧ first = true ∧ rolesOk false expectUser roles ∨
        role = turnRole expectUser ∧ rolesOk false (!expectUser) roles) := rfl

def roles (messages : List ChatMessage) : List Bytes := messages.map ChatMessage.role

lemma turnRole_ne_system (expectUser : Bool) : turnRole expectUser ≠ systemRole := by
  cases expectUser <;> decide

lemma rolesOk_cons {message : ChatMessage} :
    rolesOk (state.index = 0) state.expectUser (roles (message :: messages)) ↔
      RoleOk state message.role ∧
        rolesOk ((advanceChat isUWhiteSpace lastUser state message).index = 0)
          (advanceChat isUWhiteSpace lastUser state message).expectUser (roles messages) := by
  have hnext : decide ((advanceChat isUWhiteSpace lastUser state message).index = 0) = false :=
    rfl
  have hroles : roles (message :: messages) = message.role :: roles messages := rfl
  rw [hnext, hroles, rolesOk_unfold, RoleOk, advanceChat]
  dsimp only
  by_cases hsystem : message.role = systemRole
  · simp [hsystem, (turnRole_ne_system state.expectUser).symm]
  · rw [if_neg hsystem]
    simp only [hsystem, false_and, false_or]
    refine and_congr_right fun hturn => ?_
    have hflip : (decide (message.role ≠ userRole)) = !state.expectUser := by
      rw [hturn]
      cases state.expectUser <;> decide
    rw [hflip]

lemma rendered_le_foldl (messages : List ChatMessage) (state : ChatState) :
    state.rendered.length ≤
      (messages.foldl (advanceChat isUWhiteSpace lastUser) state).rendered.length := by
  induction messages generalizing state with
  | nil => exact le_rfl
  | cons message messages ih =>
    refine le_trans ?_ (ih (advanceChat isUWhiteSpace lastUser state message))
    simp [advanceChat]

lemma formatMessages_ok (hroom : state.rendered.length ≤ limits.maxInputBytes) :
    messages.foldlM (formatMessage isUWhiteSpace limits lastUser) state = .ok reached ↔
      (∀ message ∈ messages, ContentOk isUWhiteSpace message) ∧
        rolesOk (state.index = 0) state.expectUser (roles messages) ∧
        reached = messages.foldl (advanceChat isUWhiteSpace lastUser) state ∧
        reached.rendered.length ≤ limits.maxInputBytes := by
  induction messages generalizing state with
  | nil =>
    simp only [List.foldlM_nil, pure, Except.pure, Except.ok.injEq, List.not_mem_nil,
      false_implies, implies_true, roles, List.map_nil, rolesOk, true_and, List.foldl_nil]
    exact ⟨fun h => ⟨h.symm, h ▸ hroom⟩, fun h => h.1.symm⟩
  | cons message messages ih =>
    rw [List.foldlM_cons, bind_ok, @rolesOk_cons isUWhiteSpace lastUser, List.foldl_cons,
      List.forall_mem_cons]
    constructor
    · rintro ⟨next, hnext, hrest⟩
      obtain ⟨hcontent, hrole, rfl, hnextRoom⟩ := formatMessage_ok.1 hnext
      obtain ⟨hcontents, hroles, hreached, hlength⟩ := (ih hnextRoom).mp hrest
      exact ⟨⟨hcontent, hcontents⟩, ⟨hrole, hroles⟩, hreached, hlength⟩
    · rintro ⟨⟨hcontent, hcontents⟩, ⟨hrole, hroles⟩, rfl, hlength⟩
      have hnextRoom := (rendered_le_foldl messages
        (advanceChat isUWhiteSpace lastUser state message)).trans hlength
      exact ⟨_, formatMessage_ok.2 ⟨hcontent, hrole, rfl, hnextRoom⟩,
        (ih hnextRoom).mpr ⟨hcontents, hroles, rfl, hlength⟩⟩

lemma foldl_rendered (messages : List ChatMessage) (state : ChatState) :
    (messages.foldl (advanceChat isUWhiteSpace lastUser) state).rendered =
      state.rendered ++ renderIndexed isUWhiteSpace lastUser state.index messages := by
  induction messages generalizing state with
  | nil => simp [renderIndexed]
  | cons message messages ih =>
    rw [List.foldl_cons, ih, renderIndexed]
    simp [advanceChat]

lemma foldl_sawUser (messages : List ChatMessage) (state : ChatState) :
    (messages.foldl (advanceChat isUWhiteSpace lastUser) state).sawUser = true ↔
      state.sawUser = true ∨ userRole ∈ roles messages := by
  induction messages generalizing state with
  | nil => simp [roles]
  | cons message messages ih =>
    have hroles : roles (message :: messages) = message.role :: roles messages := rfl
    have hsaw : (advanceChat isUWhiteSpace lastUser state message).sawUser = true ↔
        state.sawUser = true ∨ userRole = message.role := by
      rw [advanceChat, Bool.or_eq_true, decide_eq_true_eq, @eq_comm _ userRole]
    rw [List.foldl_cons, ih, hroles, List.mem_cons, hsaw, or_assoc]

lemma rolesOk_later {expectUser : Bool} {names : List Bytes} :
    rolesOk false expectUser names ↔ alternates expectUser names := by
  induction names generalizing expectUser with
  | nil => rfl
  | cons role names ih =>
    rw [rolesOk_unfold, alternates_cons, @ih (!expectUser)]
    simp

lemma foldl_expectUser (hroles : alternates state.expectUser (roles messages)) :
    (messages.foldl (advanceChat isUWhiteSpace lastUser) state).expectUser =
      (state.expectUser == decide (messages.length % 2 = 0)) := by
  induction messages generalizing state with
  | nil => simp
  | cons message messages ih =>
    obtain ⟨hrole, hrest⟩ := hroles
    have hrole : message.role = turnRole state.expectUser := hrole
    have hflip : (advanceChat isUWhiteSpace lastUser state message).expectUser =
        !state.expectUser := by
      rw [advanceChat]
      dsimp only
      rw [hrole, if_neg (turnRole_ne_system _)]
      cases state.expectUser <;> decide
    rw [List.foldl_cons, ih (by rw [hflip]; exact hrest), hflip, List.length_cons]
    cases state.expectUser <;> rcases Nat.mod_two_eq_zero_or_one messages.length with h | h <;>
      simp [Nat.add_mod, h]

section Lists

variable {generationPrompt : Bool} {role : Bytes} {names : List Bytes}

lemma turns_head (count : ℕ) : ∃ rest, turns (count + 1) = userRole :: rest := by
  rw [turns, List.range_succ_eq_map, List.map_cons]
  exact ⟨_, rfl⟩

lemma chatRoles_system :
    ChatRoles generationPrompt (systemRole :: names) ↔
      alternates true names ∧ names ≠ [] ∧ (generationPrompt = true → names.length % 2 = 1) := by
  constructor
  · rintro ⟨leading, count, hnames, hcount, hprompt⟩
    obtain ⟨count, rfl⟩ : ∃ less, count = less + 1 := ⟨count - 1, by omega⟩
    obtain ⟨rest, hrest⟩ := turns_head count
    cases leading with
    | false =>
      rw [if_neg Bool.false_ne_true, List.nil_append, hrest] at hnames
      exact absurd (List.cons.inj hnames).1 (by decide)
    | true =>
      obtain rfl : names = turns (count + 1) := (List.cons.inj hnames).2
      rw [alternates_turns, turns_length]
      exact ⟨rfl, by rw [hrest]; exact List.cons_ne_nil _ _, hprompt⟩
  · rintro ⟨halternates, hne, hprompt⟩
    refine ⟨true, names.length, ?_, List.length_pos_iff.mpr hne, hprompt⟩
    rw [← (alternates_turns names).mp halternates]
    rfl

lemma chatRoles_turns (hsystem : role ≠ systemRole) :
    ChatRoles generationPrompt (role :: names) ↔
      alternates true (role :: names) ∧
        (generationPrompt = true → (role :: names).length % 2 = 1) := by
  constructor
  · rintro ⟨leading, count, hnames, hcount, hprompt⟩
    cases leading with
    | true => exact absurd (List.cons.inj hnames).1 hsystem
    | false =>
      rw [if_neg Bool.false_ne_true, List.nil_append] at hnames
      rw [hnames, alternates_turns, turns_length]
      exact ⟨rfl, hprompt⟩
  · rintro ⟨halternates, hprompt⟩
    refine ⟨false, (role :: names).length, ?_, Nat.succ_pos _, hprompt⟩
    rw [← (alternates_turns _).mp halternates]
    rfl

end Lists

lemma expectUser_iff (hexpect : state.expectUser = true)
    (halternates : alternates true (roles messages)) :
    (messages.foldl (advanceChat isUWhiteSpace lastUser) state).expectUser = false ↔
      (roles messages).length % 2 = 1 := by
  rw [foldl_expectUser (by rw [hexpect]; exact halternates), hexpect, Bool.true_beq,
    decide_eq_false_iff_not, roles, List.length_map]
  omega

-- The role checks of a whole list take the lists of the grammar and no other.
lemma chatRoles_iff {generationPrompt : Bool} :
    (rolesOk true true (roles messages) ∧ userRole ∈ roles messages ∧
      (generationPrompt = true →
        (messages.foldl (advanceChat isUWhiteSpace lastUser) {}).expectUser = false)) ↔
      ChatRoles generationPrompt (roles messages) := by
  cases messages with
  | nil =>
    simp only [roles, List.map_nil, List.not_mem_nil, false_and, and_false, false_iff]
    rintro ⟨leading, count, hroles, hcount, -⟩
    have hlength := congrArg List.length hroles
    rw [List.length_append, turns_length, List.length_nil] at hlength
    omega
  | cons message messages =>
    have hroles : roles (message :: messages) = message.role :: roles messages := rfl
    by_cases hsystem : message.role = systemRole
    · have hexpect : (advanceChat isUWhiteSpace lastUser {} message).expectUser = true := by
        simp [advanceChat, hsystem]
      have huser : userRole ≠ systemRole := by decide
      rw [hroles, rolesOk_unfold, @rolesOk_later true, hsystem, chatRoles_system, List.foldl_cons,
        List.mem_cons]
      simp only [(turnRole_ne_system true).symm, true_and, false_and, or_false, huser, false_or]
      refine and_congr_right fun halternates => ?_
      rw [expectUser_iff hexpect halternates]
      refine and_congr_left fun _ => ⟨List.ne_nil_of_mem, fun hne => ?_⟩
      obtain ⟨role, rest, hcons⟩ := List.exists_cons_of_ne_nil hne
      rw [hcons] at halternates ⊢
      exact List.mem_cons.mpr (Or.inl halternates.1.symm)
    · have hfirst : rolesOk true true (roles (message :: messages)) ↔
          alternates true (roles (message :: messages)) := by
        rw [hroles, rolesOk_unfold, alternates_cons, @rolesOk_later (!true)]
        simp [hsystem]
      rw [hfirst, hroles, chatRoles_turns hsystem, ← hroles]
      refine and_congr_right fun halternates => ?_
      have hmember : userRole ∈ roles (message :: messages) := by
        rw [hroles]
        exact List.mem_cons.mpr (Or.inl halternates.1.symm)
      rw [@expectUser_iff _ _ {} _ rfl halternates]
      exact and_iff_right hmember

end Roles

section LastUser

def lastUserFrom (last start : ℕ) (messages : List ChatMessage) : ℕ :=
  (messages.zipIdx start).foldl (fun last message =>
    if message.1.role = ascii "user" then message.2 else last) last

def hasUser (messages : List ChatMessage) : Prop := ∃ message ∈ messages, message.role = userRole

lemma lastUserFrom_cons (last start : ℕ) (message : ChatMessage) (messages : List ChatMessage) :
    lastUserFrom last start (message :: messages) =
      lastUserFrom (if message.role = userRole then start else last) (start + 1) messages := rfl

lemma lastUserFrom_append (last start : ℕ) (before after : List ChatMessage) :
    lastUserFrom last start (before ++ after) =
      lastUserFrom (lastUserFrom last start before) (start + before.length) after := by
  induction before generalizing last start with
  | nil => rfl
  | cons message before ih =>
    rw [List.cons_append, lastUserFrom_cons, ih, lastUserFrom_cons, List.length_cons]
    congr 1
    omega

lemma lastUserFrom_none {last start : ℕ} {messages : List ChatMessage} (h : ¬hasUser messages) :
    lastUserFrom last start messages = last := by
  induction messages generalizing start with
  | nil => rfl
  | cons message messages ih =>
    have hrole : message.role ≠ userRole := fun hrole => h ⟨message, List.mem_cons_self, hrole⟩
    rw [lastUserFrom_cons, if_neg hrole]
    exact ih fun ⟨other, hother, huser⟩ => h ⟨other, List.mem_cons_of_mem _ hother, huser⟩

lemma lastUserFrom_some {last start : ℕ} {messages : List ChatMessage} (h : hasUser messages) :
    start ≤ lastUserFrom last start messages ∧
      lastUserFrom last start messages < start + messages.length := by
  induction messages generalizing last start with
  | nil =>
    obtain ⟨message, hmessage, -⟩ := h
    cases hmessage
  | cons message messages ih =>
    rw [lastUserFrom_cons, List.length_cons]
    by_cases hlater : hasUser messages
    · have hlater := @ih (if message.role = userRole then start else last) (start + 1) hlater
      omega
    · have hrole : message.role = userRole := by
        obtain ⟨other, hother, huser⟩ := h
        obtain rfl | hother := List.mem_cons.mp hother
        · exact huser
        · exact absurd ⟨other, hother, huser⟩ hlater
      rw [lastUserFrom_none hlater, if_pos hrole]
      omega

variable {isUWhiteSpace : ℕ → Bool}

-- Past the last user is where no user follows, once there has been one.
lemma renderIndexed_eq (before messages : List ChatMessage) {first expectUser : Bool}
    (hroles : rolesOk first expectUser (roles messages))
    (huser : expectUser = false → hasUser before) :
    renderIndexed isUWhiteSpace (lastUserIndex (before ++ messages)) before.length messages =
      renderTemplate isUWhiteSpace messages := by
  induction messages generalizing before first expectUser with
  | nil => rfl
  | cons message messages ih =>
    have hsplit : before ++ message :: messages = (before ++ [message]) ++ messages := by simp
    have hlength : before.length + 1 = (before ++ [message]).length := by simp
    obtain ⟨later, hlater, hnext⟩ : ∃ later, rolesOk false later (roles messages) ∧
        (later = false → hasUser (before ++ [message])) := by
      obtain ⟨-, -, hrest⟩ | ⟨hrole, hrest⟩ := hroles
      · refine ⟨expectUser, hrest, fun hexpect => ?_⟩
        obtain ⟨other, hother, hisUser⟩ := huser hexpect
        exact ⟨other, List.mem_append_left _ hother, hisUser⟩
      · refine ⟨!expectUser, hrest, fun hexpect => ?_⟩
        rw [Bool.not_eq_false'] at hexpect
        rw [hexpect] at hrole
        exact ⟨message, by simp, hrole⟩
    rw [renderIndexed, renderTemplate, hlength, hsplit, ih (before ++ [message]) hlater hnext,
      ← hsplit]
    refine congrArg (· ++ _) ?_
    by_cases hassistant : message.role = assistantRole
    · have hbefore : hasUser before := by
        obtain ⟨hsystem, -, -⟩ | ⟨hrole, -⟩ := hroles
        · exact absurd (hsystem.symm.trans hassistant) (by decide)
        · cases expectUser with
          | false => exact huser rfl
          | true => exact absurd (hrole.symm.trans hassistant) (by decide)
      have hlast : lastUserIndex (before ++ message :: messages) < before.length ↔
          ¬hasUser messages := by
        have hstep : lastUserIndex (before ++ message :: messages) =
            lastUserFrom (lastUserFrom sizeMax 0 before) (before.length + 1) messages := by
          have hskip : message.role ≠ userRole := by
            rw [hassistant]
            decide
          have happend := lastUserFrom_append sizeMax 0 before (message :: messages)
          rw [lastUserFrom_cons, if_neg hskip, Nat.zero_add] at happend
          exact happend
        rw [hstep]
        by_cases hafter : hasUser messages
        · have hbound := (@lastUserFrom_some (lastUserFrom sizeMax 0 before)
            (before.length + 1) messages hafter).1
          simp only [hafter, not_true_eq_false, iff_false]
          omega
        · have hbound := (@lastUserFrom_some sizeMax 0 before hbefore).2
          rw [lastUserFrom_none hafter]
          simp only [hafter, not_false_eq_true, iff_true]
          omega
      have hflag : decide (lastUserIndex (before ++ message :: messages) < before.length) =
          messages.all fun later => later.role ≠ userRole := by
        rw [Bool.eq_iff_iff, decide_eq_true_eq, hlast, List.all_eq_true]
        simp [hasUser]
      rw [hflag]
    · simp [templateBlock, templateOpening, hassistant]

end LastUser

section Format

variable {isUWhiteSpace : ℕ → Bool} {limits : TokenizerLimits}
  {encode : Bytes → Except TokenizerError (List ℕ)} {messages : List ChatMessage}
  {options : Qwen36ChatOptions} {result : ChatResult}

lemma appendGenerationPrompt_ok {state : ChatState} {rendered : Bytes}
    (hroom : state.rendered.length ≤ limits.maxInputBytes) :
    appendGenerationPrompt limits options state = .ok rendered ↔
      (options.addGenerationPrompt = true → state.expectUser = false) ∧
        rendered = state.rendered ++
          (if options.addGenerationPrompt then generationSuffix options else []) ∧
        rendered.length ≤ limits.maxInputBytes := by
  unfold appendGenerationPrompt
  by_cases hprompt : options.addGenerationPrompt = true
  · rw [if_pos hprompt, if_pos hprompt]
    by_cases hexpect : state.expectUser = true
    · simp [setError, hprompt, hexpect]
    · rw [if_neg hexpect, appendBounded_ok]
      simp [hexpect]
  · rw [if_neg hprompt, if_neg hprompt, List.append_nil, Except.ok.injEq]
    constructor
    · rintro rfl
      exact ⟨fun h => absurd h hprompt, rfl, hroom⟩
    · exact fun h => h.2.1.symm

-- Everything the formatter asks of a list, and what it returns.
structure Formatted (isUWhiteSpace : ℕ → Bool) (limits : TokenizerLimits)
    (encode : Bytes → Except TokenizerError (List ℕ)) (messages : List ChatMessage)
    (options : Qwen36ChatOptions) (result : ChatResult) : Prop where
  roles : ChatRoles options.addGenerationPrompt (roles messages)
  count : messages.length ≤ limits.maxChatMessages
  contents : ∀ message ∈ messages, ContentOk isUWhiteSpace message
  rendered : result.rendered = renderChat isUWhiteSpace messages options
  size : result.rendered.length ≤ limits.maxInputBytes
  encoded : encode result.rendered = .ok result.tokenIds

lemma foldl_template (hroles : rolesOk true true (roles messages)) :
    (messages.foldl (advanceChat isUWhiteSpace (lastUserIndex messages)) {}).rendered =
      renderTemplate isUWhiteSpace messages := by
  rw [foldl_rendered]
  exact renderIndexed_eq [] messages hroles fun h => (Bool.noConfusion h)

lemma formatQwen36Chat_ok :
    formatQwen36Chat isUWhiteSpace limits encode messages options = .ok result ↔
      Formatted isUWhiteSpace limits encode messages options result := by
  unfold formatQwen36Chat
  constructor
  · intro h
    obtain ⟨hne, h⟩ := guard_ok.mp h
    obtain ⟨hcount, h⟩ := guard_ok.mp h
    obtain ⟨state, hstate, h⟩ := bind_ok.mp h
    obtain ⟨hsaw, h⟩ := guard_ok.mp h
    obtain ⟨rendered, hrendered, h⟩ := bind_ok.mp h
    obtain ⟨tokenIds, htokenIds, h⟩ := bind_ok.mp h
    obtain rfl := Except.ok.inj h
    obtain ⟨hcontents, hroles, rfl, hroom⟩ := (formatMessages_ok (Nat.zero_le _)).mp hstate
    obtain ⟨hprompt, hshape, hsize⟩ := (appendGenerationPrompt_ok hroom).mp hrendered
    rw [foldl_template hroles] at hshape
    have huser : userRole ∈ roles messages := by
      obtain hfalse | huser := (foldl_sawUser messages {}).mp (Bool.not_eq_false _ ▸ hsaw)
      · cases hfalse
      · exact huser
    exact ⟨chatRoles_iff.1 ⟨hroles, huser, hprompt⟩, Nat.le_of_not_lt hcount, hcontents, hshape,
      hsize, htokenIds⟩
  · rintro ⟨hchat, hcount, hcontents, hshape, hsize, hencoded⟩
    obtain ⟨hroles, huser, hprompt⟩ := (@chatRoles_iff isUWhiteSpace (lastUserIndex messages)
      messages options.addGenerationPrompt).mpr hchat
    have hne : messages ≠ [] := by
      rintro rfl
      cases huser
    have hroom : (messages.foldl (advanceChat isUWhiteSpace (lastUserIndex messages))
        {}).rendered.length ≤ limits.maxInputBytes := by
      rw [hshape, renderChat, List.length_append] at hsize
      rw [foldl_template hroles]
      omega
    refine guard_ok.mpr ⟨hne, guard_ok.mpr ⟨Nat.not_lt.mpr hcount, bind_ok.mpr
      ⟨_, (formatMessages_ok (Nat.zero_le _)).mpr ⟨hcontents, hroles, rfl, hroom⟩,
        guard_ok.mpr ⟨?_, bind_ok.mpr ⟨result.rendered, ?_, bind_ok.mpr
          ⟨result.tokenIds, hencoded, rfl⟩⟩⟩⟩⟩⟩
    · rw [(foldl_sawUser messages {}).mpr (Or.inr huser)]
      exact Bool.noConfusion
    · refine (appendGenerationPrompt_ok hroom).mpr ⟨hprompt, ?_, hsize⟩
      rw [foldl_template hroles]
      exact hshape

end Format

end Qwen3xOrin.Text
