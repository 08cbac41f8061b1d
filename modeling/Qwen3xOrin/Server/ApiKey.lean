import Mathlib.Data.LawfulXor.Basic
import Mathlib.Data.List.GetD
import Qwen3xOrin.Server.HttpRequest

/-! The API key: the file it is loaded from, and the comparison that a request has to pass. -/

namespace Qwen3xOrin.Server

open Library

def bearerPrefix : Bytes := ascii "Bearer "

-- The difference gathers the lengths, an empty key and every byte up to the expected size, without
-- leaving early.
def constantTimeBearerAuthorizationMatches (authorization apiKey : Bytes) : Bool :=
  let expectedSize := bearerPrefix.length + apiKey.length
  let difference := (authorization.length ^^^ expectedSize) ||| (if apiKey = [] then 1 else 0)
  let difference := (List.range expectedSize).foldl (fun difference index =>
    let expected :=
      if index < bearerPrefix.length then bearerPrefix.getD index 0
      else apiKey.getD (index - bearerPrefix.length) 0
    let actual := if index < authorization.length then authorization.getD index 0 else 0
    difference ||| (actual ^^^ expected).toNat) difference
  difference = 0

section KeyFile

def maximumEvaluationApiKeyBytes : ℕ := 4096
def maximumFileBytes : ℕ := maximumEvaluationApiKeyBytes + 2

def isBearerTokenCharacter (value : UInt8) : Bool :=
  97 ≤ value ∧ value ≤ 122 ∨ 65 ≤ value ∧ value ≤ 90 ∨ 48 ≤ value ∧ value ≤ 57 ∨ value = 45 ∨
    value = 46 ∨ value = 95 ∨ value = 126 ∨ value = 43 ∨ value = 47

structure FileMetadata where
  mode : UInt32
  user : ℕ
  size : ℤ

-- One call of `read`; the error is the text of an `errno` that is not EINTR.
inductive ReadCall
  | count (bytes : Bytes)
  | interrupted
  | failed (error : Bytes)

-- What the system calls on the path give back, in the order of the calls.
structure KeyFileCalls where
  opened : Except Bytes Unit
  metadata : Except Bytes FileMetadata
  effectiveUser : ℕ
  reads : List ReadCall

def oversizedKeyFile : Bytes := ascii "API key file exceeds the 4096-byte limit"

def checkMetadata (metadata : FileMetadata) (effectiveUser : ℕ) : Except Bytes Unit :=
  let permissions := metadata.mode &&& 0o7777
  if metadata.mode &&& 0o170000 ≠ 0o100000 then
    .error (ascii "API key file must be a regular file")
  else if metadata.user ≠ effectiveUser then
    .error (ascii "API key file must be owned by the server process user")
  else if permissions &&& 0o400 = 0 ∨ permissions &&& ~~~(0o400 ||| 0o200) ≠ 0 then
    .error (ascii "API key file permissions must be owner-only 0400 or 0600")
  else if metadata.size < 0 ∨ (maximumFileBytes : ℤ) < metadata.size then .error oversizedKeyFile
  else .ok ()

-- A call that counts no bytes is the end of the file, and so is the end of the list.
def readKeyFile (apiKey : Bytes) : List ReadCall → Except Bytes Bytes
  | [] => .ok apiKey
  | .count bytes :: reads =>
    if bytes = [] then .ok apiKey
    else if maximumFileBytes < (apiKey ++ bytes).length then .error oversizedKeyFile
    else readKeyFile (apiKey ++ bytes) reads
  | .interrupted :: reads => readKeyFile apiKey reads
  | .failed error :: _ => .error (ascii "API key file read failed: " ++ error)

def stripLineEnd (apiKey : Bytes) : Bytes :=
  if apiKey.getLast? = some 10 then
    if apiKey.dropLast.getLast? = some 13 then apiKey.dropLast.dropLast else apiKey.dropLast
  else apiKey

def notOneToken : Bytes := ascii "API key file must contain one ASCII Bearer token"

structure TokenScan where
  paddingStarted : Bool := false
  tokenCharacterSeen : Bool := false

def TokenScan.next (scan : TokenScan) (value : UInt8) : Except Bytes TokenScan :=
  if value = 61 then .ok { scan with paddingStarted := true }
  else if scan.paddingStarted ∨ isBearerTokenCharacter value = false then .error notOneToken
  else .ok { scan with tokenCharacterSeen := true }

def checkKey (apiKey : Bytes) : Except Bytes Bytes :=
  if apiKey = [] then .error (ascii "API key file must contain a non-empty key")
  else if maximumEvaluationApiKeyBytes < apiKey.length then .error oversizedKeyFile
  else do
    let scan ← apiKey.foldlM TokenScan.next {}
    if scan.tokenCharacterSeen = false then .error notOneToken else pure apiKey

def loadApiKeyFileImpl (path : Bytes) (calls : KeyFileCalls) : Except Bytes Bytes :=
  if path = [] then .error (ascii "API key file path must not be empty")
  else
    match calls.opened with
    | .error error => .error (ascii "API key file open failed: " ++ error)
    | .ok () =>
      match calls.metadata with
      | .error error => .error (ascii "API key file metadata read failed: " ++ error)
      | .ok metadata => do
        checkMetadata metadata calls.effectiveUser
        let apiKey ← readKeyFile [] calls.reads
        checkKey (stripLineEnd apiKey)

end KeyFile

section Comparison

lemma foldl_or_eq_zero {α : Type} (f : α → ℕ) (l : List α) (start : ℕ) :
    l.foldl (fun value a => value ||| f a) start = 0 ↔ start = 0 ∧ ∀ a ∈ l, f a = 0 := by
  induction l generalizing start with
  | nil => simp
  | cons a l ih => rw [List.foldl_cons, ih, Nat.or_eq_zero_iff, List.forall_mem_cons, and_assoc]

lemma xor_toNat_eq_zero {actual expected : UInt8} :
    (actual ^^^ expected).toNat = 0 ↔ actual = expected := by
  rw [← UInt8.toNat_zero, UInt8.toNat_inj, UInt8.xor_eq_zero_iff]

-- No two of the gathered differences cancel: the lengths agree, and then all bytes.
lemma authorization_matches_iff (authorization apiKey : Bytes) :
    constantTimeBearerAuthorizationMatches authorization apiKey = true ↔
      apiKey ≠ [] ∧ authorization = bearerPrefix ++ apiKey := by
  have hexpected : ∀ index,
      (if index < bearerPrefix.length then bearerPrefix.getD index 0
        else apiKey.getD (index - bearerPrefix.length) 0) =
      (bearerPrefix ++ apiKey).getD index 0 := by
    intro index
    split_ifs with hindex
    · rw [List.getD_append _ _ _ _ hindex]
    · rw [List.getD_append_right _ _ _ _ (Nat.not_lt.mp hindex)]
  have hactual : ∀ index, (if index < authorization.length then authorization.getD index 0 else 0) =
      authorization.getD index 0 := by
    intro index
    split_ifs with hindex
    · rfl
    · rw [List.getD_eq_default _ _ (Nat.not_lt.mp hindex)]
  have hempty : (if apiKey = [] then 1 else 0) = 0 ↔ apiKey ≠ [] := by
    split_ifs with h <;> simp [h]
  rw [constantTimeBearerAuthorizationMatches, decide_eq_true_eq, foldl_or_eq_zero,
    Nat.or_eq_zero_iff, hempty, xor_eq_zero_iff]
  simp only [hexpected, hactual, xor_toNat_eq_zero, List.mem_range]
  constructor
  · rintro ⟨⟨hlength, hkey⟩, hbytes⟩
    rw [← List.length_append] at hlength hbytes
    refine ⟨hkey, List.ext_getElem hlength fun index hindex hindex' => ?_⟩
    have hbyte := hbytes index hindex'
    rwa [List.getD_eq_getElem _ _ hindex, List.getD_eq_getElem _ _ hindex'] at hbyte
  · rintro ⟨hkey, rfl⟩
    exact ⟨⟨List.length_append, hkey⟩, fun _ _ => rfl⟩

end Comparison

section Loaded

def IsKeyByte (byte : UInt8) : Prop := byte = 61 ∨ isBearerTokenCharacter byte = true

variable {apiKey : Bytes}

lemma next_ok {scan scan' : TokenScan} {value : UInt8} (h : scan.next value = .ok scan') :
    IsKeyByte value := by
  unfold TokenScan.next at h
  split_ifs at h with hpadding hrefused
  · exact Or.inl hpadding
  · rw [not_or, Bool.not_eq_false] at hrefused
    exact Or.inr hrefused.2

lemma checkKey_ok {checked : Bytes} (h : checkKey checked = .ok apiKey) :
    apiKey ≠ [] ∧ ∀ byte ∈ apiKey, IsKeyByte byte := by
  obtain ⟨hempty, h⟩ := guard_ok.mp h
  obtain ⟨-, h⟩ := guard_ok.mp h
  obtain ⟨scan, hscan, h⟩ := bind_ok.mp h
  obtain ⟨-, h⟩ := guard_ok.mp h
  obtain rfl := Except.ok.inj h
  refine ⟨hempty, fun byte hbyte => ?_⟩
  obtain ⟨before, after, hnext⟩ := foldlM_ok_mem hscan hbyte
  exact next_ok hnext

lemma loaded_key {path : Bytes} {calls : KeyFileCalls}
    (h : loadApiKeyFileImpl path calls = .ok apiKey) :
    apiKey ≠ [] ∧ ∀ byte ∈ apiKey, IsKeyByte byte := by
  obtain ⟨-, h⟩ := guard_ok.mp h
  cases hopened : calls.opened with
  | error error =>
    rw [hopened] at h
    cases h
  | ok =>
    cases hmetadata : calls.metadata with
    | error error =>
      rw [hopened, hmetadata] at h
      cases h
    | ok metadata =>
      rw [hopened, hmetadata] at h
      obtain ⟨-, -, h⟩ := bind_ok.mp h
      obtain ⟨content, -, h⟩ := bind_ok.mp h
      exact checkKey_ok h

-- No byte of a key is a blank or belongs to a line end.
lemma IsKeyByte.plain {byte : UInt8} (h : IsKeyByte byte) :
    isBlank byte = false ∧ byte ≠ 13 ∧ byte ≠ 10 := by
  refine ⟨?_, ?_, ?_⟩
  · rw [← Bool.not_eq_true, isBlank, decide_eq_true_eq]
    rintro (rfl | rfl) <;> revert h <;> simp [IsKeyByte, isBearerTokenCharacter]
  · rintro rfl
    revert h
    simp [IsKeyByte, isBearerTokenCharacter]
  · rintro rfl
    revert h
    simp [IsKeyByte, isBearerTokenCharacter]

end Loaded

end Qwen3xOrin.Server
