import Qwen3xOrin.Io.JsonGrammar

/-! The string rule of the parser reads exactly the strings of the grammar. -/

namespace Qwen3xOrin.Io.Json

open Library Library.Utf8

variable {limits : Limits}

lemma or_eq_add {high low shift : ℕ} (h : low < 2 ^ shift) :
    2 ^ shift * high ||| low = 2 ^ shift * high + low :=
  (Nat.two_pow_add_eq_or_of_lt h high).symm

lemma tail_eq (scalar : ℕ) : UInt8.ofNat (0x80 ||| (scalar &&& 0x3F)) = tailByte scalar := by
  have hmod : scalar &&& 0x3F = scalar % 64 := Nat.and_two_pow_sub_one_eq_mod scalar 6
  have hadd := @or_eq_add 2 (scalar % 64) 6 (by omega)
  rw [hmod, tailByte]
  exact congrArg UInt8.ofNat hadd

lemma appendUtf8_eq {scalar : ℕ} (h : scalar < 0x110000) : appendUtf8 scalar = encode scalar := by
  have hshift (n : ℕ) : scalar >>> n = scalar / 2 ^ n := Nat.shiftRight_eq_div_pow scalar n
  unfold appendUtf8 encode
  simp only [tail_eq, hshift]
  split_ifs with h₁ h₂ h₃ h₄ h₅ h₆ h₇ <;> first | omega | skip
  · rfl
  · have hadd := @or_eq_add 3 (scalar / 64) 6 (by omega)
    exact congrArg (fun lead => [UInt8.ofNat lead, _]) hadd
  · have hadd := @or_eq_add 7 (scalar / 4096) 5 (by omega)
    exact congrArg (fun lead => [UInt8.ofNat lead, _, _]) hadd
  · have hadd := @or_eq_add 15 (scalar / 262144) 4 (by omega)
    exact congrArg (fun lead => [UInt8.ofNat lead, _, _, _]) hadd

lemma simpleEscape_iff {letter byte : UInt8} :
    simpleEscape letter = some byte ↔ (letter, byte) ∈ escapeTable := by
  unfold simpleEscape
  simp only [escapeTable, List.mem_cons, Prod.mk.injEq, List.not_mem_nil, or_false]
  split_ifs with h₁ h₂ h₃ h₄ h₅ h₆
  · obtain rfl | rfl | rfl := h₁ <;> simp [eq_comm]
  · subst h₂
    simp [eq_comm]
  · subst h₃
    simp [eq_comm]
  · subst h₄
    simp [eq_comm]
  · subst h₅
    simp [eq_comm]
  · subst h₆
    simp [eq_comm]
  · simp only [false_iff]
    tauto

lemma parseHex4_some {count value : ℕ} {digit : UInt8} {nibble : ℕ} {rest : Text}
    (h : hexValue digit = some nibble) :
    parseHex4 limits (count + 1) value (digit :: rest) =
      parseHex4 limits count (value * 16 + nibble) rest := by
  rw [parseHex4, h]

lemma parseHex4_cons {count value result : ℕ} {text rest : Text}
    (h : parseHex4 limits (count + 1) value text = .ok (result, rest)) :
    ∃ digit nibble tail, text = digit :: tail ∧ hexValue digit = some nibble ∧
      parseHex4 limits count (value * 16 + nibble) tail = .ok (result, rest) := by
  cases text with
  | nil => cases h
  | cons digit tail =>
    rw [parseHex4] at h
    cases hdigit : hexValue digit with
    | none =>
      rw [hdigit] at h
      cases h
    | some nibble =>
      rw [hdigit] at h
      exact ⟨digit, nibble, tail, rfl, hdigit, h⟩

lemma parseHex4_iff {text rest : Text} {value : ℕ} :
    parseHex4 limits 4 0 text = .ok (value, rest) ↔
      ∃ hex, HexText hex value ∧ text = hex ++ rest := by
  constructor
  · intro h
    obtain ⟨a, x, tail, rfl, hx, h⟩ := parseHex4_cons h
    obtain ⟨b, y, tail, rfl, hy, h⟩ := parseHex4_cons h
    obtain ⟨c, z, tail, rfl, hz, h⟩ := parseHex4_cons h
    obtain ⟨d, w, tail, rfl, hw, h⟩ := parseHex4_cons h
    cases h
    exact ⟨[a, b, c, d], ⟨a, b, c, d, x, y, z, w, rfl, hx, hy, hz, hw, by ring⟩, rfl⟩
  · rintro ⟨hex, ⟨a, b, c, d, x, y, z, w, rfl, hx, hy, hz, hw, rfl⟩, rfl⟩
    simp only [List.cons_append, List.nil_append]
    rw [parseHex4_some hx, parseHex4_some hy, parseHex4_some hz, parseHex4_some hw, parseHex4]
    congr 2
    ring

lemma hexValue_lt {digit : UInt8} {nibble : ℕ} (h : hexValue digit = some nibble) :
    nibble < 16 := by
  unfold hexValue at h
  simp only [UInt8.le_iff_toNat_le] at h
  split_ifs at h with h₁ h₂ h₃ <;> cases h <;> simp at * <;> omega

lemma HexText.lt {hex : Text} {value : ℕ} (h : HexText hex value) : value < 0x10000 := by
  obtain ⟨a, b, c, d, x, y, z, w, -, hx, hy, hz, hw, rfl⟩ := h
  have := hexValue_lt hx
  have := hexValue_lt hy
  have := hexValue_lt hz
  have := hexValue_lt hw
  omega

lemma isContinuation_iff {byte : UInt8} : isContinuation byte = true ↔ IsTail byte := by
  rw [isContinuation, decide_eq_true_eq, isTail_iff]

section Utf8

variable {lead : UInt8} {tail unit rest : Text}

lemma isSecond_iff {second : UInt8} :
    isSecond lead second = true ↔ IsTail second ∧ (lead.toNat = 0xE0 → 0xA0 ≤ second.toNat) ∧
      (lead.toNat = 0xED → second.toNat < 0xA0) ∧ (lead.toNat = 0xF0 → 0x90 ≤ second.toNat) ∧
      (lead.toNat = 0xF4 → second.toNat < 0x90) := by
  unfold isSecond
  rw [Bool.and_eq_true, isContinuation_iff]
  refine and_congr_right fun _ => ?_
  simp only [Bool.not_eq_true', decide_eq_false_iff_not, UInt8.lt_iff_toNat_lt, ← UInt8.toNat_inj]
  simp only [UInt8.reduceToNat]
  omega

-- With the length known, the second byte and the others decide.
lemma copyValidUtf8_of_length {length : ℕ} (h : utf8Length lead = some (length + 2)) :
    copyValidUtf8 limits lead tail = .ok (unit, rest) ↔
      ∃ second others, others.length = length ∧ isSecond lead second = true ∧
        (∀ byte ∈ others, IsTail byte) ∧ unit = lead :: second :: others ∧
        tail = second :: (others ++ rest) := by
  unfold copyValidUtf8
  rw [h]
  dsimp only
  constructor
  · intro hcopy
    obtain ⟨hlong, hcopy⟩ := guard_ok.mp hcopy
    cases tail with
    | nil => simp at hlong
    | cons second tail =>
      simp only [List.length_cons] at hlong
      simp only [Nat.add_one_sub_one, List.take_succ_cons] at hcopy
      obtain ⟨hvalid, hcopy⟩ := guard_ok.mp hcopy
      cases hcopy
      simp only [not_or, Bool.not_eq_false, List.all_eq_true, isContinuation_iff] at hvalid
      refine ⟨second, tail.take length, ?_, hvalid.1, hvalid.2, rfl, ?_⟩
      · rw [List.length_take]
        omega
      · rw [List.drop_succ_cons, List.drop_succ_cons, List.take_append_drop]
  · rintro ⟨second, others, rfl, hsecond, hothers, rfl, rfl⟩
    have hall : others.all isContinuation = true :=
      List.all_eq_true.mpr fun byte hbyte => isContinuation_iff.2 (hothers byte hbyte)
    rw [if_neg (by simp)]
    simp [hsecond, hall]

lemma utf8Length_iff {length : ℕ} : utf8Length lead = some length ↔
    (0xC2 ≤ lead.toNat ∧ lead.toNat ≤ 0xDF ∧ length = 2) ∨
    (0xE0 ≤ lead.toNat ∧ lead.toNat ≤ 0xEF ∧ length = 3) ∨
    (0xF0 ≤ lead.toNat ∧ lead.toNat ≤ 0xF4 ∧ length = 4) := by
  unfold utf8Length
  simp only [UInt8.le_iff_toNat_le, UInt8.reduceToNat]
  split_ifs <;> simp only [Option.some.injEq, false_iff] <;> omega

lemma copyValidUtf8_iff :
    copyValidUtf8 limits lead tail = .ok (unit, rest) ↔
      lead :: tail = unit ++ rest ∧ Table unit ∧ 1 < unit.length := by
  constructor
  · intro h
    cases hlength : utf8Length lead with
    | none =>
      unfold copyValidUtf8 at h
      rw [hlength] at h
      cases h
    | some length =>
      obtain ⟨hlow, hhigh, rfl⟩ | ⟨hlow, hhigh, rfl⟩ | ⟨hlow, hhigh, rfl⟩ :=
        utf8Length_iff.1 hlength
      · obtain ⟨second, others, hcount, hsecond, hothers, rfl, rfl⟩ :=
          (copyValidUtf8_of_length hlength).mp h
        obtain rfl := List.length_eq_zero_iff.mp hcount
        rw [isSecond_iff] at hsecond
        exact ⟨rfl, ⟨hlow, hhigh, hsecond.1⟩, by simp⟩
      · obtain ⟨second, others, hcount, hsecond, hothers, rfl, rfl⟩ :=
          (copyValidUtf8_of_length hlength).mp h
        obtain ⟨third, rfl⟩ := List.length_eq_one_iff.mp hcount
        rw [isSecond_iff] at hsecond
        have hthird := hothers third (by simp)
        exact ⟨rfl, ⟨hlow, hhigh, hsecond.1, hthird, hsecond.2.1, hsecond.2.2.1⟩, by simp⟩
      · obtain ⟨second, others, hcount, hsecond, hothers, rfl, rfl⟩ :=
          (copyValidUtf8_of_length hlength).mp h
        obtain ⟨third, fourth, rfl⟩ := List.length_eq_two.mp hcount
        rw [isSecond_iff] at hsecond
        have hthird := hothers third (by simp)
        have hfourth := hothers fourth (by simp)
        exact ⟨rfl, ⟨hlow, hhigh, hsecond.1, hthird, hfourth, hsecond.2.2.2⟩, by simp⟩
  · rintro ⟨hsplit, htable, hwide⟩
    match unit, htable, hwide with
    | [a, b], htable, _ =>
      obtain ⟨hlow, hhigh, hsecond⟩ := htable
      cases hsplit
      refine (@copyValidUtf8_of_length _ _ _ _ _ 0 (utf8Length_iff.2 (by omega))).mpr
        ⟨b, [], rfl, isSecond_iff.2 ⟨hsecond, by omega⟩, by simp, rfl, rfl⟩
    | [a, b, c], htable, _ =>
      obtain ⟨hlow, hhigh, hsecond, hthird, h₁, h₂⟩ := htable
      cases hsplit
      refine (@copyValidUtf8_of_length _ _ _ _ _ 1 (utf8Length_iff.2 (by omega))).mpr
        ⟨b, [c], rfl, isSecond_iff.2 ⟨hsecond, by omega⟩, by simpa using hthird, rfl, rfl⟩
    | [a, b, c, d], htable, _ =>
      obtain ⟨hlow, hhigh, hsecond, hthird, hfourth, h₁, h₂⟩ := htable
      cases hsplit
      refine (@copyValidUtf8_of_length _ _ _ _ _ 2 (utf8Length_iff.2 (by omega))).mpr
        ⟨b, [c, d], rfl, isSecond_iff.2 ⟨hsecond, by omega⟩, by simpa using ⟨hthird, hfourth⟩,
          rfl, rfl⟩

end Utf8

section Characters

variable {byte : UInt8} {start tail rest output : Text}

lemma shiftLeft_eq (high low : ℕ) :
    0x10000 + (high - 0xD800) <<< 10 + (low - 0xDC00) =
      0x10000 + (high - 0xD800) * 0x400 + (low - 0xDC00) := by
  rw [Nat.shiftLeft_eq]

-- The two ways to write a character behind a backslash and a `u`.
def UnicodeText (text output : Text) : Prop :=
  (∃ value, HexText text value ∧ IsScalar value ∧ output = encode value) ∨
    ∃ hex hex' high low, HexText hex high ∧ IsHighSurrogate high ∧ HexText hex' low ∧
      IsLowSurrogate low ∧ text = hex ++ 92 :: 117 :: hex' ∧
      output = encode (0x10000 + (high - 0xD800) * 0x400 + (low - 0xDC00))

lemma isPrefixOf_pair {rest : Text} :
    [92, 117].isPrefixOf rest = true ↔ ∃ tail, rest = 92 :: 117 :: tail := by
  rw [ List.isPrefixOf_iff_prefix]
  constructor
  · rintro ⟨tail, rfl⟩
    exact ⟨tail, rfl⟩
  · rintro ⟨tail, rfl⟩
    exact ⟨tail, rfl⟩

lemma parseUnicodeEscape_iff :
    parseUnicodeEscape limits start tail = .ok (output, rest) ↔
      ∃ text, UnicodeText text output ∧ tail = text ++ rest := by
  unfold parseUnicodeEscape
  rw [bind_ok]
  constructor
  · rintro ⟨⟨first, middle⟩, hfirst, h⟩
    obtain ⟨hex, hhex, rfl⟩ := parseHex4_iff.1 hfirst
    have hlt := hhex.lt
    dsimp only at h
    split_ifs at h with hhigh hpair hlow
    · cases h
    · obtain ⟨tail, rfl⟩ := isPrefixOf_pair.1 (Bool.eq_true_of_not_eq_false hpair)
      obtain ⟨⟨second, rest'⟩, hsecond, h⟩ := bind_ok.mp h
      obtain ⟨hex', hhex', htail⟩ := parseHex4_iff.1 hsecond
      obtain ⟨hrange, h⟩ := guard_ok.mp h
      obtain ⟨houtput, hrest⟩ := Prod.mk.inj (Except.ok.inj h)
      dsimp only at houtput hrest hrange
      simp only [List.drop_succ_cons, List.drop_zero] at htail
      have hlt' := hhex'.lt
      refine ⟨hex ++ 92 :: 117 :: hex', Or.inr ⟨hex, hex', first, second, hhex, hhigh, hhex',
        ⟨by omega, by omega⟩, rfl, ?_⟩, by simp [htail, hrest]⟩
      rw [← houtput, shiftLeft_eq, appendUtf8_eq (by omega)]
    · cases h
    · cases h
      refine ⟨hex, Or.inl ⟨first, hhex, ?_, ?_⟩, rfl⟩
      · unfold IsScalar
        omega
      · rw [appendUtf8_eq (by omega)]
  · rintro ⟨text, ⟨value, hhex, hscalar, rfl⟩ | ⟨hex, hex', high, low, hhex, hhigh, hhex', hlow,
      rfl, houtput⟩, rfl⟩
    · refine ⟨(value, rest), parseHex4_iff.2 ⟨text, hhex, rfl⟩, ?_⟩
      have hlt := hhex.lt
      unfold IsScalar at hscalar
      dsimp only
      rw [if_neg (by omega), if_neg (by omega), appendUtf8_eq (by omega)]
      rfl
    · have hlt := hhex.lt
      have hlt' := hhex'.lt
      unfold IsHighSurrogate at hhigh
      unfold IsLowSurrogate at hlow
      refine ⟨(high, 92 :: 117 :: (hex' ++ rest)), parseHex4_iff.2 ⟨hex, hhex, by simp⟩, ?_⟩
      dsimp only
      rw [if_pos hhigh, if_neg (by simp [List.isPrefixOf]), bind_ok]
      refine ⟨(low, rest), parseHex4_iff.2 ⟨hex', hhex', rfl⟩, ?_⟩
      dsimp only
      rw [if_neg (by omega), shiftLeft_eq, appendUtf8_eq (by omega), houtput]
      rfl

lemma UnicodeText.character (h : UnicodeText tail output) :
    CharacterText (92 :: 117 :: tail) output := by
  obtain ⟨value, hhex, hscalar, rfl⟩ | ⟨hex, hex', high, low, hhex, hhigh, hhex', hlow, rfl,
    houtput⟩ := h
  · exact .unicode tail value hhex hscalar
  · rw [houtput]
    exact .surrogates hex hex' high low hhex hhigh hhex' hlow

lemma parseEscape_sound (h : parseEscape limits tail = .ok (output, rest)) :
    ∃ text, CharacterText (92 :: text) output ∧ tail = text ++ rest := by
  unfold parseEscape at h
  cases tail with
  | nil => cases h
  | cons letter tail =>
    dsimp only at h
    cases hsimple : simpleEscape letter with
    | some byte =>
      rw [hsimple] at h
      cases h
      exact ⟨[letter], .escape letter byte (simpleEscape_iff.1 hsimple), rfl⟩
    | none =>
      rw [hsimple] at h
      dsimp only at h
      split_ifs at h with hunicode
      · obtain ⟨text, htext, rfl⟩ := parseUnicodeEscape_iff.1 h
        rw [hunicode]
        exact ⟨117 :: text, htext.character, rfl⟩
      · cases h

lemma parseEscape_simple {letter byte : UInt8} (h : (letter, byte) ∈ escapeTable) (rest : Text) :
    parseEscape limits (letter :: rest) = .ok ([byte], rest) := by
  rw [parseEscape, simpleEscape_iff.2 h]

lemma parseEscape_unicode (h : UnicodeText tail output) (rest : Text) :
    parseEscape limits (117 :: (tail ++ rest)) = .ok (output, rest) := by
  have hnone : simpleEscape 117 = none := by decide
  rw [parseEscape, hnone]
  dsimp only
  rw [if_pos rfl]
  exact parseUnicodeEscape_iff.2 ⟨tail, h, rfl⟩

lemma parseCharacter_sound (hbyte : byte ≠ 34)
    (h : parseCharacter limits byte tail = .ok (output, rest)) :
    ∃ text, CharacterText text output ∧ byte :: tail = text ++ rest := by
  unfold parseCharacter at h
  split_ifs at h with hescape hcontrol hascii
  · obtain ⟨text, htext, rfl⟩ := parseEscape_sound h
    rw [hescape]
    exact ⟨92 :: text, htext, rfl⟩
  · cases h
  · cases h
    refine ⟨[byte], .plain byte ?_ hascii hbyte hescape, rfl⟩
    rw [UInt8.le_iff_toNat_le] at hcontrol ⊢
    simp only [UInt8.reduceToNat] at hcontrol ⊢
    omega
  · obtain ⟨hsplit, htable, hwide⟩ := copyValidUtf8_iff.1 h
    exact ⟨output, .wide output htable hwide, hsplit⟩

lemma table_lead {lead : UInt8} {unit : Text} (h : Table (lead :: unit)) (hwide : unit ≠ []) :
    0x80 ≤ lead.toNat := by
  match unit, h, hwide with
  | [_], h, _ =>
    have := h.1
    omega
  | [_, _], h, _ =>
    have := h.1
    omega
  | [_, _, _], h, _ =>
    have := h.1
    omega

lemma parseCharacter_complete {text : Text} (h : CharacterText text output) (rest : Text) :
    ∃ byte tail, text = byte :: tail ∧ byte ≠ 34 ∧
      parseCharacter limits byte (tail ++ rest) = .ok (output, rest) := by
  cases h with
  | plain byte hlow hhigh hquote hescape =>
    refine ⟨byte, [], rfl, hquote, ?_⟩
    have hcontrol : ¬byte ≤ 0x1F := by
      rw [UInt8.le_iff_toNat_le] at hlow ⊢
      simp only [UInt8.reduceToNat] at hlow ⊢
      omega
    rw [parseCharacter, if_neg hescape, if_neg hcontrol, if_pos hhigh]
    rfl
  | wide _ htable hwide =>
    cases output with
    | nil => cases htable
    | cons lead unit =>
      have hunit : unit ≠ [] := by
        rintro rfl
        simp at hwide
      have hlead := table_lead htable hunit
      have hne (small : UInt8) (hsmall : small.toNat < 0x80) : lead ≠ small := by
        rintro rfl
        omega
      refine ⟨lead, unit, rfl, hne 34 (by decide), ?_⟩
      rw [parseCharacter, if_neg (hne 92 (by decide)),
        if_neg (by simp only [UInt8.le_iff_toNat_le, UInt8.reduceToNat]; omega),
        if_neg (by simp only [UInt8.lt_iff_toNat_lt, UInt8.reduceToNat]; omega)]
      exact copyValidUtf8_iff.2 ⟨rfl, htable, hwide⟩
  | escape letter byte hletter =>
    refine ⟨92, [letter], rfl, by decide, ?_⟩
    rw [parseCharacter, if_pos rfl]
    exact parseEscape_simple hletter rest
  | unicode hex value hhex hscalar =>
    refine ⟨92, 117 :: hex, rfl, by decide, ?_⟩
    rw [parseCharacter, if_pos rfl]
    exact parseEscape_unicode (Or.inl ⟨value, hhex, hscalar, rfl⟩) rest
  | surrogates hex hex' high low hhex hhigh hhex' hlow =>
    refine ⟨92, 117 :: (hex ++ 92 :: 117 :: hex'), rfl, by decide, ?_⟩
    rw [parseCharacter, if_pos rfl]
    exact parseEscape_unicode
      (Or.inr ⟨hex, hex', high, low, hhex, hhigh, hhex', hlow, rfl, rfl⟩) rest

lemma parseCharacters_sound {fuel : ℕ} (h : parseCharacters limits fuel tail = .ok (output, rest)) :
    ∃ text, StringText text output ∧ tail = text ++ 34 :: rest := by
  induction fuel generalizing tail output with
  | zero => cases h
  | succ fuel ih =>
    cases tail with
    | nil => cases h
    | cons byte tail =>
      rw [parseCharacters] at h
      split_ifs at h with hquote
      · cases h
        rw [hquote]
        exact ⟨[], .nil, rfl⟩
      · obtain ⟨⟨piece, middle⟩, hpiece, h⟩ := bind_ok.mp h
        obtain ⟨⟨others, last⟩, hothers, h⟩ := bind_ok.mp h
        cases h
        obtain ⟨text, htext, hsplit⟩ := parseCharacter_sound hquote hpiece
        obtain ⟨text', htext', rfl⟩ := ih hothers
        exact ⟨text ++ text', .cons htext htext', by rw [hsplit, List.append_assoc]⟩

lemma parseCharacters_complete {text : Text} (h : StringText text output) {fuel : ℕ}
    (hfuel : text.length < fuel) (rest : Text) :
    parseCharacters limits fuel (text ++ 34 :: rest) = .ok (output, rest) := by
  induction h generalizing fuel with
  | nil =>
    obtain ⟨fuel, rfl⟩ := Nat.exists_eq_succ_of_ne_zero (Nat.ne_of_gt hfuel)
    rfl
  | @cons text others decoded piece hpiece _ ih =>
    obtain ⟨byte, tail, rfl, hquote, hparse⟩ :=
      @parseCharacter_complete limits piece text hpiece (others ++ 34 :: rest)
    obtain ⟨fuel, rfl⟩ := Nat.exists_eq_succ_of_ne_zero (Nat.ne_of_gt (Nat.zero_lt_of_lt hfuel))
    simp only [List.cons_append, List.length_cons, List.length_append] at hfuel
    rw [List.append_assoc, List.cons_append, parseCharacters, if_neg hquote, hparse, ok_bind]
    dsimp only
    rw [ih (by omega), ok_bind]
    rfl

lemma parseString_sound (h : parseString limits (34 :: tail) = .ok (output, rest)) :
    ∃ text, StringText text output ∧ tail = text ++ 34 :: rest :=
  parseCharacters_sound h

lemma parseString_complete {text : Text} (h : StringText text output) (rest : Text) :
    parseString limits (34 :: (text ++ 34 :: rest)) = .ok (output, rest) := by
  refine parseCharacters_complete h ?_ rest
  simp only [List.length_cons, List.length_append]
  omega

end Characters

end Qwen3xOrin.Io.Json
