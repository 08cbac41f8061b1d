import Qwen3xOrin.Server.ApiKey

/-! The Authorization line of a request, through the reading of its header block, up to the
comparison with the key. -/

namespace Qwen3xOrin.Server

open Library Library.Search

section Lines

structure PlainLine (line : Bytes) : Prop where
  nonempty : line ≠ []
  unbroken : find crlf line = none

def joinLines : List Bytes → Bytes
  | [] => []
  | [line] => line
  | line :: lines => line ++ (crlf ++ joinLines lines)

-- Every line ends in CRLF, and one more CRLF ends the header block.
def headerStream (lines : List Bytes) (content : Bytes) : Bytes :=
  joinLines lines ++ (headerTerminator ++ content)

variable {line rest : Bytes} {lines : List Bytes}

lemma not_prefix_unbroken (h : find crlf line = none) (hline : line ≠ []) :
    crlf.isPrefixOf (line ++ (crlf ++ rest)) = false := by
  obtain ⟨byte, tail, rfl⟩ := List.exists_cons_of_ne_nil hline
  rw [find_cons] at h
  split_ifs at h with hhead
  cases tail with
  | nil => simp [crlf, List.isPrefixOf]
  | cons next tail => simpa [crlf, List.isPrefixOf] using hhead

lemma find_unbroken_tail {byte : UInt8} {tail : Bytes} (h : find crlf (byte :: tail) = none) :
    find crlf tail = none := by
  rw [find_cons] at h
  split_ifs at h
  exact Option.map_eq_none_iff.mp h

lemma find_crlf_line (h : find crlf line = none) :
    find crlf (line ++ (crlf ++ rest)) = some line.length := by
  induction line with
  | nil => simp [find_cons, crlf]
  | cons byte tail ih =>
    have hhead := @not_prefix_unbroken _ rest h (List.cons_ne_nil byte tail)
    rw [List.cons_append] at hhead ⊢
    rw [find_cons, if_neg (by simp [hhead]), ih (find_unbroken_tail h)]
    rfl

lemma terminator_absent (h : crlf.isPrefixOf line = false) :
    headerTerminator.isPrefixOf line = false := by
  rw [← Bool.not_eq_true, List.isPrefixOf_iff_prefix] at h ⊢
  exact fun hstart => h ((List.prefix_append crlf crlf).trans hstart)

-- The header block ends at the first line end that another one follows.
lemma find_terminator_line (h : find crlf line = none) :
    find headerTerminator (line ++ (crlf ++ rest)) =
      if crlf.isPrefixOf rest then some line.length
      else (find headerTerminator rest).map (· + (line.length + 2)) := by
  induction line with
  | nil =>
    have hsecond : find headerTerminator (10 :: rest) =
        (find headerTerminator rest).map (· + 1) := by
      rw [find_cons, if_neg (by simp [headerTerminator, List.isPrefixOf])]
    have hfirst : headerTerminator.isPrefixOf (13 :: 10 :: rest) = crlf.isPrefixOf rest := by
      simp [headerTerminator, crlf, List.isPrefixOf]
    show find headerTerminator (13 :: 10 :: rest) = _
    rw [find_cons, hfirst, hsecond]
    split_ifs
    · rfl
    · rw [Option.map_map]
      rfl
  | cons byte tail ih =>
    have hhead := @not_prefix_unbroken _ rest h (List.cons_ne_nil byte tail)
    rw [List.cons_append] at hhead ⊢
    rw [find_cons, if_neg (by simp [terminator_absent hhead]), ih (find_unbroken_tail h)]
    split_ifs
    · rfl
    · rw [Option.map_map]
      rfl

lemma drop_line : (line ++ (crlf ++ rest)).drop (line.length + 2) = rest := by
  rw [← List.append_assoc]
  exact List.drop_left' (by simp [crlf])

lemma joinLines_cons {next : Bytes} :
    joinLines (line :: next :: lines) = line ++ (crlf ++ joinLines (next :: lines)) := rfl

lemma find_terminator_stream {content : Bytes} (h : ∀ line ∈ lines, PlainLine line)
    (hlines : lines ≠ []) :
    find headerTerminator (headerStream lines content) = some (joinLines lines).length := by
  induction lines with
  | nil => exact absurd rfl hlines
  | cons line lines ih =>
    have hline := h line List.mem_cons_self
    cases lines with
    | nil =>
      show find headerTerminator (line ++ (crlf ++ (crlf ++ content))) = some line.length
      rw [find_terminator_line hline.unbroken, if_pos (by simp [crlf, List.isPrefixOf])]
    | cons next lines =>
      have hnext := h next (List.mem_cons_of_mem line List.mem_cons_self)
      have hrest := ih (fun other hother => h other (List.mem_cons_of_mem line hother))
        (List.cons_ne_nil next lines)
      have hstart : crlf.isPrefixOf (headerStream (next :: lines) content) = false := by
        cases lines with
        | nil => exact not_prefix_unbroken hnext.unbroken hnext.nonempty
        | cons other lines =>
          rw [headerStream, joinLines_cons, List.append_assoc, List.append_assoc]
          exact not_prefix_unbroken hnext.unbroken hnext.nonempty
      have hsplit : headerStream (line :: next :: lines) content =
          line ++ (crlf ++ headerStream (next :: lines) content) := by
        rw [headerStream, joinLines_cons, headerStream, List.append_assoc, List.append_assoc]
      rw [hsplit, find_terminator_line hline.unbroken, hstart, if_neg Bool.false_ne_true, hrest,
        joinLines_cons, List.length_append, List.length_append]
      simp only [Option.map_some, Option.some.injEq, crlf, List.length_cons, List.length_nil]
      omega

lemma parseHeaderLines_joinLines (h : ∀ line ∈ lines, PlainLine line) (headers : Headers) :
    parseHeaderLines headers (joinLines lines) = lines.foldlM parseHeaderLine headers := by
  induction lines generalizing headers with
  | nil =>
    rw [joinLines, parseHeaderLines, if_pos rfl]
    rfl
  | cons line lines ih =>
    have hline := h line List.mem_cons_self
    cases lines with
    | nil =>
      rw [joinLines, parseHeaderLines, if_neg hline.nonempty, hline.unbroken, List.foldlM_cons]
      cases parseHeaderLine headers line <;> rfl
    | cons next lines =>
      have hrest := ih fun other hother => h other (List.mem_cons_of_mem line hother)
      have hblock : line ++ (crlf ++ joinLines (next :: lines)) ≠ [] := by simp [crlf]
      rw [joinLines_cons, parseHeaderLines, if_neg hblock, find_crlf_line hline.unbroken]
      dsimp only
      rw [List.take_left, drop_line, List.foldlM_cons]
      cases parseHeaderLine headers line with
      | error refusal => rfl
      | ok headers => exact hrest headers

lemma headerLines_joinLines {requestLine : Bytes}
    (h : ∀ line ∈ requestLine :: lines, PlainLine line) :
    headerLines (joinLines (requestLine :: lines)) = lines.foldlM parseHeaderLine [] := by
  have hline := h requestLine List.mem_cons_self
  cases lines with
  | nil =>
    rw [joinLines, headerLines, hline.unbroken]
    rfl
  | cons next lines =>
    rw [joinLines_cons, headerLines, find_crlf_line hline.unbroken]
    dsimp only
    rw [drop_line]
    have hlines := fun other hother => h other (List.mem_cons_of_mem requestLine hother)
    exact parseHeaderLines_joinLines hlines []

lemma parseRequestLine_joinLines {requestLine : Bytes}
    (h : find crlf requestLine = none) :
    parseRequestLine (joinLines (requestLine :: lines)) = parseRequestLine requestLine := by
  cases lines with
  | nil => rfl
  | cons next lines =>
    rw [joinLines_cons, parseRequestLine, find_crlf_line h, parseRequestLine, h]
    simp only [List.take_left]

end Lines

section Head

variable {headerBlock : Bytes} {request : HttpRequest} {contentLength : ℕ}

def completeHead (line : HttpRequest) (headers : Headers) : HttpRequest :=
  { line with
    contentType := ((headers.lookup (ascii "content-type")).map lowercase).getD []
    authorization := (headers.lookup (ascii "authorization")).getD []
    keepAlive := (headers.lookup (ascii "connection")).all fun value =>
      lowercase value ≠ ascii "close" }

lemma parseHead_ok_iff :
    parseHead headerBlock = .ok (request, contentLength) ↔
      ∃ line headers, parseRequestLine headerBlock = .ok line ∧
        headerLines headerBlock = .ok headers ∧
        headers.lookup (ascii "transfer-encoding") = none ∧
        contentLengthOf line headers = .ok contentLength ∧
        request = completeHead line headers := by
  constructor
  · intro h
    obtain ⟨line, hline, h⟩ := bind_ok.mp h
    obtain ⟨headers, hheaders, h⟩ := bind_ok.mp h
    obtain ⟨hencoding, h⟩ := guard_ok.mp h
    obtain ⟨length, hlength, h⟩ := bind_ok.mp h
    cases h
    exact ⟨line, headers, hline, hheaders, Option.not_isSome_iff_eq_none.mp hencoding, hlength, rfl⟩
  · rintro ⟨line, headers, hline, hheaders, hencoding, hlength, rfl⟩
    rw [parseHead, hline, ok_bind, hheaders, ok_bind, hencoding, if_neg (by simp), hlength]
    rfl

-- A stream whose header block is complete, as one read takes it.
lemma read_stream_iff {lines : List Bytes} {content rest : Bytes} {result : HttpReadResult}
    (h : ∀ line ∈ lines, PlainLine line) (hlines : lines ≠ []) :
    (readHttpRequest (headerStream lines content) = (result, rest) ∧ result.value = some request) ↔
      (joinLines lines).length ≤ maximumHeaderBytes ∧
        ∃ head contentLength, parseHead (joinLines lines) = .ok (head, contentLength) ∧
          contentLength ≤ content.length ∧ rest = content.drop contentLength ∧
          request = { head with body := content.take contentLength } ∧
          result = { value := some request } := by
  have htake : (headerStream lines content).take (joinLines lines).length = joinLines lines :=
    List.take_left
  have hlength : (headerStream lines content).length =
      (joinLines lines).length + 4 + content.length := by
    rw [headerStream, List.length_append, List.length_append, ← Nat.add_assoc]
    rfl
  have hdrop : ∀ n, (headerStream lines content).drop ((joinLines lines).length + 4 + n) =
      content.drop n := by
    intro n
    rw [headerStream, ← List.append_assoc, ← List.drop_drop]
    exact congrArg (List.drop n) (List.drop_left' (by simp [headerTerminator]))
  rw [readHttpRequest, find_terminator_stream h hlines]
  dsimp only
  rw [htake, hlength]
  constructor
  · rintro ⟨hread, hvalue⟩
    split_ifs at hread with hlimit
    · cases hread
      cases hvalue
    · cases hhead : parseHead (joinLines lines) with
      | error refusal =>
        rw [hhead] at hread
        cases hread
        cases hvalue
      | ok parsed =>
        obtain ⟨head, contentLength⟩ := parsed
        rw [hhead] at hread
        dsimp only at hread
        split_ifs at hread with hshort
        · cases hread
          cases hvalue
        · cases hread
          cases hvalue
          have hbody := hdrop 0
          rw [Nat.add_zero, List.drop_zero] at hbody
          rw [hdrop, hbody]
          exact ⟨Nat.not_lt.mp hlimit, head, contentLength, rfl, by omega, rfl, rfl, rfl⟩
  · rintro ⟨hlimit, head, contentLength, hhead, hcontent, rfl, rfl, rfl⟩
    have hbody := hdrop 0
    rw [Nat.add_zero, List.drop_zero] at hbody
    rw [if_neg (Nat.not_lt.mpr hlimit), hhead]
    dsimp only
    rw [if_neg (by omega), hdrop, hbody]
    exact ⟨rfl, rfl⟩

end Head

section Headers

variable {headers headers' : Headers} {line key value : Bytes}

-- The name of a header line as the map keys it, and its value.
structure IsHeader (line key value : Bytes) : Prop where
  colon : ∃ colon, find [58] line = some colon ∧ colon ≠ 0 ∧ lowercase (line.take colon) = key ∧
    trimAscii (line.drop (colon + 1)) = value

lemma parseHeaderLine_ok_iff :
    parseHeaderLine headers line = .ok headers' ↔
      ∃ key value, IsHeader line key value ∧ headers.lookup key = none ∧
        headers' = (key, value) :: headers := by
  unfold parseHeaderLine
  cases hfind : find [58] line with
  | none =>
    refine ⟨fun h => (by cases h), ?_⟩
    rintro ⟨key, value, ⟨colon, hcolon, -⟩, -⟩
    cases hfind.symm.trans hcolon
  | some colon =>
    dsimp only
    constructor
    · intro h
      obtain ⟨hzero, h⟩ := guard_ok.mp h
      obtain ⟨hfresh, h⟩ := guard_ok.mp h
      cases h
      exact ⟨_, _, ⟨colon, hfind, hzero, rfl, rfl⟩, Option.not_isSome_iff_eq_none.mp hfresh, rfl⟩
    · rintro ⟨key, value, ⟨colon', hcolon, hzero, rfl, rfl⟩, hfresh, rfl⟩
      obtain rfl := Option.some.inj (hfind.symm.trans hcolon)
      rw [if_neg hzero, hfresh, if_neg (by simp)]

lemma parseHeaderLine_lookup (h : parseHeaderLine headers line = .ok headers')
    (hkey : headers.lookup key = some value) : headers'.lookup key = some value := by
  obtain ⟨other, held, -, hfresh, rfl⟩ := parseHeaderLine_ok_iff.1 h
  rw [List.lookup_cons]
  cases hother : key == other with
  | true =>
    rw [eq_of_beq hother, hfresh] at hkey
    cases hkey
  | false => exact hkey

lemma parseLines_lookup {lines : List Bytes}
    (h : lines.foldlM parseHeaderLine headers = .ok headers')
    (hkey : headers.lookup key = some value) : headers'.lookup key = some value := by
  induction lines generalizing headers with
  | nil =>
    cases h
    exact hkey
  | cons line lines ih =>
    rw [List.foldlM_cons] at h
    obtain ⟨next, hnext, h⟩ := bind_ok.mp h
    exact ih h (parseHeaderLine_lookup hnext hkey)

-- A header line holds its name against every later line.
lemma parseLines_header {before after : List Bytes} (hheader : IsHeader line key value)
    (h : (before ++ line :: after).foldlM parseHeaderLine headers = .ok headers') :
    headers'.lookup key = some value := by
  rw [List.foldlM_append] at h
  obtain ⟨middle, -, h⟩ := bind_ok.mp h
  rw [List.foldlM_cons] at h
  obtain ⟨next, hnext, h⟩ := bind_ok.mp h
  obtain ⟨key', value', ⟨colon', hcolon', -, rfl, rfl⟩, -, rfl⟩ := parseHeaderLine_ok_iff.1 hnext
  obtain ⟨colon, hcolon, -, rfl, rfl⟩ := hheader
  obtain rfl := Option.some.inj (hcolon.symm.trans hcolon')
  exact parseLines_lookup h (by rw [List.lookup_cons, beq_self_eq_true])

-- The headers with one more entry, which none of the others has the name of.
def Extends (key value : Bytes) (headers headers' : Headers) : Prop :=
  headers.lookup key = none ∧ ∀ other, headers'.lookup other =
    if other = key then some value else headers.lookup other

lemma Extends.step (h : Extends key value headers headers') {next : Headers}
    (hline : parseHeaderLine headers line = .ok next) (hother : ∀ value, ¬IsHeader line key value) :
    ∃ next', parseHeaderLine headers' line = .ok next' ∧ Extends key value next next' := by
  obtain ⟨name, held, hheader, hfresh, rfl⟩ := parseHeaderLine_ok_iff.1 hline
  have hne : name ≠ key := by
    rintro rfl
    exact hother held hheader
  refine ⟨(name, held) :: headers',
    parseHeaderLine_ok_iff.2 ⟨name, held, hheader, ?_, rfl⟩, ?_, ?_⟩
  · rw [h.2, if_neg hne, hfresh]
  · rw [List.lookup_cons, beq_eq_false_iff_ne.mpr hne.symm]
    exact h.1
  · intro other
    rw [List.lookup_cons, List.lookup_cons, h.2]
    cases hbeq : other == name with
    | true => rw [eq_of_beq hbeq, if_neg hne, if_neg hne]
    | false => rfl

lemma Extends.run {lines : List Bytes} (h : Extends key value headers headers') {last : Headers}
    (hlines : lines.foldlM parseHeaderLine headers = .ok last)
    (hother : ∀ line ∈ lines, ∀ value, ¬IsHeader line key value) :
    ∃ last', lines.foldlM parseHeaderLine headers' = .ok last' ∧ Extends key value last last' := by
  induction lines generalizing headers headers' with
  | nil =>
    cases hlines
    exact ⟨headers', rfl, h⟩
  | cons line lines ih =>
    rw [List.foldlM_cons] at hlines
    obtain ⟨next, hnext, hlines⟩ := bind_ok.mp hlines
    obtain ⟨next', hnext', hextends⟩ := h.step hnext (hother line List.mem_cons_self)
    obtain ⟨last', hlast, hextends⟩ := ih hextends hlines fun other hmem =>
      hother other (List.mem_cons_of_mem line hmem)
    exact ⟨last', by rw [List.foldlM_cons, hnext', ok_bind, hlast], hextends⟩

lemma parseLines_absent {lines : List Bytes} (hkey : headers.lookup key = none)
    (hlines : lines.foldlM parseHeaderLine headers = .ok headers')
    (hother : ∀ line ∈ lines, ∀ value, ¬IsHeader line key value) : headers'.lookup key = none := by
  induction lines generalizing headers with
  | nil =>
    cases hlines
    exact hkey
  | cons line lines ih =>
    rw [List.foldlM_cons] at hlines
    obtain ⟨next, hnext, hlines⟩ := bind_ok.mp hlines
    refine ih ?_ hlines fun other hmem => hother other (List.mem_cons_of_mem line hmem)
    obtain ⟨name, held, hheader, -, rfl⟩ := parseHeaderLine_ok_iff.1 hnext
    have hne : key ≠ name := by
      rintro rfl
      exact hother line List.mem_cons_self held hheader
    rw [List.lookup_cons, beq_eq_false_iff_ne.mpr hne]
    exact hkey

-- One more line among the others adds its entry and changes no other one.
lemma parseLines_insert {before after : List Bytes} (hheader : IsHeader line key value)
    (hlines : (before ++ after).foldlM parseHeaderLine [] = .ok headers)
    (hother : ∀ line ∈ before ++ after, ∀ value, ¬IsHeader line key value) :
    ∃ headers', (before ++ line :: after).foldlM parseHeaderLine [] = .ok headers' ∧
      Extends key value headers headers' := by
  rw [List.foldlM_append] at hlines
  obtain ⟨middle, hbefore, hafter⟩ := bind_ok.mp hlines
  have habsent : middle.lookup key = none := parseLines_absent rfl hbefore fun line hmem =>
    hother line (List.mem_append_left after hmem)
  have hline : parseHeaderLine middle line = .ok ((key, value) :: middle) :=
    parseHeaderLine_ok_iff.2 ⟨key, value, hheader, habsent, rfl⟩
  have hextends : Extends key value middle ((key, value) :: middle) := by
    refine ⟨habsent, fun other => ?_⟩
    rw [List.lookup_cons]
    cases hbeq : other == key with
    | true => rw [if_pos (eq_of_beq hbeq)]
    | false => rw [if_neg (beq_eq_false_iff_ne.mp hbeq)]
  obtain ⟨last, hlast, hextends⟩ := hextends.run hafter fun line hmem =>
    hother line (List.mem_append_right before hmem)
  refine ⟨last, ?_, hextends⟩
  rw [List.foldlM_append, hbefore, ok_bind, List.foldlM_cons, hline, ok_bind, hlast]

end Headers

section Bearer

structure AuthorizedRequest (apiKey : Bytes) where
  requestLine : Bytes
  before : List Bytes
  after : List Bytes
  name : Bytes
  left : Bytes
  right : Bytes
  content : Bytes
  lines_plain : ∀ line ∈ requestLine :: (before ++ after), PlainLine line
  name_authorization : lowercase name = ascii "authorization"
  left_blank : ∀ byte ∈ left, isBlank byte = true
  right_blank : ∀ byte ∈ right, isBlank byte = true

variable {apiKey : Bytes}

namespace AuthorizedRequest

variable (authorized : AuthorizedRequest apiKey)

def line : Bytes :=
  authorized.name ++ 58 :: (authorized.left ++ (bearerPrefix ++ apiKey ++ authorized.right))

def otherLines : List Bytes := authorized.before ++ authorized.after

def lines : List Bytes :=
  authorized.requestLine :: (authorized.before ++ authorized.line :: authorized.after)

end AuthorizedRequest

lemma dropWhile_blanks {blank value : Bytes} (hblank : ∀ byte ∈ blank, isBlank byte = true)
    (hhead : ∀ byte ∈ value.head?, isBlank byte = false) :
    (blank ++ value).dropWhile isBlank = value := by
  rw [List.dropWhile_append_of_pos hblank]
  cases value with
  | nil => rfl
  | cons byte value => exact List.dropWhile_cons_of_neg (by simp [hhead byte rfl])

lemma trimAscii_blanks {left value right : Bytes} (hleft : ∀ byte ∈ left, isBlank byte = true)
    (hright : ∀ byte ∈ right, isBlank byte = true) (hvalue : value ≠ [])
    (hhead : ∀ byte ∈ value.head?, isBlank byte = false)
    (hlast : ∀ byte ∈ value.getLast?, isBlank byte = false) :
    trimAscii (left ++ (value ++ right)) = value := by
  have hhead' : ∀ byte ∈ (value ++ right).head?, isBlank byte = false := by
    rwa [List.head?_append_of_ne_nil _ hvalue]
  have hright' : ∀ byte ∈ right.reverse, isBlank byte = true := fun byte hbyte =>
    hright byte (List.mem_reverse.mp hbyte)
  have hlast' : ∀ byte ∈ value.reverse.head?, isBlank byte = false := by
    rwa [List.head?_reverse]
  rw [trimAscii, dropWhile_blanks hleft hhead', List.reverse_append,
    dropWhile_blanks hright' hlast', List.reverse_reverse]

lemma find_single {byte : UInt8} {text rest : Bytes} (h : byte ∉ text) :
    find [byte] (text ++ byte :: rest) = some text.length := by
  induction text with
  | nil => simp [find_cons]
  | cons other text ih =>
    rw [List.mem_cons, not_or] at h
    have hhead : [byte].isPrefixOf (other :: (text ++ byte :: rest)) = false := by
      simpa [List.isPrefixOf] using h.1
    rw [List.cons_append, find_cons, hhead, if_neg Bool.false_ne_true, ih h.2]
    rfl

lemma find_crlf_absent {text : Bytes} (h : 13 ∉ text) : find crlf text = none := by
  refine (find_eq_none_iff (by decide)).mpr fun index hstart => h ?_
  exact List.mem_of_mem_drop (hstart.subset List.mem_cons_self)

-- A byte of the name is a letter of "authorization" in either case.
lemma mem_name {name : Bytes} (hname : lowercase name = ascii "authorization") {byte : UInt8}
    (hbyte : byte ∈ name) : byte ≠ 58 ∧ byte ≠ 13 := by
  have hletter : (if 65 ≤ byte ∧ byte ≤ 90 then byte - 65 + 97 else byte) ∈
      ascii "authorization" := by
    rw [← hname, lowercase]
    exact List.mem_map_of_mem hbyte
  constructor
  · rintro rfl
    exact absurd hletter (by decide)
  · rintro rfl
    exact absurd hletter (by decide)

lemma bearerPrefix_eq : bearerPrefix = [66, 101, 97, 114, 101, 114, 32] := by decide

namespace AuthorizedRequest

variable (authorized : AuthorizedRequest apiKey) (hbytes : ∀ byte ∈ apiKey, IsKeyByte byte)

include hbytes

lemma isHeader (hkey : apiKey ≠ []) :
    IsHeader authorized.line (ascii "authorization") (bearerPrefix ++ apiKey) := by
  have hcolon : find [58] authorized.line = some authorized.name.length :=
    find_single fun hmem => (mem_name authorized.name_authorization hmem).1 rfl
  have hname : authorized.name ≠ [] := by
    intro hempty
    have hname := authorized.name_authorization
    rw [hempty] at hname
    exact absurd hname (by decide)
  have hvalue : bearerPrefix ++ apiKey ≠ [] := by simp [hkey]
  have hhead : ∀ byte ∈ (bearerPrefix ++ apiKey).head?, isBlank byte = false := by
    rw [bearerPrefix_eq]
    rintro byte ⟨⟩
    rfl
  have hlast : ∀ byte ∈ (bearerPrefix ++ apiKey).getLast?, isBlank byte = false := by
    rw [List.getLast?_append_of_ne_nil _ hkey]
    exact fun byte hbyte => (hbytes byte (List.mem_of_mem_getLast? hbyte)).plain.1
  refine ⟨authorized.name.length, hcolon, List.length_pos_iff.mpr hname |>.ne', ?_, ?_⟩
  · rw [line, List.take_left]
    exact authorized.name_authorization
  · have hdrop : authorized.line.drop (authorized.name.length + 1) =
        authorized.left ++ (bearerPrefix ++ apiKey ++ authorized.right) := by
      rw [line, ← List.drop_drop, List.drop_left]
      rfl
    rw [hdrop]
    exact trimAscii_blanks authorized.left_blank authorized.right_blank hvalue hhead hlast

lemma plainLine : PlainLine authorized.line := by
  have hblank : ∀ blank : Bytes, (∀ byte ∈ blank, isBlank byte = true) → 13 ∉ blank :=
    fun blank hblank hmem => absurd (hblank 13 hmem) (by decide)
  refine ⟨by simp [line], find_crlf_absent ?_⟩
  simp only [line, List.mem_append, List.mem_cons, not_or]
  refine ⟨fun hmem => (mem_name authorized.name_authorization hmem).2 rfl, by decide,
    hblank _ authorized.left_blank, ⟨by decide, fun hmem => (hbytes 13 hmem).plain.2.1 rfl⟩,
    hblank _ authorized.right_blank⟩

lemma lines_plain' : ∀ line ∈ authorized.lines, PlainLine line := by
  have hplain := authorized.lines_plain
  simp only [List.mem_cons, List.mem_append] at hplain
  simp only [lines, List.mem_cons, List.mem_append]
  rintro line (rfl | hmem | rfl | hmem)
  · exact hplain _ (Or.inl rfl)
  · exact hplain _ (Or.inr (Or.inl hmem))
  · exact authorized.plainLine hbytes
  · exact hplain _ (Or.inr (Or.inr hmem))

-- Whatever request is read from the stream, its authorization is the key's.
lemma read_authorization (hkey : apiKey ≠ []) {result : HttpReadResult} {request : HttpRequest}
    {rest : Bytes}
    (hread : readHttpRequest (headerStream authorized.lines authorized.content) = (result, rest))
    (hvalue : result.value = some request) : request.authorization = bearerPrefix ++ apiKey := by
  have hplain := authorized.lines_plain' hbytes
  obtain ⟨-, head, contentLength, hhead, -, -, rfl, -⟩ :=
    (read_stream_iff hplain (List.cons_ne_nil _ _)).mp ⟨hread, hvalue⟩
  obtain ⟨line, headers, -, hheaders, -, -, rfl⟩ := parseHead_ok_iff.1 hhead
  rw [lines, headerLines_joinLines hplain] at hheaders
  have hlookup := parseLines_header (authorized.isHeader hbytes hkey) hheaders
  simp only [completeHead, hlookup, Option.getD_some]

-- The line does not stand in the way of a request that is read without it.
lemma read_inserted (hkey : apiKey ≠ [])
    (hother : ∀ line ∈ authorized.otherLines, ∀ value,
      ¬IsHeader line (ascii "authorization") value)
    (hlimit : (joinLines authorized.lines).length ≤ maximumHeaderBytes) {request : HttpRequest}
    {rest : Bytes}
    (hread : readHttpRequest
      (headerStream (authorized.requestLine :: authorized.otherLines) authorized.content) =
        ({ value := some request }, rest)) :
    readHttpRequest (headerStream authorized.lines authorized.content) =
      ({ value := some { request with authorization := bearerPrefix ++ apiKey } }, rest) := by
  have hplain := authorized.lines_plain' hbytes
  have hplain' := authorized.lines_plain
  have hunbroken := (authorized.lines_plain _ List.mem_cons_self).unbroken
  obtain ⟨-, head, contentLength, hhead, hcontent, hrest, rfl, -⟩ :=
    (read_stream_iff hplain' (List.cons_ne_nil _ _)).mp ⟨hread, rfl⟩
  obtain ⟨line, headers, hline, hheaders, hencoding, hlength, rfl⟩ := parseHead_ok_iff.1 hhead
  rw [headerLines_joinLines hplain'] at hheaders
  rw [parseRequestLine_joinLines hunbroken] at hline
  obtain ⟨headers', hheaders', habsent, hlookup⟩ :=
    parseLines_insert (authorized.isHeader hbytes hkey) hheaders hother
  have hsame : ∀ name, name ≠ ascii "authorization" →
      headers'.lookup name = headers.lookup name := fun name hname => by
    rw [hlookup, if_neg hname]
  have hhead' : parseHead (joinLines authorized.lines) =
      .ok ({ completeHead line headers with authorization := bearerPrefix ++ apiKey },
        contentLength) := by
    refine parseHead_ok_iff.2 ⟨line, headers', ?_, ?_, ?_, ?_, ?_⟩
    · rw [lines, parseRequestLine_joinLines hunbroken, hline]
    · rw [lines, headerLines_joinLines hplain, hheaders']
    · rw [hsame _ (by decide), hencoding]
    · rw [← hlength, contentLengthOf, contentLengthOf, hsame _ (by decide)]
    · have hauthorization : headers'.lookup (ascii "authorization") =
          some (bearerPrefix ++ apiKey) := by rw [hlookup, if_pos rfl]
      rw [completeHead, completeHead, hsame (ascii "content-type") (by decide),
        hsame (ascii "connection") (by decide), hauthorization, Option.getD_some]
  exact ((read_stream_iff hplain (List.cons_ne_nil _ _)).mpr
    ⟨hlimit, _, contentLength, hhead', hcontent, hrest, rfl, rfl⟩).1

end AuthorizedRequest

end Bearer

end Qwen3xOrin.Server
