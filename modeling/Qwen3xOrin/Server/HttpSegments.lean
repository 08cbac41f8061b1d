import Qwen3xOrin.Server.HttpRequest

/-! How a stream is cut into reads decides its fate only when its header block ends in the last
bytes before the limit. -/

namespace Qwen3xOrin.Server

open Io Library Library.Search

structure IsCut (stream : Bytes) (reads : List Bytes) : Prop where
  joined : reads.flatten = stream
  sized : ∀ read ∈ reads, read ≠ [] ∧ read.length ≤ readBytes

def verdict (result : HttpReadResult × Bytes) : Option HttpRequest × ℕ :=
  (result.1.value, result.1.errorStatus)

def SegmentationFree (stream : Bytes) : Prop :=
  ∀ reads reads', IsCut stream reads → IsCut stream reads' →
    (stageHttpConnection [] reads).map verdict = (stageHttpConnection [] reads').map verdict

def DeclaredLength (headerBlock : Bytes) (contentLength : ℕ) : Prop :=
  ∃ headers, headerLines headerBlock = .ok headers ∧
    match headers.lookup (ascii "content-length") with
    | none => contentLength = 0
    | some text => parseDecimalSize text = some contentLength

def AcceptedExact (stream : Bytes) : Prop :=
  ∀ reads, IsCut stream reads → ∀ result rest request,
    stageHttpConnection [] reads = some (result, rest) → result.value = some request →
    ∃ consumed later headerEnd contentLength, reads = consumed ++ later ∧
      find headerTerminator stream = some headerEnd ∧
      DeclaredLength (stream.take headerEnd) contentLength ∧
      request.body.length = contentLength ∧
      consumed.flatten = stream.take (headerEnd + 4) ++ request.body ++ rest

-- The block is a request whose Content-Length is not a decimal number within the body limit.
def OversizedBody (headerBlock : Bytes) : Prop :=
  ∃ request headers text, parseRequestLine headerBlock = .ok request ∧
    headerLines headerBlock = .ok headers ∧
    headers.lookup (ascii "transfer-encoding") = none ∧
    headers.lookup (ascii "content-length") = some text ∧
    ∀ contentLength, parseDecimalSize text = some contentLength →
      maximumBodyBytes < contentLength

-- No header block ends within the last four bytes that the limit admits.
def ClearOfLimit (stream : Bytes) : Prop :=
  ∀ headerEnd, find headerTerminator stream = some headerEnd →
    headerEnd + 4 ≤ maximumHeaderBytes ∨ maximumHeaderBytes < headerEnd ∨
      OversizedBody (stream.take headerEnd)

section Refusals

variable {headerBlock : Bytes}

lemma parseRequestLine_error {refusal : Refusal}
    (h : parseRequestLine headerBlock = .error refusal) : refusal.1 = 400 := by
  unfold parseRequestLine at h
  dsimp only at h
  split at h
  · cases h
    rfl
  · split at h
    · cases h
      rfl
    · split_ifs at h
      cases h
      rfl

lemma parseHeaderLine_error {headers : Headers} {line : Bytes} {refusal : Refusal}
    (h : parseHeaderLine headers line = .error refusal) : refusal.1 = 400 := by
  unfold parseHeaderLine at h
  split at h
  · cases h
    rfl
  · dsimp only at h
    split_ifs at h
    · cases h
      rfl
    · cases h
      rfl

lemma parseHeaderLines_error {headers : Headers} {rest : Bytes} {refusal : Refusal}
    (h : parseHeaderLines headers rest = .error refusal) : refusal.1 = 400 := by
  fun_induction parseHeaderLines headers rest with
  | case1 headers => cases h
  | case2 headers rest hrest hfind => exact parseHeaderLine_error h
  | case3 headers rest hrest lineEnd hfind refusal' hline =>
    cases h
    exact parseHeaderLine_error hline
  | case4 headers rest hrest lineEnd hfind headers' hline ih => exact ih h

lemma headerLines_error {refusal : Refusal} (h : headerLines headerBlock = .error refusal) :
    refusal.1 = 400 := by
  unfold headerLines at h
  split at h
  · cases h
  · exact parseHeaderLines_error h

lemma contentLengthOf_oversized {request : HttpRequest} {headers : Headers} :
    (∃ message, contentLengthOf request headers = .error (413, message)) ↔
      ∃ text, headers.lookup (ascii "content-length") = some text ∧
        ∀ contentLength, parseDecimalSize text = some contentLength →
          maximumBodyBytes < contentLength := by
  unfold contentLengthOf
  cases headers.lookup (ascii "content-length") with
  | none =>
    dsimp only
    split_ifs <;> simp
  | some text =>
    dsimp only
    cases hparse : parseDecimalSize text with
    | none => simp [hparse]
    | some contentLength =>
      dsimp only
      split_ifs with hlarge <;> simp [hparse, hlarge]

-- The only refusal of a header block that shares its status with the header limit.
lemma parseHead_oversized :
    (∃ message, parseHead headerBlock = .error (413, message)) ↔ OversizedBody headerBlock := by
  unfold parseHead OversizedBody
  cases hline : parseRequestLine headerBlock with
  | error refusal =>
    have hstatus := parseRequestLine_error hline
    simp only [reduceCtorEq, false_and, exists_false, iff_false, not_exists]
    rintro message ⟨⟩
    cases hstatus
  | ok request =>
    cases hlines : headerLines headerBlock with
    | error refusal =>
      have hstatus := headerLines_error hlines
      simp only [reduceCtorEq, false_and, and_false, exists_false, iff_false, not_exists]
      rintro message ⟨⟩
      cases hstatus
    | ok headers =>
      rw [ok_bind, ok_bind]
      cases hencoding : headers.lookup (ascii "transfer-encoding") with
      | some encoding =>
        simp only [Option.isSome_some, if_true, Except.ok.injEq, exists_eq_left', exists_and_left,
          hencoding, reduceCtorEq, false_and, and_false, exists_false, iff_false, not_exists]
        rintro message h
        simp at h
      | none =>
        have hlength := @contentLengthOf_oversized request headers
        rw [Option.isSome_none, if_neg (by simp)]
        simp only [Except.ok.injEq, exists_eq_left', exists_and_left, hencoding, true_and]
        rw [← hlength]
        cases contentLengthOf request headers with
        | error refusal => simp [bind, Except.bind]
        | ok contentLength => simp [bind, Except.bind, pure, Except.pure]

end Refusals

section Outcome

variable {stream : Bytes} {headerEnd n : ℕ}

lemma terminator_ne_nil : headerTerminator ≠ [] := by decide

lemma read_waiting (h : find headerTerminator stream = none) :
    readHttpRequest stream =
      if maximumHeaderBytes ≤ stream.length then (refused headersExceeded, stream)
      else ({ incomplete := true }, stream) := by
  rw [readHttpRequest, h]

lemma read_found (h : find headerTerminator stream = some headerEnd) (hn : headerEnd + 4 ≤ n)
    (hlength : n ≤ stream.length) :
    readHttpRequest (stream.take n) =
      if maximumHeaderBytes < headerEnd then (refused headersExceeded, stream.take n)
      else
        match parseHead (stream.take headerEnd) with
        | .error refusal => (refused refusal, stream.take n)
        | .ok (request, contentLength) =>
          if n < headerEnd + 4 + contentLength then ({ incomplete := true }, stream.take n)
          else
            ({ value := some { request with
                body := (stream.drop (headerEnd + 4)).take contentLength } },
              (stream.take n).drop (headerEnd + 4 + contentLength)) := by
  have hblock : (stream.take n).take headerEnd = stream.take headerEnd := by
    rw [List.take_take, Nat.min_eq_left (by omega)]
  have hsize : (stream.take n).length = n := by
    rw [List.length_take, Nat.min_eq_left hlength]
  rw [readHttpRequest, find_take_some terminator_ne_nil h hn]
  dsimp only
  rw [hblock, hsize]
  split_ifs with hlimit
  · rfl
  · cases parseHead (stream.take headerEnd) with
    | error refusal => rfl
    | ok head =>
      obtain ⟨request, contentLength⟩ := head
      dsimp only
      split_ifs with hmissing
      · rfl
      · rw [List.drop_take, List.take_take, Nat.min_eq_left (by omega)]

lemma read_incomplete (h : (readHttpRequest stream).1.incomplete = true) :
    (readHttpRequest stream).2 = stream := by
  revert h
  unfold readHttpRequest
  split
  · split_ifs <;> simp [refused]
  · split_ifs
    · simp [refused]
    · split
      · simp [refused]
      · dsimp only
        split_ifs <;> simp

lemma stage_waits {read : Bytes} {reads : List Bytes}
    (h : (readHttpRequest (stream ++ read)).1.incomplete = true) :
    stageHttpConnection stream (read :: reads) = stageHttpConnection (stream ++ read) reads := by
  rw [stageHttpConnection_cons, if_pos h, read_incomplete h]

lemma stage_decides {read : Bytes} {reads : List Bytes}
    (h : (readHttpRequest (stream ++ read)).1.incomplete = false) :
    stageHttpConnection stream (read :: reads) = some (readHttpRequest (stream ++ read)) := by
  rw [stageHttpConnection_cons, if_neg (by simp [h])]

-- When every initial part that is decided has verdict `v`, so has every cut.
lemma stage_agrees {v : Option HttpRequest × ℕ}
    (hsteady : ∀ n ≤ stream.length, (readHttpRequest (stream.take n)).1.incomplete = false →
      verdict (readHttpRequest (stream.take n)) = v)
    (hlast : (readHttpRequest stream).1.incomplete = true →
      ∀ n ≤ stream.length, (readHttpRequest (stream.take n)).1.incomplete = true)
    {received : Bytes} {reads : List Bytes} (hjoined : received ++ reads.flatten = stream)
    (hwaiting : (readHttpRequest received).1.incomplete = true) :
    (stageHttpConnection received reads).map verdict =
      if (readHttpRequest stream).1.incomplete then none else some v := by
  induction reads generalizing received with
  | nil =>
    rw [List.flatten_nil, List.append_nil] at hjoined
    rw [← hjoined, hwaiting]
    rfl
  | cons read reads ih =>
    rw [List.flatten_cons, ← List.append_assoc] at hjoined
    have hle : (received ++ read).length ≤ stream.length := by
      rw [← hjoined]
      simp
    have htake : stream.take (received ++ read).length = received ++ read := by
      rw [← hjoined, List.take_left]
    cases hparsed : (readHttpRequest (received ++ read)).1.incomplete with
    | true =>
      rw [stage_waits hparsed]
      exact ih hjoined hparsed
    | false =>
      have hverdict := hsteady _ hle (by rw [htake, hparsed])
      rw [htake] at hverdict
      have hdecided : (readHttpRequest stream).1.incomplete = false := by
        by_contra hmissing
        have := hlast (Bool.eq_true_of_not_eq_false hmissing) _ hle
        rw [htake, hparsed] at this
        cases this
      rw [stage_decides hparsed, hdecided, Option.map_some, hverdict]
      rfl

lemma read_empty : (readHttpRequest []).1.incomplete = true := by decide

-- While the terminator has not come in, a buffer is refused by its length or waits.
lemma read_take_waiting (h : find headerTerminator (stream.take n) = none)
    (hn : n ≤ stream.length) :
    readHttpRequest (stream.take n) =
      if maximumHeaderBytes ≤ n then (refused headersExceeded, stream.take n)
      else ({ incomplete := true }, stream.take n) := by
  rw [read_waiting h, List.length_take, Nat.min_eq_left hn]

structure Steady (stream : Bytes) (v : Option HttpRequest × ℕ) : Prop where
  steady : ∀ n ≤ stream.length, (readHttpRequest (stream.take n)).1.incomplete = false →
    verdict (readHttpRequest (stream.take n)) = v
  last : (readHttpRequest stream).1.incomplete = true →
    ∀ n ≤ stream.length, (readHttpRequest (stream.take n)).1.incomplete = true

lemma steady_absent (h : find headerTerminator stream = none) : Steady stream (none, 413) where
  steady n hn := by
    rw [read_take_waiting (find_take_absent terminator_ne_nil h) hn]
    split_ifs with hlimit
    · exact fun _ => rfl
    · simp
  last hmissing n hn := by
    rw [read_waiting h] at hmissing
    split_ifs at hmissing with hlimit
    · cases hmissing
    · rw [read_take_waiting (find_take_absent terminator_ne_nil h) hn, if_neg (by omega)]

lemma steady_refused (h : find headerTerminator stream = some headerEnd)
    (hrefused : maximumHeaderBytes < headerEnd ∨ OversizedBody (stream.take headerEnd)) :
    Steady stream (none, 413) := by
  have hfound : ∀ n, headerEnd + 4 ≤ n → n ≤ stream.length →
      (readHttpRequest (stream.take n)).1.incomplete = false ∧
        verdict (readHttpRequest (stream.take n)) = (none, 413) := by
    intro n hn hle
    rw [read_found h hn hle]
    split_ifs with hlimit
    · exact ⟨rfl, rfl⟩
    · obtain ⟨message, hhead⟩ := parseHead_oversized.2 (hrefused.resolve_left hlimit)
      rw [hhead]
      exact ⟨rfl, rfl⟩
  refine ⟨fun n hn => ?_, fun hmissing => ?_⟩
  · by_cases hbefore : n < headerEnd + 4
    · rw [read_take_waiting (find_take_none terminator_ne_nil h hbefore) hn]
      split_ifs with hlimit
      · exact fun _ => rfl
      · simp
    · exact fun _ => (hfound n (by omega) hn).2
  · have hdecided := (hfound stream.length (find_add_length h) (Nat.le_refl _)).1
    rw [List.take_length, hmissing] at hdecided
    cases hdecided

lemma steady_within (h : find headerTerminator stream = some headerEnd)
    (hwithin : headerEnd + 4 ≤ maximumHeaderBytes) : ∃ v, Steady stream v := by
  have hlength : headerEnd + 4 ≤ stream.length := find_add_length h
  have hlimit : ¬maximumHeaderBytes < headerEnd := by omega
  have hbefore : ∀ n, n < headerEnd + 4 → n ≤ stream.length →
      (readHttpRequest (stream.take n)).1.incomplete = true := by
    intro n hn hle
    rw [read_take_waiting (find_take_none terminator_ne_nil h hn) hle, if_neg (by omega)]
  have hfound := fun n (hn : headerEnd + 4 ≤ n) hle => @read_found stream headerEnd n h hn hle
  cases hhead : parseHead (stream.take headerEnd) with
  | error refusal =>
    refine ⟨(none, refusal.1), fun n hn hdecided => ?_, fun hmissing => ?_⟩
    · by_cases hearly : n < headerEnd + 4
      · rw [hbefore n hearly hn] at hdecided
        cases hdecided
      · rw [hfound n (by omega) hn, if_neg hlimit, hhead]
        rfl
    · have hwhole := hfound stream.length hlength (Nat.le_refl _)
      rw [List.take_length, if_neg hlimit, hhead] at hwhole
      rw [hwhole] at hmissing
      cases hmissing
  | ok head =>
    obtain ⟨request, contentLength⟩ := head
    refine ⟨(some { request with body := (stream.drop (headerEnd + 4)).take contentLength }, 0),
      fun n hn hdecided => ?_, fun hmissing n hn => ?_⟩
    · by_cases hearly : n < headerEnd + 4
      · rw [hbefore n hearly hn] at hdecided
        cases hdecided
      · rw [hfound n (by omega) hn, if_neg hlimit, hhead] at hdecided ⊢
        dsimp only at hdecided ⊢
        split_ifs at hdecided ⊢
        · rfl
    · have hwhole := hfound stream.length hlength (Nat.le_refl _)
      rw [List.take_length, if_neg hlimit, hhead] at hwhole
      rw [hwhole] at hmissing
      dsimp only at hmissing
      split_ifs at hmissing with hshort
      by_cases hearly : n < headerEnd + 4
      · exact hbefore n hearly hn
      · rw [hfound n (by omega) hn, if_neg hlimit, hhead]
        dsimp only
        rw [if_pos (by omega)]

lemma ClearOfLimit.steady (h : ClearOfLimit stream) : ∃ v, Steady stream v := by
  cases hfind : find headerTerminator stream with
  | none => exact ⟨_, steady_absent hfind⟩
  | some headerEnd =>
    obtain hwithin | hrefused := h headerEnd hfind
    · exact steady_within hfind hwithin
    · exact ⟨_, steady_refused hfind hrefused⟩

lemma ClearOfLimit.segmentationFree (h : ClearOfLimit stream) : SegmentationFree stream := by
  obtain ⟨v, hsteady⟩ := h.steady
  intro reads reads' hcut hcut'
  rw [stage_agrees hsteady.steady hsteady.last hcut.joined read_empty,
    stage_agrees hsteady.steady hsteady.last hcut'.joined read_empty]

end Outcome

section Cuts

variable {stream : Bytes} {headerEnd : ℕ}

lemma exists_cut (stream : Bytes) : ∃ reads, IsCut stream reads := by
  induction hlength : stream.length using Nat.strong_induction_on generalizing stream with
  | _ length ih =>
    by_cases hempty : stream = []
    · exact ⟨[], by simp [hempty], by simp⟩
    · have hpos := List.length_pos_iff.mpr hempty
      have hsize : readBytes = 8192 := rfl
      obtain ⟨reads, hreads⟩ := ih (stream.drop readBytes).length
        (by rw [List.length_drop]; omega) (stream.drop readBytes) rfl
      refine ⟨stream.take readBytes :: reads, ?_, ?_⟩
      · rw [List.flatten_cons, hreads.joined, List.take_append_drop]
      · refine List.forall_mem_cons.mpr ⟨⟨?_, List.length_take_le _ _⟩, hreads.sized⟩
        rw [← List.length_pos_iff, List.length_take]
        omega

lemma IsCut.append {stream' : Bytes} {reads reads' : List Bytes} (h : IsCut stream reads)
    (h' : IsCut stream' reads') : IsCut (stream ++ stream') (reads ++ reads') := by
  refine ⟨by rw [List.flatten_append, h.joined, h'.joined], ?_⟩
  intro read hread
  exact (List.mem_append.mp hread).elim (h.sized read) (h'.sized read)

lemma isCut_single {read : Bytes} (hne : read ≠ []) (hlength : read.length ≤ readBytes) :
    IsCut read [read] :=
  ⟨by simp, by simpa using ⟨hne, hlength⟩⟩

lemma stage_append {received : Bytes} {reads later : List Bytes} :
    stageHttpConnection received (reads ++ later) =
      match stageHttpConnection received reads with
      | some result => some result
      | none => stageHttpConnection (received ++ reads.flatten) later := by
  induction reads generalizing received with
  | nil => rw [List.flatten_nil, List.append_nil, List.nil_append, stageHttpConnection_nil]
  | cons read reads ih =>
    rw [List.cons_append]
    cases hparsed : (readHttpRequest (received ++ read)).1.incomplete with
    | true => rw [stage_waits hparsed, stage_waits hparsed, ih, List.flatten_cons,
        List.append_assoc]
    | false => rw [stage_decides hparsed, stage_decides hparsed]

-- Once the buffer is long enough, no later result has the verdict `v`.
lemma stage_never {v : Option HttpRequest × ℕ} {enough : ℕ}
    (hnever : ∀ n, enough ≤ n → n ≤ stream.length →
      (readHttpRequest (stream.take n)).1.incomplete = false →
      verdict (readHttpRequest (stream.take n)) ≠ v)
    {received : Bytes} {reads : List Bytes} (hjoined : received ++ reads.flatten = stream)
    (hlong : ∀ read ∈ reads.head?, enough ≤ (received ++ read).length) :
    (stageHttpConnection received reads).map verdict ≠ some v := by
  induction reads generalizing received with
  | nil => exact fun hsome => nomatch hsome
  | cons read reads ih =>
    rw [List.flatten_cons, ← List.append_assoc] at hjoined
    have henough := hlong read rfl
    have hle : (received ++ read).length ≤ stream.length := by
      rw [← hjoined]
      simp
    have htake : stream.take (received ++ read).length = received ++ read := by
      rw [← hjoined, List.take_left]
    cases hparsed : (readHttpRequest (received ++ read)).1.incomplete with
    | true =>
      rw [stage_waits hparsed]
      refine ih hjoined fun next _ => ?_
      have hgrown : (received ++ read).length ≤ (received ++ read ++ next).length := by simp
      omega
    | false =>
      have hverdict := hnever _ henough hle (by rw [htake, hparsed])
      rw [htake] at hverdict
      rw [stage_decides hparsed]
      simpa using hverdict

lemma never_exceeded (h : find headerTerminator stream = some headerEnd)
    (hlimit : headerEnd ≤ maximumHeaderBytes) (hbody : ¬OversizedBody (stream.take headerEnd)) :
    ∀ n, headerEnd + 4 ≤ n → n ≤ stream.length →
      (readHttpRequest (stream.take n)).1.incomplete = false →
      verdict (readHttpRequest (stream.take n)) ≠ (none, 413) := by
  intro n hn hle
  rw [read_found h hn hle, if_neg (by omega)]
  cases hhead : parseHead (stream.take headerEnd) with
  | error refusal =>
    intro _ hverdict
    have hstatus : refusal.1 = 413 := congrArg Prod.snd hverdict
    refine hbody (parseHead_oversized.1 ⟨refusal.2, ?_⟩)
    rw [hhead, ← hstatus]
  | ok head =>
    obtain ⟨request, contentLength⟩ := head
    dsimp only
    split_ifs
    · simp
    · simp [verdict]

-- One cut stops right at the limit, the other steps over it into the terminator.
lemma clearOfLimit_of_segmentationFree (h : SegmentationFree stream) : ClearOfLimit stream := by
  intro headerEnd hfind
  by_contra hclear
  have hmax : maximumHeaderBytes = 65536 := rfl
  have hsize : readBytes = 8192 := rfl
  have hbody : ¬OversizedBody (stream.take headerEnd) := fun hbody => hclear (Or.inr (Or.inr hbody))
  have hlow : 65536 < headerEnd + 4 := by
    by_contra hlow
    exact hclear (Or.inl (by omega))
  have hhigh : headerEnd ≤ 65536 := by
    by_contra hhigh
    exact hclear (Or.inr (Or.inl (by omega)))
  have hlength := find_add_length hfind
  have hterminator : headerTerminator.length = 4 := rfl
  obtain ⟨head, hhead⟩ := exists_cut (stream.take 65536)
  obtain ⟨tail, htail⟩ := exists_cut (stream.drop 65536)
  have hstopped : (stageHttpConnection [] (head ++ tail)).map verdict = some (none, 413) := by
    have habsent := find_take_none (n := 65536) terminator_ne_nil hfind (by omega)
    have hsteady := steady_absent habsent
    have hstage := stage_agrees hsteady.steady hsteady.last hhead.joined read_empty
    have hfull := read_take_waiting habsent (by omega)
    rw [if_pos hmax.le] at hfull
    rw [hfull] at hstage
    rw [stage_append]
    cases hresult : stageHttpConnection [] head with
    | none =>
      rw [hresult] at hstage
      cases hstage
    | some result =>
      rw [hresult] at hstage
      exact hstage
  obtain ⟨before, hbefore⟩ := exists_cut (stream.take 65528)
  obtain ⟨after, hafter⟩ := exists_cut ((stream.drop 65528).drop 8192)
  have hread : ((stream.drop 65528).take 8192).length = min 8192 (stream.length - 65528) := by
    rw [List.length_take, List.length_drop]
  have hsingle : IsCut ((stream.drop 65528).take 8192) [(stream.drop 65528).take 8192] := by
    refine isCut_single ?_ (by omega)
    rw [← List.length_pos_iff]
    omega
  have hwhole : stream.take 65528 ++ ((stream.drop 65528).take 8192 ++
      (stream.drop 65528).drop 8192) = stream := by
    rw [List.take_append_drop, List.take_append_drop]
  have hcut := hbefore.append (hsingle.append hafter)
  rw [hwhole] at hcut
  have hcut' := hhead.append htail
  rw [List.take_append_drop] at hcut'
  have hpassed : (stageHttpConnection []
      (before ++ ([(stream.drop 65528).take 8192] ++ after))).map verdict ≠ some (none, 413) := by
    have habsent := find_take_none (n := 65528) terminator_ne_nil hfind (by omega)
    have hsteady := steady_absent habsent
    have hstage := stage_agrees hsteady.steady hsteady.last hbefore.joined read_empty
    have hshort := read_take_waiting habsent (by omega)
    rw [if_neg (show ¬maximumHeaderBytes ≤ 65528 by omega)] at hshort
    rw [hshort] at hstage
    have hwaits : stageHttpConnection [] before = none := by
      simpa using hstage
    rw [stage_append, hwaits]
    dsimp only
    rw [List.nil_append, hbefore.joined]
    refine stage_never (never_exceeded hfind hhigh hbody) ?_ ?_
    · rw [(hsingle.append hafter).joined, hwhole]
    · intro read hmem
      cases hmem
      rw [List.length_append, List.length_take]
      omega
  exact hpassed ((h _ _ hcut hcut').trans hstopped)

end Cuts

section Accepted

lemma contentLengthOf_ok {request : HttpRequest} {headers : Headers} {contentLength : ℕ}
    (h : contentLengthOf request headers = .ok contentLength) :
    match headers.lookup (ascii "content-length") with
    | none => contentLength = 0
    | some text => parseDecimalSize text = some contentLength := by
  unfold contentLengthOf at h
  cases hlookup : headers.lookup (ascii "content-length") with
  | none =>
    rw [hlookup] at h
    dsimp only at h
    split_ifs at h
    cases h
    rfl
  | some text =>
    rw [hlookup] at h
    dsimp only at h
    cases hparse : parseDecimalSize text with
    | none =>
      rw [hparse] at h
      cases h
    | some length =>
      rw [hparse] at h
      dsimp only at h
      split_ifs at h
      cases h
      exact hparse

lemma parseHead_ok {headerBlock : Bytes} {request : HttpRequest} {contentLength : ℕ}
    (h : parseHead headerBlock = .ok (request, contentLength)) :
    DeclaredLength headerBlock contentLength := by
  obtain ⟨line, -, h⟩ := bind_ok.mp h
  obtain ⟨headers, hheaders, h⟩ := bind_ok.mp h
  obtain ⟨-, h⟩ := guard_ok.mp h
  obtain ⟨length, hlength, h⟩ := bind_ok.mp h
  cases h
  exact ⟨headers, hheaders, contentLengthOf_ok hlength⟩

lemma read_accepted {buffer rest : Bytes} {result : HttpReadResult} {request : HttpRequest}
    (h : readHttpRequest buffer = (result, rest)) (hvalue : result.value = some request) :
    ∃ headerEnd contentLength, find headerTerminator buffer = some headerEnd ∧
      DeclaredLength (buffer.take headerEnd) contentLength ∧
      request.body.length = contentLength ∧
      buffer = buffer.take (headerEnd + 4) ++ request.body ++ rest := by
  unfold readHttpRequest at h
  cases hfind : find headerTerminator buffer with
  | none =>
    rw [hfind] at h
    dsimp only at h
    split_ifs at h <;> cases h <;> cases hvalue
  | some headerEnd =>
    rw [hfind] at h
    dsimp only at h
    split_ifs at h
    · cases h
      cases hvalue
    · cases hhead : parseHead (buffer.take headerEnd) with
      | error refusal =>
        rw [hhead] at h
        cases h
        cases hvalue
      | ok head =>
        obtain ⟨head, contentLength⟩ := head
        rw [hhead] at h
        dsimp only at h
        split_ifs at h with hshort
        · cases h
          cases hvalue
        · cases h
          cases hvalue
          refine ⟨headerEnd, contentLength, rfl, parseHead_ok hhead, ?_, ?_⟩
          · rw [List.length_take, List.length_drop]
            omega
          · have hrest : buffer.drop (headerEnd + 4 + contentLength) =
                (buffer.drop (headerEnd + 4)).drop contentLength := by rw [List.drop_drop]
            rw [hrest, List.append_assoc, List.take_append_drop, List.take_append_drop]

lemma stage_consumed {received rest : Bytes} {reads : List Bytes} {result : HttpReadResult}
    (h : stageHttpConnection received reads = some (result, rest)) :
    ∃ consumed later, reads = consumed ++ later ∧
      readHttpRequest (received ++ consumed.flatten) = (result, rest) := by
  induction reads generalizing received with
  | nil => cases h
  | cons read reads ih =>
    cases hparsed : (readHttpRequest (received ++ read)).1.incomplete with
    | true =>
      rw [stage_waits hparsed] at h
      obtain ⟨consumed, later, rfl, hread⟩ := ih h
      exact ⟨read :: consumed, later, rfl, by simpa using hread⟩
    | false =>
      rw [stage_decides hparsed] at h
      exact ⟨[read], reads, rfl, by simpa using h⟩

lemma acceptedExact (stream : Bytes) : AcceptedExact stream := by
  intro reads hcut result rest request hstage hvalue
  obtain ⟨consumed, later, rfl, hread⟩ := stage_consumed hstage
  rw [List.nil_append] at hread
  obtain ⟨headerEnd, contentLength, hfind, hdeclared, hbody, hsplit⟩ := read_accepted hread hvalue
  have hstream : stream = consumed.flatten ++ later.flatten := by
    rw [← hcut.joined, List.flatten_append]
  have hlength := find_add_length hfind
  have hterminator : headerTerminator.length = 4 := rfl
  have htake : ∀ n ≤ consumed.flatten.length, stream.take n = consumed.flatten.take n := by
    intro n hn
    rw [hstream, List.take_append_of_le_length hn]
  refine ⟨consumed, later, headerEnd, contentLength, rfl, ?_, ?_, hbody, ?_⟩
  · obtain ⟨hle, hstart, hfirst⟩ := find_eq_some_iff.mp hfind
    have hwhole : consumed.flatten = stream.take consumed.flatten.length := by
      rw [htake _ (Nat.le_refl _), List.take_length]
    rw [hwhole] at hstart hfirst
    refine find_eq_some_iff.mpr ⟨?_, ((prefix_drop_take terminator_ne_nil).mp hstart).1, ?_⟩
    · rw [hstream, List.length_append]
      omega
    · intro j hj hearly
      exact hfirst j hj ((prefix_drop_take terminator_ne_nil).mpr ⟨hearly, by omega⟩)
  · rw [htake headerEnd (by omega)]
    exact hdeclared
  · rw [htake (headerEnd + 4) (by omega)]
    exact hsplit

end Accepted

theorem http_segmentation_exact (stream : Bytes) :
    (SegmentationFree stream ∧ AcceptedExact stream) ↔ ClearOfLimit stream :=
  ⟨fun h => clearOfLimit_of_segmentationFree h.1,
    fun h => ⟨h.segmentationFree, acceptedExact stream⟩⟩

section Limit

-- A request with one header line of `count + 2` bytes; its block is `18 + count` bytes long.
def paddedBlock (count : ℕ) : Bytes :=
  ascii "GET / HTTP/1.1\r\nx:" ++ List.replicate count 97

lemma find_replicate {pattern : Bytes} {byte : UInt8} {rest : Bytes} (h : ∃ b p, b ≠ byte ∧
    pattern = b :: p) (count : ℕ) :
    find pattern (List.replicate count byte ++ rest) = (find pattern rest).map (· + count) := by
  obtain ⟨b, p, hne, rfl⟩ := h
  induction count with
  | zero => simp
  | succ count ih =>
    have hhead : ((b :: p).isPrefixOf (byte :: (List.replicate count byte ++ rest))) = false := by
      simp [List.isPrefixOf, hne]
    rw [List.replicate_succ, List.cons_append, find_cons, hhead, if_neg (by simp), ih, Option.map_map]
    congr 1

lemma paddedBlock_eq (count : ℕ) : paddedBlock count =
    [71, 69, 84, 32, 47, 32, 72, 84, 84, 80, 47, 49, 46, 49, 13, 10, 120, 58] ++
      List.replicate count 97 := by
  have hhead : ascii "GET / HTTP/1.1\r\nx:" =
      [71, 69, 84, 32, 47, 32, 72, 84, 84, 80, 47, 49, 46, 49, 13, 10, 120, 58] := by decide
  rw [paddedBlock, hhead]

lemma find_paddedBlock (count : ℕ) :
    find headerTerminator (paddedBlock count ++ headerTerminator) = some (18 + count) := by
  have hpad : find [13, 10, 13, 10] (List.replicate count (97 : UInt8) ++ [13, 10, 13, 10]) =
      some count := by
    rw [find_replicate ⟨13, [10, 13, 10], by decide, rfl⟩]
    simp [find_cons]
  rw [paddedBlock_eq, List.append_assoc]
  simp only [headerTerminator, List.cons_append, List.nil_append, find_cons, List.isPrefixOf, hpad]
  simp
  omega

lemma find_crlf_replicate (count : ℕ) : find crlf (List.replicate count 97) = none := by
  have hpad := @find_replicate crlf 97 [] ⟨13, [10], by decide, rfl⟩ count
  rw [List.append_nil] at hpad
  rw [hpad]
  rfl

lemma headerLines_paddedBlock (count : ℕ) :
    ∃ value, headerLines (paddedBlock count) = .ok [([120], value)] := by
  have hfirst : find crlf (paddedBlock count) = some 14 := by
    rw [paddedBlock_eq]
    simp only [crlf, List.cons_append, find_cons, List.isPrefixOf]
    simp
  have hrest : (paddedBlock count).drop 16 = 120 :: 58 :: List.replicate count 97 := by
    rw [paddedBlock_eq]
    rfl
  have hnone : find crlf (120 :: 58 :: List.replicate count 97) = none := by
    have hpad := find_crlf_replicate count
    simp only [crlf, find_cons, List.isPrefixOf] at hpad ⊢
    rw [hpad]
    simp
  have hcolon : find [58] (120 :: 58 :: List.replicate count (97 : UInt8)) = some 1 := by
    simp only [find_cons, List.isPrefixOf]
    simp
  have hkey : lowercase ((120 :: 58 :: List.replicate count 97).take 1) = [120] := rfl
  refine ⟨trimAscii (List.replicate count 97), ?_⟩
  rw [headerLines, hfirst]
  dsimp only
  rw [hrest, parseHeaderLines, if_neg (by simp), hnone]
  dsimp only
  rw [parseHeaderLine, hcolon]
  dsimp only
  rw [if_neg (by simp), hkey, if_neg (by simp)]
  rfl

lemma paddedBlock_not_oversized (count : ℕ) : ¬OversizedBody (paddedBlock count) := by
  rintro ⟨request, headers, text, -, hheaders, -, hlength, -⟩
  obtain ⟨value, hvalue⟩ := headerLines_paddedBlock count
  rw [hvalue] at hheaders
  cases hheaders
  have hkey : (ascii "content-length" == [120]) = false := by decide
  rw [List.lookup_cons, hkey] at hlength
  cases hlength

lemma padded_not_clear {count : ℕ} (hlow : 65536 < 18 + count + 4) (hhigh : 18 + count ≤ 65536) :
    ¬ClearOfLimit (paddedBlock count ++ headerTerminator) := by
  have hblock : (paddedBlock count ++ headerTerminator).take (18 + count) = paddedBlock count := by
    have hsize : (paddedBlock count).length = 18 + count := by
      rw [paddedBlock_eq]
      simp
      omega
    rw [← hsize, List.take_left]
  intro h
  obtain hwithin | hover | hbody := h _ (find_paddedBlock count)
  · simp only [maximumHeaderBytes] at hwithin
    omega
  · simp only [maximumHeaderBytes] at hover
    omega
  · rw [hblock] at hbody
    exact paddedBlock_not_oversized count hbody

end Limit

theorem http_segmentation_limit :
    ¬(SegmentationFree (paddedBlock 65518 ++ headerTerminator) ∧
      AcceptedExact (paddedBlock 65518 ++ headerTerminator)) := fun h =>
  padded_not_clear (by omega) (by omega) (clearOfLimit_of_segmentationFree h.1)

end Qwen3xOrin.Server
