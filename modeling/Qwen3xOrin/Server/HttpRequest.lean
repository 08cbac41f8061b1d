import Qwen3xOrin.Io.Tensor
import Qwen3xOrin.Library.Guard
import Qwen3xOrin.Library.Search

/-! Reading an HTTP request from a buffer that grows read by read: every read parses the whole
buffer again until the request is complete or refused. -/

namespace Qwen3xOrin.Server

open Io Library Library.Search

abbrev Bytes := List UInt8

def maximumHeaderBytes : ℕ := 64 * 1024
def maximumBodyBytes : ℕ := 4 * 1024 * 1024
def readBytes : ℕ := 8192

def ascii (text : String) : Bytes := text.toList.map fun character => UInt8.ofNat character.toNat

-- A literal is such a string, whose bytes need no decoding then.
lemma ascii_ofList (text : List Char) :
    ascii (String.ofList text) = text.map fun character => UInt8.ofNat character.toNat := by
  rw [ascii, String.toList_ofList]

def crlf : Bytes := [13, 10]
def headerTerminator : Bytes := [13, 10, 13, 10]

structure HttpRequest where
  method : Bytes := []
  target : Bytes := []
  contentType : Bytes := []
  authorization : Bytes := []
  body : Bytes := []
  keepAlive : Bool := true
  deriving DecidableEq, Repr

structure HttpReadResult where
  value : Option HttpRequest := none
  errorStatus : ℕ := 0
  errorMessage : String := ""
  peerClosed : Bool := false
  incomplete : Bool := false
  deriving DecidableEq, Repr

def lowercase (text : Bytes) : Bytes := text.map fun character =>
  if 65 ≤ character ∧ character ≤ 90 then character - 65 + 97 else character

def isBlank (character : UInt8) : Bool := character = 32 ∨ character = 9

def trimAscii (value : Bytes) : Bytes :=
  ((value.dropWhile isBlank).reverse.dropWhile isBlank).reverse

def parseDecimalSize (text : Bytes) : Option ℕ := do
  guard (text ≠ [])
  text.foldlM (fun value character => do
    guard (48 ≤ character ∧ character ≤ 57)
    let digit := character.toNat - 48
    guard (value ≤ (uint64Max - digit) / 10)
    pure (value * 10 + digit)) 0

abbrev Headers := List (Bytes × Bytes)

abbrev Refusal := ℕ × String

def parseRequestLine (headerBlock : Bytes) : Except Refusal HttpRequest :=
  let requestLine := match find crlf headerBlock with
    | none => headerBlock
    | some firstLineEnd => headerBlock.take firstLineEnd
  let malformed : Refusal := (400, "only well-formed HTTP/1.1 requests are supported")
  match find [32] requestLine with
  | none => .error malformed
  | some firstSpace =>
    match find [32] (requestLine.drop (firstSpace + 1)) with
    | none => .error malformed
    | some targetBytes =>
      if requestLine.drop (firstSpace + 1 + targetBytes + 1) ≠ ascii "HTTP/1.1" then
        .error malformed
      else .ok
        { method := requestLine.take firstSpace
          target := (requestLine.drop (firstSpace + 1)).take targetBytes }

def parseHeaderLine (headers : Headers) (line : Bytes) : Except Refusal Headers :=
  match find [58] line with
  | none => .error (400, "malformed HTTP header")
  | some colon =>
    if colon = 0 then .error (400, "malformed HTTP header")
    else
      let key := lowercase (line.take colon)
      let value := trimAscii (line.drop (colon + 1))
      if (headers.lookup key).isSome then
        .error (400, "duplicate HTTP headers are not supported")
      else .ok ((key, value) :: headers)

-- The loop over the lines behind the request line; `rest` is the block from `line_begin` on.
def parseHeaderLines (headers : Headers) (rest : Bytes) : Except Refusal Headers :=
  if rest = [] then .ok headers
  else
    match find crlf rest with
    | none => parseHeaderLine headers rest
    | some lineEnd =>
      match parseHeaderLine headers (rest.take lineEnd) with
      | .error refusal => .error refusal
      | .ok headers => parseHeaderLines headers (rest.drop (lineEnd + 2))
termination_by rest.length
decreasing_by
  have := List.length_pos_iff.mpr ‹¬rest = []›
  rw [List.length_drop]
  omega

def headerLines (headerBlock : Bytes) : Except Refusal Headers :=
  match find crlf headerBlock with
  | none => .ok []
  | some firstLineEnd => parseHeaderLines [] (headerBlock.drop (firstLineEnd + 2))

def contentLengthOf (request : HttpRequest) (headers : Headers) : Except Refusal ℕ :=
  match headers.lookup (ascii "content-length") with
  | none =>
    if request.method = ascii "POST" then .error (411, "POST requires Content-Length") else .ok 0
  | some text =>
    match parseDecimalSize text with
    | none => .error (413, "request body exceeds the fixed limit")
    | some contentLength =>
      if maximumBodyBytes < contentLength then
        .error (413, "request body exceeds the fixed limit")
      else .ok contentLength

def parseHead (headerBlock : Bytes) : Except Refusal (HttpRequest × ℕ) := do
  let request ← parseRequestLine headerBlock
  let headers ← headerLines headerBlock
  if (headers.lookup (ascii "transfer-encoding")).isSome then
    .error (400, "request transfer-encoding is not supported")
  else do
    let contentLength ← contentLengthOf request headers
    let connection := headers.lookup (ascii "connection")
    pure
      ({ request with
          contentType := ((headers.lookup (ascii "content-type")).map lowercase).getD []
          authorization := (headers.lookup (ascii "authorization")).getD []
          keepAlive := connection.all fun value => lowercase value ≠ ascii "close" },
        contentLength)

def refused (refusal : Refusal) : HttpReadResult :=
  { errorStatus := refusal.1, errorMessage := refusal.2 }

def headersExceeded : Refusal := (413, "HTTP headers exceed the fixed limit")

-- With `buffered_only` set: what is missing is left to the caller's next read.
def readHttpRequest (buffer : Bytes) : HttpReadResult × Bytes :=
  match find headerTerminator buffer with
  | none =>
    if maximumHeaderBytes ≤ buffer.length then (refused headersExceeded, buffer)
    else ({ incomplete := true }, buffer)
  | some headerEnd =>
    if maximumHeaderBytes < headerEnd then (refused headersExceeded, buffer)
    else
      match parseHead (buffer.take headerEnd) with
      | .error refusal => (refused refusal, buffer)
      | .ok (request, contentLength) =>
        let messageBytes := headerEnd + 4 + contentLength
        if buffer.length < messageBytes then ({ incomplete := true }, buffer)
        else
          ({ value := some
              { request with body := (buffer.drop (headerEnd + 4)).take contentLength } },
            buffer.drop messageBytes)

-- The reads of one staged connection, up to the first result that is not incomplete.
def stageHttpConnection (buffer : Bytes) : List Bytes → Option (HttpReadResult × Bytes)
  | [] => none
  | read :: reads =>
    let (parsed, buffer) := readHttpRequest (buffer ++ read)
    if parsed.incomplete then stageHttpConnection buffer reads else some (parsed, buffer)

lemma stageHttpConnection_nil (buffer : Bytes) : stageHttpConnection buffer [] = none := rfl

lemma stageHttpConnection_cons (buffer read : Bytes) (reads : List Bytes) :
    stageHttpConnection buffer (read :: reads) =
      if (readHttpRequest (buffer ++ read)).1.incomplete then
        stageHttpConnection (readHttpRequest (buffer ++ read)).2 reads
      else some (readHttpRequest (buffer ++ read)) := rfl

end Qwen3xOrin.Server
