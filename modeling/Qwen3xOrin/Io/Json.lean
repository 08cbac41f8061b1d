import Qwen3xOrin.Library.Guard

/-! The JSON parser. What is left of the input stands for the position in it; every loop is bounded
by the bytes that are left. -/

namespace Qwen3xOrin.Io.Json

abbrev Text := List UInt8

inductive ErrorCode
  | inputTooLarge
  | unexpectedEnd
  | unexpectedToken
  | invalidLiteral
  | invalidNumber
  | invalidString
  | invalidEscape
  | invalidUnicodeEscape
  | invalidUnicodeScalar
  | invalidUtf8
  | duplicateKey
  | nestingTooDeep
  | tooManyValues
  | tooManyContainerItems
  | trailingCharacters
  deriving DecidableEq, Repr

structure Error where
  code : ErrorCode
  offset : ℕ
  deriving DecidableEq, Repr

structure ParseOptions where
  maxInputBytes : ℕ := 100000000
  maxNestingDepth : ℕ := 128
  maxValues : ℕ := 1000000
  maxContainerItems : ℕ := 1000000
  deriving DecidableEq, Repr

def absoluteMaxNestingDepth : ℕ := 1024

-- The members of an object are in the order of their keys.
inductive Value
  | null
  | bool (value : Bool)
  | number (text : Text)
  | string (text : Text)
  | array (values : List Value)
  | object (members : List (Text × Value))

def emplace (key : Text) (value : Value) : List (Text × Value) → List (Text × Value)
  | [] => [(key, value)]
  | (other, held) :: members =>
    if key < other then (key, value) :: (other, held) :: members
    else (other, held) :: emplace key value members

def objectOf (members : List (Text × Value)) : List (Text × Value) :=
  members.foldl (fun values member => emplace member.1 member.2 values) []

def Value.find (key : Text) : Value → Option Value
  | object members => members.lookup key
  | _ => none

def isJsonWhitespace (value : UInt8) : Bool := value = 32 ∨ value = 9 ∨ value = 10 ∨ value = 13

def isDecimalDigit (value : UInt8) : Bool := 48 ≤ value ∧ value ≤ 57

def hexValue (value : UInt8) : Option ℕ :=
  if 48 ≤ value ∧ value ≤ 57 then some (value.toNat - 48)
  else if 97 ≤ value ∧ value ≤ 102 then some (10 + value.toNat - 97)
  else if 65 ≤ value ∧ value ≤ 70 then some (10 + value.toNat - 65)
  else none

def skipWhitespace (rest : Text) : Text := rest.dropWhile isJsonWhitespace

structure Limits where
  size : ℕ
  maxDepth : ℕ
  maxValues : ℕ
  maxContainerItems : ℕ
  deriving DecidableEq, Repr

structure Cursor where
  rest : Text
  valueCount : ℕ := 0
  containerItemCount : ℕ := 0
  deriving DecidableEq, Repr

section Parser

variable (limits : Limits)

def fail {α : Type} (code : ErrorCode) (rest : Text) : Except Error α :=
  .error ⟨code, limits.size - rest.length⟩

def consumeValue (cursor : Cursor) : Except Error Cursor :=
  if limits.maxValues ≤ cursor.valueCount then fail limits .tooManyValues cursor.rest
  else .ok { cursor with valueCount := cursor.valueCount + 1 }

def consumeContainerItem (cursor : Cursor) : Except Error Cursor :=
  if limits.maxContainerItems ≤ cursor.containerItemCount then
    fail limits .tooManyContainerItems cursor.rest
  else .ok { cursor with containerItemCount := cursor.containerItemCount + 1 }

def parseLiteral (literal rest : Text) : Except Error Text :=
  if literal.isPrefixOf rest then .ok (rest.drop literal.length)
  else fail limits .invalidLiteral rest

section Number

def skipDigits (rest : Text) : Text := rest.dropWhile isDecimalDigit

-- The digits behind a sign, a point or an exponent: at least one of them.
def parseDigits (rest : Text) : Except Error Text :=
  match rest with
  | [] => fail limits .invalidNumber rest
  | digit :: _ =>
    if isDecimalDigit digit then .ok (skipDigits rest) else fail limits .invalidNumber rest

def parseInteger (rest : Text) : Except Error Text :=
  match rest with
  | [] => fail limits .invalidNumber rest
  | digit :: tail =>
    if digit = 48 then
      match tail with
      | [] => .ok tail
      | next :: _ => if isDecimalDigit next then fail limits .invalidNumber tail else .ok tail
    else if 49 ≤ digit ∧ digit ≤ 57 then .ok (skipDigits rest)
    else fail limits .invalidNumber rest

def parseFraction (rest : Text) : Except Error Text :=
  match rest with
  | [] => .ok rest
  | point :: tail => if point = 46 then parseDigits limits tail else .ok rest

def parseExponent (rest : Text) : Except Error Text :=
  match rest with
  | [] => .ok rest
  | exponent :: tail =>
    if exponent = 101 ∨ exponent = 69 then
      match tail with
      | [] => parseDigits limits tail
      | sign :: digits =>
        if sign = 43 ∨ sign = 45 then parseDigits limits digits else parseDigits limits tail
    else .ok rest

def parseNumber (start : Text) : Except Error (Text × Text) := do
  let rest ← parseInteger limits (if start.head? = some 45 then start.drop 1 else start)
  let rest ← parseFraction limits rest
  let rest ← parseExponent limits rest
  pure (start.take (start.length - rest.length), rest)

end Number

section String

def parseHex4 : ℕ → ℕ → Text → Except Error (ℕ × Text)
  | 0, value, rest => .ok (value, rest)
  | _ + 1, _, [] => fail limits .invalidUnicodeEscape []
  | count + 1, value, digit :: rest =>
    match hexValue digit with
    | none => fail limits .invalidUnicodeEscape (digit :: rest)
    | some nibble => parseHex4 count (value * 16 + nibble) rest

def appendUtf8 (scalar : ℕ) : Text :=
  if scalar ≤ 0x7F then [UInt8.ofNat scalar]
  else if scalar ≤ 0x7FF then
    [UInt8.ofNat (0xC0 ||| scalar >>> 6), UInt8.ofNat (0x80 ||| (scalar &&& 0x3F))]
  else if scalar ≤ 0xFFFF then
    [UInt8.ofNat (0xE0 ||| scalar >>> 12), UInt8.ofNat (0x80 ||| (scalar >>> 6 &&& 0x3F)),
      UInt8.ofNat (0x80 ||| (scalar &&& 0x3F))]
  else
    [UInt8.ofNat (0xF0 ||| scalar >>> 18), UInt8.ofNat (0x80 ||| (scalar >>> 12 &&& 0x3F)),
      UInt8.ofNat (0x80 ||| (scalar >>> 6 &&& 0x3F)), UInt8.ofNat (0x80 ||| (scalar &&& 0x3F))]

def utf8Length (lead : UInt8) : Option ℕ :=
  if 0xC2 ≤ lead ∧ lead ≤ 0xDF then some 2
  else if 0xE0 ≤ lead ∧ lead ≤ 0xEF then some 3
  else if 0xF0 ≤ lead ∧ lead ≤ 0xF4 then some 4
  else none

def isContinuation (byte : UInt8) : Bool := byte &&& 0xC0 = 0x80

def isSecond (lead second : UInt8) : Bool :=
  isContinuation second && !(lead = 0xE0 ∧ second < 0xA0 ∨ lead = 0xED ∧ 0x9F < second ∨
    lead = 0xF0 ∧ second < 0x90 ∨ lead = 0xF4 ∧ 0x8F < second)

def copyValidUtf8 (lead : UInt8) (tail : Text) : Except Error (Text × Text) :=
  let start := lead :: tail
  match utf8Length lead with
  | none => fail limits .invalidUtf8 start
  | some length =>
    if start.length < length then fail limits .invalidUtf8 start
    else
      match tail.take (length - 1) with
      | [] => fail limits .invalidUtf8 start
      | second :: others =>
        if isSecond lead second = false ∨ others.all isContinuation = false then
          fail limits .invalidUtf8 start
        else .ok (start.take length, start.drop length)

def simpleEscape (escape : UInt8) : Option UInt8 :=
  if escape = 34 ∨ escape = 92 ∨ escape = 47 then some escape
  else if escape = 98 then some 8
  else if escape = 102 then some 12
  else if escape = 110 then some 10
  else if escape = 114 then some 13
  else if escape = 116 then some 9
  else none

-- `start` is the text from the backslash on, `rest` the one behind the `u`.
def parseUnicodeEscape (start rest : Text) : Except Error (Text × Text) := do
  let (first, rest) ← parseHex4 limits 4 0 rest
  if 0xD800 ≤ first ∧ first ≤ 0xDBFF then
    if [92, 117].isPrefixOf rest = false then fail limits .invalidUnicodeScalar start
    else do
      let (second, rest') ← parseHex4 limits 4 0 (rest.drop 2)
      if second < 0xDC00 ∨ 0xDFFF < second then fail limits .invalidUnicodeScalar (rest.drop 2)
      else pure (appendUtf8 (0x10000 + (first - 0xD800) <<< 10 + (second - 0xDC00)), rest')
  else if 0xDC00 ≤ first ∧ first ≤ 0xDFFF then fail limits .invalidUnicodeScalar start
  else pure (appendUtf8 first, rest)

def parseEscape (tail : Text) : Except Error (Text × Text) :=
  match tail with
  | [] => fail limits .unexpectedEnd tail
  | escape :: rest =>
    match simpleEscape escape with
    | some byte => .ok ([byte], rest)
    | none =>
      if escape = 117 then parseUnicodeEscape limits (92 :: tail) rest
      else fail limits .invalidEscape tail

def parseCharacter (byte : UInt8) (tail : Text) : Except Error (Text × Text) :=
  if byte = 92 then parseEscape limits tail
  else if byte ≤ 0x1F then fail limits .invalidString (byte :: tail)
  else if byte < 0x80 then .ok ([byte], tail)
  else copyValidUtf8 limits byte tail

-- The loop behind the opening quote; no round takes less than one byte.
def parseCharacters : ℕ → Text → Except Error (Text × Text)
  | 0, rest => fail limits .unexpectedEnd rest
  | _ + 1, [] => fail limits .unexpectedEnd []
  | fuel + 1, byte :: tail =>
    if byte = 34 then .ok ([], tail)
    else do
      let (piece, rest) ← parseCharacter limits byte tail
      let (output, rest) ← parseCharacters fuel rest
      pure (piece ++ output, rest)

def parseString (rest : Text) : Except Error (Text × Text) :=
  parseCharacters limits rest.length (rest.drop 1)

end String

def parseArray (depth : ℕ) (elements : Cursor → Except Error (List Value × Cursor))
    (cursor : Cursor) : Except Error (Value × Cursor) :=
  if limits.maxDepth ≤ depth then fail limits .nestingTooDeep cursor.rest
  else
    let rest := skipWhitespace (cursor.rest.drop 1)
    if rest.head? = some 93 then .ok (.array [], { cursor with rest := rest.drop 1 })
    else do
      let (values, cursor) ← elements { cursor with rest := rest }
      pure (.array values, cursor)

def parseObject (depth : ℕ)
    (members : Cursor → Except Error (List (Text × Value) × Cursor)) (cursor : Cursor) :
    Except Error (Value × Cursor) :=
  if limits.maxDepth ≤ depth then fail limits .nestingTooDeep cursor.rest
  else
    let rest := skipWhitespace (cursor.rest.drop 1)
    if rest.head? = some 125 then .ok (.object [], { cursor with rest := rest.drop 1 })
    else do
      let (values, cursor) ← members { cursor with rest := rest }
      pure (.object values, cursor)

def literalValue (literal : Text) (value : Value) (cursor : Cursor) :
    Except Error (Value × Cursor) := do
  let rest ← parseLiteral limits literal cursor.rest
  pure (value, { cursor with rest := rest })

def stringValue (cursor : Cursor) : Except Error (Value × Cursor) := do
  let (text, rest) ← parseString limits cursor.rest
  pure (.string text, { cursor with rest := rest })

def numberValue (cursor : Cursor) : Except Error (Value × Cursor) := do
  let (text, rest) ← parseNumber limits cursor.rest
  pure (.number text, { cursor with rest := rest })

-- What follows an element or a member: the end of the container, or a comma.
def parseSeparator (closing : UInt8) (cursor : Cursor) : Except Error (Bool × Cursor) :=
  match skipWhitespace cursor.rest with
  | [] => fail limits .unexpectedEnd []
  | byte :: tail =>
    if byte = closing then .ok (true, { cursor with rest := tail })
    else if byte ≠ 44 then fail limits .unexpectedToken (byte :: tail)
    else .ok (false, { cursor with rest := tail })

-- A member up to its colon. `values` are the members before it.
def parseKey (values : List (Text × Value)) (cursor : Cursor) :
    Except Error (Text × Cursor) :=
  match skipWhitespace cursor.rest with
  | [] => fail limits .unexpectedEnd []
  | byte :: tail =>
    if byte ≠ 34 then fail limits .unexpectedToken (byte :: tail)
    else do
      let cursor ← consumeContainerItem limits { cursor with rest := byte :: tail }
      let (key, rest) ← parseString limits cursor.rest
      if (values.lookup key).isSome then fail limits .duplicateKey cursor.rest
      else
        match skipWhitespace rest with
        | [] => fail limits .unexpectedEnd []
        | colon :: rest =>
          if colon ≠ 58 then fail limits .unexpectedToken (colon :: rest)
          else .ok (key, { cursor with rest := rest })

mutual

def parseValue : ℕ → ℕ → Cursor → Except Error (Value × Cursor)
  | 0, _, cursor => fail limits .unexpectedEnd (skipWhitespace cursor.rest)
  | fuel + 1, depth, cursor =>
    match skipWhitespace cursor.rest with
    | [] => fail limits .unexpectedEnd []
    | byte :: tail => do
      let cursor ← consumeValue limits { cursor with rest := byte :: tail }
      if byte = 110 then literalValue limits [110, 117, 108, 108] .null cursor
      else if byte = 116 then literalValue limits [116, 114, 117, 101] (.bool true) cursor
      else if byte = 102 then literalValue limits [102, 97, 108, 115, 101] (.bool false) cursor
      else if byte = 34 then stringValue limits cursor
      else if byte = 91 then parseArray limits depth (parseElements fuel (depth + 1)) cursor
      else if byte = 123 then parseObject limits depth (parseMembers fuel (depth + 1) []) cursor
      else if byte = 45 ∨ isDecimalDigit byte then numberValue limits cursor
      else fail limits .unexpectedToken (byte :: tail)

def parseElements : ℕ → ℕ → Cursor → Except Error (List Value × Cursor)
  | 0, _, cursor => fail limits .unexpectedEnd cursor.rest
  | fuel + 1, depth, cursor => do
    let cursor ← consumeContainerItem limits cursor
    let (value, cursor) ← parseValue fuel depth cursor
    let (closed, cursor) ← parseSeparator limits 93 cursor
    if closed then pure ([value], cursor)
    else do
      let (values, cursor) ← parseElements fuel depth cursor
      pure (value :: values, cursor)

def parseMembers : ℕ → ℕ → List (Text × Value) → Cursor →
    Except Error (List (Text × Value) × Cursor)
  | 0, _, _, cursor => fail limits .unexpectedEnd cursor.rest
  | fuel + 1, depth, values, cursor => do
    let (key, cursor) ← parseKey limits values cursor
    let (value, cursor) ← parseValue fuel depth cursor
    let (closed, cursor) ← parseSeparator limits 125 cursor
    if closed then pure (emplace key value values, cursor)
    else parseMembers fuel depth (emplace key value values) cursor

end

end Parser

def run (limits : Limits) (input : Text) : Except Error Value := do
  let (root, cursor) ← parseValue limits (2 * input.length) 0 { rest := skipWhitespace input }
  let rest := skipWhitespace cursor.rest
  if rest ≠ [] then fail limits .trailingCharacters rest else pure root

def parse (input : Text) (options : ParseOptions) : Except Error Value :=
  if options.maxInputBytes < input.length then .error ⟨.inputTooLarge, options.maxInputBytes⟩
  else run ⟨input.length, min options.maxNestingDepth absoluteMaxNestingDepth, options.maxValues,
    options.maxContainerItems⟩ input

end Qwen3xOrin.Io.Json
