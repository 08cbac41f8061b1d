import Mathlib.Data.List.Sort
import Qwen3xOrin.Io.JsonComplete
import Qwen3xOrin.Io.JsonIntegers
import Qwen3xOrin.Io.JsonSound
import Qwen3xOrin.Library.Arena

/-! The header of a safetensors file: its length, its JSON document, and the data ranges of the
tensors in it. -/

namespace Qwen3xOrin.Io.SafetensorsHeader

open Json Library

inductive ErrorCode
  | fileTooSmall
  | fileTooLarge
  | headerTooLarge
  | invalidHeaderLength
  | invalidHeaderStart
  | invalidJson
  | headerNotObject
  | tooManyTensors
  | tensorDescriptorNotObject
  | missingTensorField
  | unknownTensorField
  | unsupportedDType
  | invalidShape
  | rankLimitExceeded
  | arithmeticOverflow
  | invalidDataOffsets
  | misalignedTensor
  | tensorSizeMismatch
  | dataOutOfRange
  | overlappingData
  | dataGap
  | dataNotFullyCovered
  | invalidMetadata
  deriving DecidableEq, Repr

structure Error where
  code : ErrorCode
  offset : ℕ := 8
  context : Text := []
  deriving DecidableEq, Repr

def ascii (text : String) : Text := text.toList.map fun character => UInt8.ofNat character.toNat

lemma ascii_ofList (text : List Char) :
    ascii (String.ofList text) = text.map fun character => UInt8.ofNat character.toNat := by
  rw [ascii, String.toList_ofList]

def failure {α : Type} (code : ErrorCode) (context : Text) : Except Error α :=
  .error { code := code, context := context }

def expect {α : Type} (found : Option α) (code : ErrorCode) (context : Text) : Except Error α :=
  match found with
  | some a => .ok a
  | none => failure code context

@[simp] lemma expect_ok {α : Type} {found : Option α} {code : ErrorCode} {context : Text} {a : α} :
    expect found code context = .ok a ↔ found = some a := by
  cases found <;> simp [expect, failure]

structure TensorInfo where
  dtype : DType := .bool
  shape : List ℕ := []
  elementCount : ℕ := 0
  byteSize : ℕ := 0
  dataBegin : ℕ := 0
  dataEnd : ℕ := 0
  fileBegin : ℕ := 0
  fileEnd : ℕ := 0
  deriving DecidableEq, Repr

structure Header where
  fileSize : ℕ := 0
  headerSize : ℕ := 0
  dataOffset : ℕ := 0
  dataSize : ℕ := 0
  tensors : List (Text × TensorInfo) := []
  metadata : List (Text × Text) := []
  deriving DecidableEq, Repr

structure ReadOptions where
  maxFileBytes : ℕ := uint64Max
  maxHeaderBytes : ℕ := 100000000
  maxTensors : ℕ := 2000000
  maxRank : ℕ := 64
  jsonOptions : ParseOptions := {}
  deriving DecidableEq, Repr

section DTypes

def dtypeText : DType → String
  | .bool => "BOOL"
  | .f4 => "F4"
  | .f6E2M3 => "F6_E2M3"
  | .f6E3M2 => "F6_E3M2"
  | .u8 => "U8"
  | .i8 => "I8"
  | .f8E5M2 => "F8_E5M2"
  | .f8E4M3 => "F8_E4M3"
  | .f8E8M0 => "F8_E8M0"
  | .f8E4M3Fnuz => "F8_E4M3FNUZ"
  | .f8E5M2Fnuz => "F8_E5M2FNUZ"
  | .i16 => "I16"
  | .u16 => "U16"
  | .f16 => "F16"
  | .bf16 => "BF16"
  | .i32 => "I32"
  | .u32 => "U32"
  | .f32 => "F32"
  | .c64 => "C64"
  | .f64 => "F64"
  | .i64 => "I64"
  | .u64 => "U64"

def dtypes : List DType :=
  [.bool, .f4, .f6E2M3, .f6E3M2, .u8, .i8, .f8E5M2, .f8E4M3, .f8E8M0, .f8E4M3Fnuz, .f8E5M2Fnuz,
    .i16, .u16, .f16, .bf16, .i32, .u32, .f32, .c64, .f64, .i64, .u64]

def parseDType (name : Text) : Option DType :=
  dtypes.find? fun dtype => name = ascii (dtypeText dtype)

lemma mem_dtypes (dtype : DType) : dtype ∈ dtypes := by
  cases dtype <;> simp [dtypes]

lemma dtypeText_nodup : (dtypes.map fun dtype => ascii (dtypeText dtype)).Nodup := by
  simp only [dtypes, List.map_cons, List.map_nil, dtypeText]
  repeat rw [ascii_ofList]
  decide

lemma dtypeText_injective : (fun dtype => ascii (dtypeText dtype)).Injective :=
  fun dtype dtype' h => List.inj_on_of_nodup_map dtypeText_nodup (mem_dtypes dtype)
    (mem_dtypes dtype') h

lemma parseDType_eq_some {name : Text} {dtype : DType} :
    parseDType name = some dtype ↔ name = ascii (dtypeText dtype) := by
  constructor
  · intro h
    simpa using List.find?_some h
  · rintro rfl
    obtain ⟨found, hfound⟩ : ∃ found, parseDType (ascii (dtypeText dtype)) = some found := by
      apply Option.isSome_iff_exists.mp
      exact List.find?_isSome.mpr ⟨dtype, mem_dtypes dtype, by simp⟩
    have hname : ascii (dtypeText dtype) = ascii (dtypeText found) := by
      simpa using List.find?_some hfound
    rwa [← dtypeText_injective hname] at hfound

end DTypes

section Tensors

def Value.asObject : Value → Option (List (Text × Value))
  | .object members => some members
  | _ => none

def Value.asArray : Value → Option (List Value)
  | .array values => some values
  | _ => none

def Value.asString : Value → Option Text
  | .string text => some text
  | _ => none

def unsignedOf : Value → Option ℕ
  | .number text => toUint64 text
  | _ => none

def isKnownTensorField (name : Text) : Bool :=
  name = ascii "dtype" ∨ name = ascii "shape" ∨ name = ascii "data_offsets"

def checkField (name : Text) (field : Text × Value) : Except Error Unit :=
  if isKnownTensorField field.1 = false then
    failure .unknownTensorField (name ++ ascii "." ++ field.1)
  else .ok ()

def parseDimensions (name : Text) : ℕ → List Value → Except Error (List ℕ × ℕ)
  | elementCount, [] => .ok ([], elementCount)
  | elementCount, value :: values => do
    let dimension ← expect (unsignedOf value) .invalidShape name
    let elementCount ← expect (checkedMultiply elementCount dimension) .arithmeticOverflow name
    let (shape, elementCount) ← parseDimensions name elementCount values
    pure (dimension :: shape, elementCount)

def dataOffsets : Value → Option (ℕ × ℕ)
  | .array [first, last] => do
    let dataBegin ← unsignedOf first
    let dataEnd ← unsignedOf last
    guard (dataBegin ≤ dataEnd)
    pure (dataBegin, dataEnd)
  | _ => none

variable (options : ReadOptions) (dataOffset dataSize : ℕ) (name : Text)

def parseTensor (value : Value) : Except Error TensorInfo := do
  let descriptor ← expect (Value.asObject value) .tensorDescriptorNotObject name
  checkAll (checkField name) descriptor
  let dtypeValue ← expect (descriptor.lookup (ascii "dtype")) .missingTensorField name
  let shapeValue ← expect (descriptor.lookup (ascii "shape")) .missingTensorField name
  let offsetsValue ← expect (descriptor.lookup (ascii "data_offsets")) .missingTensorField name
  let dtypeName ← expect (Value.asString dtypeValue) .unsupportedDType name
  let dtype ← expect (parseDType dtypeName) .unsupportedDType (name ++ ascii ":" ++ dtypeName)
  let dimensions ← expect (Value.asArray shapeValue) .invalidShape name
  if options.maxRank < dimensions.length then failure .rankLimitExceeded name
  else do
    let (shape, elementCount) ← parseDimensions name 1 dimensions
    let bitCount ← expect (checkedMultiply elementCount (bitWidth dtype)) .arithmeticOverflow name
    if bitCount % 8 ≠ 0 then failure .misalignedTensor name
    else do
      let (dataBegin, dataEnd) ← expect (dataOffsets offsetsValue) .invalidDataOffsets name
      if dataEnd - dataBegin ≠ bitCount / 8 then failure .tensorSizeMismatch name
      else if dataSize < dataBegin ∨ dataSize < dataEnd then failure .dataOutOfRange name
      else do
        let fileBegin ← expect (checkedAdd dataOffset dataBegin) .arithmeticOverflow name
        let fileEnd ← expect (checkedAdd dataOffset dataEnd) .arithmeticOverflow name
        pure {
          dtype := dtype, shape := shape, elementCount := elementCount, byteSize := bitCount / 8
          dataBegin := dataBegin, dataEnd := dataEnd, fileBegin := fileBegin, fileEnd := fileEnd }

end Tensors

section Document

structure DataRange where
  first : ℕ
  last : ℕ
  name : Text
  deriving DecidableEq, Repr

def DataRange.before (left right : DataRange) : Bool :=
  if left.first ≠ right.first then left.first < right.first
  else if left.last ≠ right.last then left.last < right.last
  else left.name < right.name

def parseMetadata (value : Value) : Except Error (List (Text × Text)) := do
  let metadata ← expect (Value.asObject value) .invalidMetadata (ascii "__metadata__")
  metadata.mapM fun item => do
    let text ← expect (Value.asString item.2) .invalidMetadata item.1
    pure (item.1, text)

def isMetadata (member : Text × Value) : Bool := member.1 = ascii "__metadata__"

def parseMember (options : ReadOptions) (header : Header) (member : Text × Value) :
    Except Error Header :=
  if isMetadata member = true then do
    let metadata ← parseMetadata member.2
    pure { header with metadata := header.metadata ++ metadata }
  else do
    let tensor ← parseTensor options header.dataOffset header.dataSize member.1 member.2
    pure { header with tensors := header.tensors ++ [(member.1, tensor)] }

def dataRange (tensor : Text × TensorInfo) : DataRange :=
  { first := tensor.2.dataBegin, last := tensor.2.dataEnd, name := tensor.1 }

def sortRanges (ranges : List DataRange) : List DataRange :=
  ranges.mergeSort fun left right => !right.before left

-- The end of the last range, when each of them starts where the one before it ends.
def sweep : ℕ → List DataRange → Except Error ℕ
  | cursor, [] => .ok cursor
  | cursor, range :: ranges =>
    if range.first < cursor then failure .overlappingData range.name
    else if cursor < range.first then failure .dataGap range.name
    else sweep range.last ranges

def parseHeaderDocument (document : Value) (fileSize headerSize : ℕ) (options : ReadOptions) :
    Except Error Header := do
  let root ← expect (Value.asObject document) .headerNotObject []
  match checkedAdd 8 headerSize with
  | none => .error { code := .invalidHeaderLength, offset := 0 }
  | some dataOffset =>
    if fileSize < dataOffset then .error { code := .invalidHeaderLength, offset := 0 }
    else if options.maxTensors < (root.filter fun member => !isMetadata member).length then
      failure .tooManyTensors []
    else do
      let header ← root.foldlM (parseMember options) {
        fileSize := fileSize, headerSize := headerSize, dataOffset := dataOffset
        dataSize := fileSize - dataOffset }
      let cursor ← sweep 0 (sortRanges (header.tensors.map dataRange))
      if cursor ≠ header.dataSize then failure .dataNotFullyCovered []
      else pure header

end Document

section File

def errorMessage : Json.ErrorCode → String
  | .inputTooLarge => "JSON input exceeds the configured byte limit"
  | .unexpectedEnd => "unexpected end of JSON input"
  | .unexpectedToken => "unexpected JSON token"
  | .invalidLiteral => "invalid JSON literal"
  | .invalidNumber => "invalid JSON number"
  | .invalidString => "invalid character in JSON string"
  | .invalidEscape => "invalid JSON string escape"
  | .invalidUnicodeEscape => "invalid JSON Unicode escape"
  | .invalidUnicodeScalar => "invalid JSON Unicode surrogate pair"
  | .invalidUtf8 => "invalid UTF-8 in JSON string"
  | .duplicateKey => "duplicate JSON object key"
  | .nestingTooDeep => "JSON nesting exceeds the configured depth limit"
  | .tooManyValues => "JSON value count exceeds the configured limit"
  | .tooManyContainerItems => "JSON container item count exceeds the configured limit"
  | .trailingCharacters => "non-whitespace characters follow the JSON value"

def decodeLittleEndianU64 (bytes : Text) : ℕ :=
  bytes.foldr (fun byte value => byte.toNat + 256 * value) 0

def streamsizeMax : ℕ := 2 ^ 63 - 1

variable (path file : Text) (options : ReadOptions)

-- The reads themselves do not fail here.
def readHeader : Except Error Header :=
  if options.maxFileBytes < file.length then
    .error { code := .fileTooLarge, offset := uint64Max, context := path }
  else if file.length < 8 then
    .error { code := .fileTooSmall, offset := file.length, context := path }
  else
    let headerSize := decodeLittleEndianU64 (file.take 8)
    if options.maxHeaderBytes < headerSize ∨ uint64Max < headerSize ∨ streamsizeMax < headerSize then
      .error { code := .headerTooLarge, offset := 0, context := path }
    else
      match checkedAdd 8 headerSize with
      | none => .error { code := .invalidHeaderLength, offset := 0, context := path }
      | some dataOffset =>
        if file.length < dataOffset then
          .error { code := .invalidHeaderLength, offset := 0, context := path }
        else
          let headerText := (file.drop 8).take headerSize
          if headerText.head? ≠ some 123 then failure .invalidHeaderStart path
          else
            match parse headerText options.jsonOptions with
            | .error error => .error {
                code := .invalidJson
                offset := (checkedAdd 8 error.offset).getD uint64Max
                context := ascii (errorMessage error.code) }
            | .ok document => parseHeaderDocument document file.length headerSize options

end File

/-! What the format asks of one tensor. -/

section TensorSpecification

lemma refuse_ok {α : Type} {c : Prop} [Decidable c] {code : ErrorCode} {context : Text}
    {x : Except Error α} {a : α} :
    (if c then failure code context else x) = .ok a ↔ ¬ c ∧ x = .ok a :=
  guard_ok

structure Describes (options : ReadOptions) (value : Value) (tensor : TensorInfo) : Prop where
  known : ∃ descriptor, value = .object descriptor ∧
    ∀ field ∈ descriptor, isKnownTensorField field.1 = true
  dtype : value.find (ascii "dtype") = some (.string (ascii (dtypeText tensor.dtype)))
  shape : ∃ dimensions, value.find (ascii "shape") = some (.array dimensions) ∧
    dimensions.length ≤ options.maxRank ∧ dimensions.map unsignedOf = tensor.shape.map some
  offsets : ∃ first last, value.find (ascii "data_offsets") = some (.array [first, last]) ∧
    unsignedOf first = some tensor.dataBegin ∧ unsignedOf last = some tensor.dataEnd

structure Sized (tensor : TensorInfo) : Prop where
  elementCount : tensor.elementCount = tensor.shape.prod
  products : ∀ n, 1 ≤ n → n ≤ tensor.shape.length → (tensor.shape.take n).prod ≤ uint64Max
  bits : tensor.shape.prod * bitWidth tensor.dtype ≤ uint64Max
  bytes : tensor.shape.prod * bitWidth tensor.dtype = 8 * tensor.byteSize
  range : tensor.dataBegin + tensor.byteSize = tensor.dataEnd

structure Located (dataOffset dataSize : ℕ) (tensor : TensorInfo) : Prop where
  inside : tensor.dataEnd ≤ dataSize
  fileBegin : tensor.fileBegin = dataOffset + tensor.dataBegin
  fileEnd : tensor.fileEnd = dataOffset + tensor.dataEnd

variable {options : ReadOptions} {dataOffset dataSize : ℕ} {name : Text} {value : Value}
  {tensor : TensorInfo}

@[simp] lemma asObject_eq_some {members : List (Text × Value)} :
    Value.asObject value = some members ↔ value = .object members := by
  cases value <;> simp [Value.asObject]

@[simp] lemma asArray_eq_some {values : List Value} :
    Value.asArray value = some values ↔ value = .array values := by
  cases value <;> simp [Value.asArray]

@[simp] lemma asString_eq_some {text : Text} :
    Value.asString value = some text ↔ value = .string text := by
  cases value <;> simp [Value.asString]

lemma checkField_ok {field : Text × Value} :
    checkField name field = .ok () ↔ isKnownTensorField field.1 = true := by
  rw [checkField, refuse_ok]
  simp

lemma checkFields_ok {descriptor : List (Text × Value)} {u : Unit} :
    checkAll (checkField name) descriptor = .ok u ↔
      ∀ field ∈ descriptor, isKnownTensorField field.1 = true := by
  cases u
  simp [checkAll_ok, checkField_ok]

lemma parseDimensions_ok {values : List Value} {first elementCount : ℕ} {shape : List ℕ} :
    parseDimensions name first values = .ok (shape, elementCount) ↔
      values.map unsignedOf = shape.map some ∧
        shape.foldlM checkedMultiply first = some elementCount := by
  induction values generalizing first shape with
  | nil =>
    cases shape with
    | nil => simp [parseDimensions]
    | cons dimension shape => simp [parseDimensions]
  | cons value values ih =>
    simp only [parseDimensions, bind_ok, expect_ok]
    constructor
    · rintro ⟨dimension, hdimension, product, hproduct, ⟨shape', elements⟩, hrest, h⟩
      cases h
      obtain ⟨hvalues, hproducts⟩ := ih.mp hrest
      refine ⟨by simp [hdimension, hvalues], ?_⟩
      rw [List.foldlM_cons, hproduct]
      exact hproducts
    · rintro ⟨hvalues, hproducts⟩
      cases shape with
      | nil => simp at hvalues
      | cons dimension shape =>
        rw [List.map_cons, List.map_cons, List.cons.injEq] at hvalues
        rw [List.foldlM_cons] at hproducts
        obtain ⟨product, hproduct, hproducts⟩ := Option.bind_eq_some_iff.mp hproducts
        exact ⟨dimension, hvalues.1, product, hproduct, (shape, elementCount),
          ih.mpr ⟨hvalues.2, hproducts⟩, rfl⟩

lemma dataOffsets_eq_some {first last : ℕ} :
    dataOffsets value = some (first, last) ↔ ∃ beginValue endValue, value = .array [beginValue, endValue] ∧
      unsignedOf beginValue = some first ∧ unsignedOf endValue = some last ∧ first ≤ last := by
  constructor
  · intro h
    rcases value with _ | _ | _ | _ | ⟨_ | ⟨beginValue, _ | ⟨endValue, _ | ⟨third, values⟩⟩⟩⟩ | _
    all_goals try cases h
    obtain ⟨dataBegin, hbegin, h⟩ := Option.bind_eq_some_iff.mp h
    obtain ⟨dataEnd, hend, h⟩ := Option.bind_eq_some_iff.mp h
    obtain ⟨_, hle, h⟩ := Option.bind_eq_some_iff.mp h
    cases h
    exact ⟨beginValue, endValue, rfl, hbegin, hend, guard_some.mp hle⟩
  · rintro ⟨beginValue, endValue, rfl, hbegin, hend, hle⟩
    simp [dataOffsets, hbegin, hend, hle]

-- The products a tensor's size goes through, and the size itself.
lemma sized_iff {shape : List ℕ} {dtype : DType} {elementCount bitCount : ℕ} :
    shape.foldlM checkedMultiply 1 = some elementCount ∧
        checkedMultiply elementCount (bitWidth dtype) = some bitCount ↔
      (elementCount = shape.prod ∧ bitCount = shape.prod * bitWidth dtype) ∧
        (∀ n, 1 ≤ n → n ≤ shape.length → (shape.take n).prod ≤ uint64Max) ∧
        shape.prod * bitWidth dtype ≤ uint64Max := by
  rw [show shape.foldlM checkedMultiply 1 = checkedProduct shape from rfl,
    checkedProduct_eq_some, checkedMultiply_eq_some]
  constructor
  · rintro ⟨⟨rfl, hproducts⟩, rfl, hbits⟩
    exact ⟨⟨rfl, rfl⟩, hproducts, hbits⟩
  · rintro ⟨⟨rfl, rfl⟩, hproducts, hbits⟩
    exact ⟨⟨rfl, hproducts⟩, rfl, hbits⟩

lemma parseTensor_ok (hsize : dataOffset + dataSize ≤ uint64Max) :
    parseTensor options dataOffset dataSize name value = .ok tensor ↔
      Describes options value tensor ∧ Sized tensor ∧ Located dataOffset dataSize tensor := by
  simp only [parseTensor, bind_ok, expect_ok, refuse_ok, checkFields_ok,
    asObject_eq_some, asArray_eq_some, asString_eq_some, parseDType_eq_some]
  constructor
  · rintro ⟨descriptor, rfl, ⟨⟩, hknown, dtypeValue, hdtype, shapeValue, hshape, offsetsValue,
      hoffsets, dtypeName, rfl, dtype, rfl, dimensions, rfl, hrank, ⟨shape, elementCount⟩,
      hdimensions, bitCount, hbits, haligned, ⟨dataBegin, dataEnd⟩, hrange, hbytes, hinside,
      fileBegin, hbegin, fileEnd, hend, h⟩
    cases h
    obtain ⟨hvalues, hproducts⟩ := parseDimensions_ok.1 hdimensions
    obtain ⟨⟨rfl, rfl⟩, hproducts, hfits⟩ := sized_iff.1 ⟨hproducts, hbits⟩
    obtain ⟨first, last, rfl, hfirst, hlast, hle⟩ := dataOffsets_eq_some.1 hrange
    obtain ⟨rfl, -⟩ := (checkedAdd_eq_some (by omega)).mp hbegin
    obtain ⟨rfl, -⟩ := (checkedAdd_eq_some (by omega)).mp hend
    dsimp only at hbytes hinside haligned
    exact ⟨⟨⟨descriptor, rfl, hknown⟩, hdtype, ⟨dimensions, hshape, Nat.le_of_not_lt hrank, hvalues⟩,
        ⟨first, last, hoffsets, hfirst, hlast⟩⟩,
      ⟨rfl, hproducts, hfits, by dsimp only; omega, by dsimp only; omega⟩,
      ⟨by dsimp only; omega, rfl, rfl⟩⟩
  · rintro ⟨⟨⟨descriptor, rfl, hknown⟩, hdtype, ⟨dimensions, hshape, hrank, hvalues⟩,
      ⟨first, last, hoffsets, hfirst, hlast⟩⟩, hsized, hlocated⟩
    have hbytes := hsized.bytes
    have hrange := hsized.range
    have hinside := hlocated.inside
    obtain ⟨hproducts, hbits⟩ := sized_iff.2 ⟨⟨rfl, rfl⟩, hsized.products, hsized.bits⟩
    refine ⟨descriptor, rfl, (), hknown, _, hdtype, _, hshape, _, hoffsets, _, rfl, _, rfl,
      dimensions, rfl, by omega, (tensor.shape, tensor.shape.prod),
      parseDimensions_ok.2 ⟨hvalues, hproducts⟩, _, hbits, by omega,
      (tensor.dataBegin, tensor.dataEnd),
      dataOffsets_eq_some.2 ⟨first, last, rfl, hfirst, hlast, by omega⟩, ?_⟩
    dsimp only
    refine ⟨by omega, by omega, tensor.fileBegin, ?_, tensor.fileEnd, ?_, ?_⟩
    · exact (checkedAdd_eq_some (by omega)).mpr ⟨hlocated.fileBegin, by omega⟩
    · exact (checkedAdd_eq_some (by omega)).mpr ⟨hlocated.fileEnd, by omega⟩
    · rw [hbytes, Nat.mul_div_cancel_left _ (by omega), ← hsized.elementCount]
      rfl

end TensorSpecification

section DocumentSpecification

def stringTable (texts : List (Text × Text)) : Value :=
  .object (texts.map fun text => (text.1, .string text.2))

structure Entry (options : ReadOptions) (dataOffset dataSize : ℕ) (member : Text × Value)
    (tensor : Text × TensorInfo) : Prop where
  name : tensor.1 = member.1
  describes : Describes options member.2 tensor.2
  sized : Sized tensor.2
  located : Located dataOffset dataSize tensor.2

-- A header that says of its tensors what the document says, and whose ranges are the whole data.
structure HeaderOf (options : ReadOptions) (document : Value) (fileSize headerSize : ℕ)
    (header : Header) : Prop where
  sizes : header.fileSize = fileSize ∧ header.headerSize = headerSize
  dataOffset : header.dataOffset = 8 + headerSize
  dataSize : 8 + headerSize + header.dataSize = fileSize
  members : ∃ (root : List (Text × Value)) (tables : List (List (Text × Text))),
    document = .object root ∧ (root.filter isMetadata).map Prod.snd = tables.map stringTable ∧
    header.metadata = tables.flatten ∧
    List.Forall₂ (Entry options header.dataOffset header.dataSize)
      (root.filter fun member => !isMetadata member) header.tensors
  count : header.tensors.length ≤ options.maxTensors
  covered : Ranges.Partitions (fun tensor => tensor.2.dataBegin) (fun tensor => tensor.2.dataEnd) 0
    header.dataSize header.tensors

lemma sweep_ok {ranges : List DataRange} {cursor stop : ℕ} :
    sweep cursor ranges = .ok stop ↔
      Ranges.Tiles DataRange.first DataRange.last cursor ranges stop := by
  induction ranges generalizing cursor with
  | nil => simp [sweep, Ranges.Tiles]
  | cons range ranges ih =>
    rw [sweep, refuse_ok, refuse_ok, ih, ← and_assoc, Ranges.Tiles]
    exact and_congr_left fun _ => by omega

lemma before_iff {left right : DataRange} :
    left.before right = true ↔ left.first < right.first ∨ left.first = right.first ∧
      (left.last < right.last ∨ left.last = right.last ∧ left.name < right.name) := by
  simp only [DataRange.before, ne_eq, ite_not]
  split_ifs with hfirst hlast
  · simp [hfirst, hlast]
  · simp [hfirst, hlast]
  · simp [hfirst]

lemma before_total (left right : DataRange) :
    (!right.before left || !left.before right) = true := by
  rw [← Bool.not_and, Bool.not_eq_true', Bool.eq_false_iff, ne_eq, Bool.and_eq_true, before_iff,
    before_iff]
  rintro ⟨hright, hleft⟩
  have hname : left.name < right.name → ¬ right.name < left.name := List.lt_asymm
  rcases hleft with hleft | ⟨hfirst, hleft | ⟨hlast, hleft⟩⟩
  · omega
  · omega
  · rcases hright with hright | ⟨-, hright | ⟨-, hright⟩⟩
    · omega
    · omega
    · exact hname hleft hright

lemma before_trans (a b c : DataRange) (hab : (!b.before a) = true) (hbc : (!c.before b) = true) :
    (!c.before a) = true := by
  rw [Bool.not_eq_true', Bool.eq_false_iff, ne_eq, before_iff] at hab hbc ⊢
  push Not at hab hbc ⊢
  refine ⟨hab.1.trans hbc.1, fun hfirst => ?_⟩
  obtain ⟨hablast, habname⟩ := hab.2 (by omega)
  obtain ⟨hbclast, hbcname⟩ := hbc.2 (by omega)
  refine ⟨hablast.trans hbclast, fun hlast => ?_⟩
  exact List.le_trans (habname (by omega)) (hbcname (by omega))

lemma sortRanges_perm (ranges : List DataRange) : (sortRanges ranges).Perm ranges :=
  List.mergeSort_perm _ _

lemma sortRanges_sorted (ranges : List DataRange) :
    Ranges.Sorted DataRange.first DataRange.last (sortRanges ranges) := by
  refine (List.pairwise_mergeSort before_trans before_total ranges).imp ?_
  intro left right h
  rw [Bool.not_eq_true', Bool.eq_false_iff, ne_eq, before_iff] at h
  omega

lemma sweep_sortRanges {tensors : List (Text × TensorInfo)} {stop : ℕ}
    (hranges : ∀ tensor ∈ tensors, tensor.2.dataBegin ≤ tensor.2.dataEnd) :
    sweep 0 (sortRanges (tensors.map dataRange)) = .ok stop ↔
      Ranges.Partitions (fun tensor => tensor.2.dataBegin) (fun tensor => tensor.2.dataEnd) 0 stop
        tensors := by
  have hperm := sortRanges_perm (tensors.map dataRange)
  have hmap : Ranges.Partitions DataRange.first DataRange.last 0 stop (tensors.map dataRange) ↔
      Ranges.Partitions (fun tensor => tensor.2.dataBegin) (fun tensor => tensor.2.dataEnd) 0 stop
        tensors := Ranges.Partitions.map_iff
  rw [sweep_ok, ← hmap]
  constructor
  · intro h
    refine (h.partitions fun range hrange => ?_).perm hperm
    obtain ⟨tensor, htensor, rfl⟩ := List.mem_map.mp (hperm.mem_iff.mp hrange)
    exact hranges tensor htensor
  · intro h
    exact (h.perm hperm.symm).tiles (sortRanges_sorted _) (Nat.zero_le _)

lemma mapM_metadata_ok {items : List (Text × Value)} {texts : List (Text × Text)} :
    (items.mapM fun item => do
      let text ← expect (Value.asString item.2) .invalidMetadata item.1
      pure (item.1, text)) = Except.ok texts ↔
      items = texts.map fun text => (text.1, .string text.2) := by
  induction items generalizing texts with
  | nil =>
    cases texts <;> simp [pure, Except.pure]
  | cons item items ih =>
    rw [List.mapM_cons, bind_ok]
    constructor
    · rintro ⟨text, htext, h⟩
      obtain ⟨texts', htexts, h⟩ := bind_ok.mp h
      obtain ⟨value, hvalue, htext⟩ := bind_ok.mp htext
      cases h
      cases htext
      rw [List.map_cons, ← ih.mp htexts]
      simp [← asString_eq_some.1 (expect_ok.1 hvalue)]
    · intro h
      cases texts with
      | nil => cases h
      | cons text texts =>
        obtain ⟨rfl, hitems⟩ := List.cons.inj h
        exact ⟨text, rfl, bind_ok.mpr ⟨texts, ih.mpr hitems, rfl⟩⟩

lemma parseMetadata_ok {value : Value} {texts : List (Text × Text)} :
    parseMetadata value = .ok texts ↔ value = stringTable texts := by
  simp only [parseMetadata, bind_ok, expect_ok, asObject_eq_some, mapM_metadata_ok]
  simp [stringTable]

lemma foldlM_parseMember_ok {options : ReadOptions} {root : List (Text × Value)}
    {start header : Header} (hsize : start.dataOffset + start.dataSize ≤ uint64Max) :
    root.foldlM (parseMember options) start = .ok header ↔
      ∃ (tensors : List (Text × TensorInfo)) (tables : List (List (Text × Text))),
        header = { start with
          tensors := start.tensors ++ tensors, metadata := start.metadata ++ tables.flatten } ∧
        (root.filter isMetadata).map Prod.snd = tables.map stringTable ∧
        List.Forall₂ (Entry options start.dataOffset start.dataSize)
          (root.filter fun member => !isMetadata member) tensors := by
  induction root generalizing start with
  | nil =>
    constructor
    · intro h
      cases h
      exact ⟨[], [], by simp, rfl, .nil⟩
    · rintro ⟨tensors, tables, rfl, htables, htensors⟩
      cases htensors
      obtain rfl : tables = [] := by simpa using htables.symm
      simp [pure, Except.pure]
  | cons member root ih =>
    rw [List.foldlM_cons, bind_ok]
    by_cases hmember : isMetadata member = true
    · simp only [parseMember, if_pos hmember, bind_ok, parseMetadata_ok]
      rw [List.filter_cons_of_pos hmember, List.filter_cons_of_neg (by simp [hmember])]
      constructor
      · rintro ⟨next, ⟨texts, htexts, hnext⟩, hrest⟩
        cases hnext
        obtain ⟨tensors, tables, rfl, htables, htensors⟩ := (ih (by exact hsize)).mp hrest
        exact ⟨tensors, texts :: tables, by simp, by simp [htexts, htables], htensors⟩
      · rintro ⟨tensors, tables, rfl, htables, htensors⟩
        cases tables with
        | nil => cases htables
        | cons texts tables =>
          obtain ⟨htexts, htables⟩ := List.cons.inj htables
          exact ⟨_, ⟨texts, htexts, rfl⟩,
            (ih (by exact hsize)).mpr ⟨tensors, tables, by simp, htables, htensors⟩⟩
    · simp only [parseMember, if_neg hmember, bind_ok, parseTensor_ok hsize]
      rw [List.filter_cons_of_neg hmember, List.filter_cons_of_pos (by simp [hmember])]
      constructor
      · rintro ⟨next, ⟨tensor, ⟨hdescribes, hsized, hlocated⟩, hnext⟩, hrest⟩
        cases hnext
        obtain ⟨tensors, tables, rfl, htables, htensors⟩ := (ih (by exact hsize)).mp hrest
        exact ⟨(member.1, tensor) :: tensors, tables, by simp, htables,
          .cons ⟨rfl, hdescribes, hsized, hlocated⟩ htensors⟩
      · rintro ⟨tensors, tables, rfl, htables, htensors⟩
        cases htensors with
        | @cons _ tensor _ tensors htensor htensors =>
          refine ⟨_, ⟨tensor.2, ⟨htensor.describes, htensor.sized, htensor.located⟩, rfl⟩,
            (ih (by exact hsize)).mpr ⟨tensors, tables, ?_, htables, htensors⟩⟩
          simp [← htensor.name]

lemma Entry.placed {options : ReadOptions} {dataOffset dataSize : ℕ} {root : List (Text × Value)}
    {tensors : List (Text × TensorInfo)}
    (h : List.Forall₂ (Entry options dataOffset dataSize) root tensors) :
    ∀ tensor ∈ tensors, Sized tensor.2 ∧ Located dataOffset dataSize tensor.2 := by
  induction h with
  | nil => simp
  | cons hentry _ ih => exact List.forall_mem_cons.mpr ⟨⟨hentry.sized, hentry.located⟩, ih⟩

lemma Entry.ranges {options : ReadOptions} {dataOffset dataSize : ℕ} {root : List (Text × Value)}
    {tensors : List (Text × TensorInfo)}
    (h : List.Forall₂ (Entry options dataOffset dataSize) root tensors) :
    ∀ tensor ∈ tensors, tensor.2.dataBegin ≤ tensor.2.dataEnd := by
  intro tensor htensor
  have hrange := (Entry.placed h tensor htensor).1.range
  omega

lemma parseHeaderDocument_ok {options : ReadOptions} {document : Value}
    {fileSize headerSize : ℕ} {header : Header} (hfile : fileSize ≤ uint64Max) :
    parseHeaderDocument document fileSize headerSize options = .ok header ↔
      HeaderOf options document fileSize headerSize header := by
  rw [parseHeaderDocument]
  simp only [bind_ok, expect_ok, asObject_eq_some]
  constructor
  · rintro ⟨root, rfl, h⟩
    cases hoffset : checkedAdd 8 headerSize with
    | none => simp [hoffset] at h
    | some dataOffset =>
      obtain ⟨rfl, -⟩ := (checkedAdd_eq_some (by simp [uint64Max])).mp hoffset
      simp only [hoffset, guard_ok, refuse_ok, bind_ok] at h
      obtain ⟨hroom, hcount, read, hread, cursor, hsweep, hcovered, h⟩ := h
      cases h
      obtain ⟨tensors, tables, rfl, htables, htensors⟩ :=
        (foldlM_parseMember_ok (by dsimp only; omega)).mp hread
      obtain rfl := not_ne_iff.mp hcovered
      refine ⟨⟨rfl, rfl⟩, rfl, by dsimp only; omega, ⟨root, tables, rfl, htables, ?_, htensors⟩, ?_,
        (sweep_sortRanges (Entry.ranges htensors)).mp hsweep⟩
      · exact List.nil_append _
      · have hlength := htensors.length_eq
        dsimp only [List.nil_append]
        omega
  · intro h
    obtain ⟨root, tables, rfl, htables, hmetadata, htensors⟩ := h.members
    have hdata := h.dataSize
    have hoffset : checkedAdd 8 headerSize = some (8 + headerSize) :=
      (checkedAdd_eq_some (by simp [uint64Max])).mpr ⟨rfl, by omega⟩
    have hsize : header.dataSize = fileSize - (8 + headerSize) := by omega
    refine ⟨root, rfl, ?_⟩
    simp only [hoffset, guard_ok, refuse_ok, bind_ok]
    refine ⟨by omega, ?_, header, ?_, header.dataSize, ?_, by simp, rfl⟩
    · rw [htensors.length_eq]
      exact Nat.not_lt.mpr h.count
    · refine (foldlM_parseMember_ok (by dsimp only; omega)).mpr
        ⟨header.tensors, tables, ?_, htables, ?_⟩
      · rw [List.nil_append, List.nil_append, ← hmetadata, ← hsize, ← h.dataOffset]
        obtain ⟨hfileSize, hheaderSize⟩ := h.sizes
        rw [← hfileSize, ← hheaderSize]
      · rw [← hsize, ← h.dataOffset]
        exact htensors
    · exact (sweep_sortRanges (Entry.ranges htensors)).mpr h.covered

end DocumentSpecification

section FileSpecification

variable {path file : Text} {options : ReadOptions} {header : Header}

structure FileOf (options : ReadOptions) (file : Text) (header : Header) (document : Value) :
    Prop where
  limit : file.length ≤ options.maxFileBytes
  parts : ∃ length text data : Text, file = length ++ (text ++ data) ∧ length.length = 8 ∧
    decodeLittleEndianU64 length = text.length ∧ text.length ≤ options.maxHeaderBytes ∧
    text.head? = some 123 ∧ Accepts options.jsonOptions text document ∧
    HeaderOf options document file.length text.length header

lemma fileOf_of_readHeader (hfile : file.length ≤ streamsizeMax)
    (h : readHeader path file options = .ok header) :
    ∃ document, FileOf options file header document := by
  have hmax : streamsizeMax < uint64Max := by simp [streamsizeMax, uint64Max]
  rw [readHeader, guard_ok, guard_ok] at h
  obtain ⟨hlimit, hsmall, h⟩ := h
  obtain ⟨hlarge, h⟩ := guard_ok.mp h
  cases hoffset : checkedAdd 8 (decodeLittleEndianU64 (file.take 8)) with
  | none => simp [hoffset] at h
  | some dataOffset =>
    obtain ⟨rfl, -⟩ := (checkedAdd_eq_some (by simp [uint64Max])).mp hoffset
    simp only [hoffset, guard_ok, refuse_ok, not_ne_iff] at h
    obtain ⟨hroom, hstart, h⟩ := h
    cases hparse : parse ((file.drop 8).take (decodeLittleEndianU64 (file.take 8)))
        options.jsonOptions with
    | error error => simp [hparse] at h
    | ok document =>
      simp only [hparse] at h
      have hlength : ((file.drop 8).take (decodeLittleEndianU64 (file.take 8))).length =
          decodeLittleEndianU64 (file.take 8) := by
        rw [List.length_take, List.length_drop]
        omega
      refine ⟨document, Nat.le_of_not_lt hlimit, file.take 8, _,
        (file.drop 8).drop (decodeLittleEndianU64 (file.take 8)), ?_, ?_, hlength.symm, ?_,
        hstart, parse_sound hparse, ?_⟩
      · rw [List.take_append_drop, List.take_append_drop]
      · rw [List.length_take]
        omega
      · rw [hlength]
        omega
      · rw [hlength]
        exact (parseHeaderDocument_ok (by omega)).mp h

lemma readHeader_of_fileOf {document : Value} (hfile : file.length ≤ streamsizeMax)
    (h : FileOf options file header document) : readHeader path file options = .ok header := by
  have hmax : streamsizeMax < uint64Max := by simp [streamsizeMax, uint64Max]
  obtain ⟨hlimit, length, text, data, rfl, hlength, hsize, hheader, hstart, haccepts, hof⟩ := h
  have htake : (length ++ (text ++ data)).take 8 = length := by
    rw [← hlength, List.take_left]
  have hdrop : (length ++ (text ++ data)).drop 8 = text ++ data := by
    rw [← hlength, List.drop_left]
  have htotal : (length ++ (text ++ data)).length = 8 + (text.length + data.length) := by
    rw [List.length_append, List.length_append, hlength]
  have hoffset : checkedAdd 8 text.length = some (8 + text.length) :=
    (checkedAdd_eq_some (by simp [uint64Max])).mpr ⟨rfl, by omega⟩
  rw [readHeader, guard_ok, guard_ok]
  refine ⟨Nat.not_lt.mpr hlimit, by omega, guard_ok.mpr ⟨?_, ?_⟩⟩
  · rw [htake, hsize]
    omega
  · rw [htake, hsize, hoffset, hdrop, List.take_left]
    simp only [guard_ok, refuse_ok, not_ne_iff, parse_complete haccepts]
    exact ⟨by omega, hstart, (parseHeaderDocument_ok (by omega)).mpr hof⟩

theorem readHeader_ok_iff (path : Text) (options : ReadOptions) (header : Header)
    (hfile : file.length ≤ streamsizeMax) :
    readHeader path file options = .ok header ↔ ∃ document, FileOf options file header document :=
  ⟨fileOf_of_readHeader hfile, fun ⟨_, h⟩ => readHeader_of_fileOf hfile h⟩

-- One tensor of two bytes.
def sampleFile : Text :=
  [53, 0, 0, 0, 0, 0, 0, 0] ++
    (ascii "\x7b\"a\":\x7b\"dtype\":\"U8\",\"shape\":[2],\"data_offsets\":[0,2]\x7d\x7d" ++ [7, 9])

def sampleHeader : Header where
  fileSize := 63
  headerSize := 53
  dataOffset := 61
  dataSize := 2
  tensors := [(ascii "a", {
    dtype := .u8, shape := [2], elementCount := 2, byteSize := 2, dataBegin := 0, dataEnd := 2
    fileBegin := 61, fileEnd := 63 })]

lemma length_sampleFile : sampleFile.length ≤ streamsizeMax := by
  rw [sampleFile, ascii_ofList]
  decide

lemma readHeader_sampleFile : readHeader [] sampleFile {} = .ok sampleHeader := by
  rw [sampleFile, ascii_ofList]
  decide +kernel

theorem readHeader_ok_iff_sample :
    ∃ document, FileOf {} sampleFile sampleHeader document :=
  (readHeader_ok_iff [] {} sampleHeader length_sampleFile).mp readHeader_sampleFile

def payload (file : Text) (tensor : TensorInfo) : Text :=
  (file.drop tensor.fileBegin).take tensor.byteSize

-- The data of an accepted file are the bytes of its tensors, each of them once.
theorem readHeader_payload (hfile : file.length ≤ streamsizeMax)
    (h : readHeader path file options = .ok header) :
    ∃ order : List (Text × TensorInfo), order.Perm header.tensors ∧
      file = file.take header.dataOffset ++ (order.map fun tensor => payload file tensor.2).flatten := by
  obtain ⟨document, -, length, text, data, -, -, -, -, -, -, hof⟩ := fileOf_of_readHeader hfile h
  obtain ⟨root, tables, -, -, -, hentries⟩ := hof.members
  obtain ⟨order, hperm, htiles⟩ := hof.covered.exists_tiles (Nat.zero_le _)
  refine ⟨order, hperm, ?_⟩
  have hpieces : (order.map fun tensor => payload file tensor.2) = order.map fun tensor =>
      ((file.drop header.dataOffset).drop tensor.2.dataBegin).take
        (tensor.2.dataEnd - tensor.2.dataBegin) := by
    apply List.map_congr_left
    intro tensor htensor
    obtain ⟨hsized, hlocated⟩ := Entry.placed hentries tensor (hperm.mem_iff.mp htensor)
    rw [payload, List.drop_drop, hlocated.fileBegin, ← hsized.range, Nat.add_sub_cancel_left]
  have hranges : ∀ tensor ∈ order, tensor.2.dataBegin ≤ tensor.2.dataEnd := fun tensor htensor =>
    Entry.ranges hentries tensor (hperm.mem_iff.mp htensor)
  have hdata := hof.dataSize
  rw [← hof.dataOffset] at hdata
  have hall : (file.drop header.dataOffset).take header.dataSize = file.drop header.dataOffset := by
    apply List.take_of_length_le
    rw [List.length_drop]
    omega
  rw [hpieces, htiles.flatten hranges, List.drop_zero, Nat.sub_zero, hall, List.take_append_drop]

theorem readHeader_payload_sample : ∃ order : List (Text × TensorInfo),
    order.Perm sampleHeader.tensors ∧ sampleFile = sampleFile.take sampleHeader.dataOffset ++
      (order.map fun tensor => payload sampleFile tensor.2).flatten :=
  readHeader_payload length_sampleFile readHeader_sampleFile

end FileSpecification

end Qwen3xOrin.Io.SafetensorsHeader
