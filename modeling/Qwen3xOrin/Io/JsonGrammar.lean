import Qwen3xOrin.Io.Json
import Qwen3xOrin.Library.Utf8

/-! The JSON texts of RFC 8259 over bytes and the values they denote. A derivation counts what the
parser limits: the nesting of containers, the values, and the elements and members. -/

namespace Qwen3xOrin.Io.Json

open Library Library.Utf8

def Whitespace (text : Text) : Prop := ∀ byte ∈ text, isJsonWhitespace byte = true

section Numbers

def Digits (text : Text) : Prop := text ≠ [] ∧ ∀ byte ∈ text, isDecimalDigit byte = true

def IntegerText (text : Text) : Prop :=
  text = [48] ∨ (∃ first ∈ text.head?, first ≠ 48) ∧ Digits text

def FractionText (text : Text) : Prop := text = [] ∨ ∃ digits, Digits digits ∧ text = 46 :: digits

def ExponentText (text : Text) : Prop :=
  text = [] ∨ ∃ e sign digits, (e = 101 ∨ e = 69) ∧ (sign = [] ∨ sign = [43] ∨ sign = [45]) ∧
    Digits digits ∧ text = e :: (sign ++ digits)

def NumberText (text : Text) : Prop :=
  ∃ sign integer fraction exponent, (sign = [] ∨ sign = [45]) ∧ IntegerText integer ∧
    FractionText fraction ∧ ExponentText exponent ∧
    text = sign ++ (integer ++ (fraction ++ exponent))

end Numbers

section Strings

def escapeTable : List (UInt8 × UInt8) :=
  [(34, 34), (92, 92), (47, 47), (98, 8), (102, 12), (110, 10), (114, 13), (116, 9)]

def HexText (text : Text) (value : ℕ) : Prop :=
  ∃ a b c d x y z w, text = [a, b, c, d] ∧ hexValue a = some x ∧ hexValue b = some y ∧
    hexValue c = some z ∧ hexValue d = some w ∧ value = x * 4096 + y * 256 + z * 16 + w

def IsHighSurrogate (value : ℕ) : Prop := 0xD800 ≤ value ∧ value ≤ 0xDBFF

def IsLowSurrogate (value : ℕ) : Prop := 0xDC00 ≤ value ∧ value ≤ 0xDFFF

inductive CharacterText : Text → Text → Prop
  | plain (byte : UInt8) : 0x20 ≤ byte → byte < 0x80 → byte ≠ 34 → byte ≠ 92 →
    CharacterText [byte] [byte]
  | wide (unit : Text) : Table unit → 1 < unit.length → CharacterText unit unit
  | escape (letter byte : UInt8) : (letter, byte) ∈ escapeTable → CharacterText [92, letter] [byte]
  | unicode (hex : Text) (value : ℕ) : HexText hex value → IsScalar value →
    CharacterText (92 :: 117 :: hex) (encode value)
  | surrogates (hex hex' : Text) (high low : ℕ) : HexText hex high → IsHighSurrogate high →
    HexText hex' low → IsLowSurrogate low →
    CharacterText (92 :: 117 :: (hex ++ 92 :: 117 :: hex'))
      (encode (0x10000 + (high - 0xD800) * 0x400 + (low - 0xDC00)))

-- The text between the quotes, and the string that it denotes.
inductive StringText : Text → Text → Prop
  | nil : StringText [] []
  | cons {text rest output decoded : Text} : CharacterText text decoded → StringText rest output →
    StringText (text ++ rest) (decoded ++ output)

end Strings

inductive Construct
  | value (value : Value)
  | elements (values : List Value)
  | members (members : List (Text × Value))

-- `Denotes depth values items text construct`
inductive Denotes : ℕ → ℕ → ℕ → Text → Construct → Prop
  | null : Denotes 0 1 0 [110, 117, 108, 108] (.value .null)
  | true : Denotes 0 1 0 [116, 114, 117, 101] (.value (.bool true))
  | false : Denotes 0 1 0 [102, 97, 108, 115, 101] (.value (.bool false))
  | number {text : Text} : NumberText text → Denotes 0 1 0 text (.value (.number text))
  | string {text output : Text} : StringText text output →
    Denotes 0 1 0 (34 :: (text ++ [34])) (.value (.string output))
  | emptyArray {blank : Text} : Whitespace blank →
    Denotes 1 1 0 (91 :: (blank ++ [93])) (.value (.array []))
  | array {depth values items : ℕ} {text : Text} {elements : List Value} :
    Denotes depth values items text (.elements elements) →
    Denotes (depth + 1) (values + 1) items (91 :: (text ++ [93])) (.value (.array elements))
  | emptyObject {blank : Text} : Whitespace blank →
    Denotes 1 1 0 (123 :: (blank ++ [125])) (.value (.object []))
  | object {depth values items : ℕ} {text : Text} {members : List (Text × Value)} :
    Denotes depth values items text (.members members) → (members.map (·.1)).Nodup →
    Denotes (depth + 1) (values + 1) items (123 :: (text ++ [125]))
      (.value (.object (objectOf members)))
  | element {depth values items : ℕ} {before text after : Text} {value : Value} :
    Whitespace before → Denotes depth values items text (.value value) → Whitespace after →
    Denotes depth values (items + 1) (before ++ (text ++ after)) (.elements [value])
  | elements {depth depth' values values' items items' : ℕ} {before text after rest : Text}
    {value : Value} {others : List Value} :
    Whitespace before → Denotes depth values items text (.value value) → Whitespace after →
    Denotes depth' values' items' rest (.elements others) →
    Denotes (max depth depth') (values + values') (items + 1 + items')
      (before ++ (text ++ (after ++ 44 :: rest))) (.elements (value :: others))
  | member {depth values items : ℕ} {before key middle between text after decoded : Text}
    {value : Value} :
    Whitespace before → StringText key decoded → Whitespace middle → Whitespace between →
    Denotes depth values items text (.value value) → Whitespace after →
    Denotes depth values (items + 1)
      (before ++ 34 :: (key ++ 34 :: (middle ++ 58 :: (between ++ (text ++ after)))))
      (.members [(decoded, value)])
  | members {depth depth' values values' items items' : ℕ}
    {before key middle between text after rest decoded : Text} {value : Value}
    {others : List (Text × Value)} :
    Whitespace before → StringText key decoded → Whitespace middle → Whitespace between →
    Denotes depth values items text (.value value) → Whitespace after →
    Denotes depth' values' items' rest (.members others) →
    Denotes (max depth depth') (values + values') (items + 1 + items')
      (before ++ 34 :: (key ++ 34 :: (middle ++ 58 :: (between ++ (text ++ (after ++ 44 :: rest))))))
      (.members ((decoded, value) :: others))

-- A text with the value it denotes, within the limits of `options`.
def Accepts (options : ParseOptions) (input : Text) (value : Value) : Prop :=
  input.length ≤ options.maxInputBytes ∧
    ∃ depth values items before text after, Whitespace before ∧ Whitespace after ∧
      input = before ++ (text ++ after) ∧ Denotes depth values items text (.value value) ∧
      depth ≤ min options.maxNestingDepth absoluteMaxNestingDepth ∧ values ≤ options.maxValues ∧
      items ≤ options.maxContainerItems

end Qwen3xOrin.Io.Json
