import Mathlib.Data.List.TakeWhile
import MultiBrandInvoicing.Json.Values

/-!
# The lexemes of a JSON text

A text is cut into lexemes unit by unit: white space between them, the six structural characters,
strings with their escapes, and plain runs up to the next of these, which have to be a word or a
number.
-/

set_option autoImplicit false

namespace Json

open Encodings

/-! ## Characters -/

def quotationMark : UInt16 := 0x22
def reverseSolidus : UInt16 := 0x5C
def beginArray : UInt16 := 0x5B
def endArray : UInt16 := 0x5D
def beginObject : UInt16 := 0x7B
def endObject : UInt16 := 0x7D
def nameSeparator : UInt16 := 0x3A
def valueSeparator : UInt16 := 0x2C
def minus : UInt16 := 0x2D
def plus : UInt16 := 0x2B
def decimalPoint : UInt16 := 0x2E

def isSpace (unit : UInt16) : Bool :=
  unit = 0x20 || unit = 0x09 || unit = 0x0A || unit = 0x0D

def isDigit (unit : UInt16) : Bool := 0x30 ≤ unit.toNat && unit.toNat ≤ 0x39

/-! ## Words and numbers -/

def digitsValue (digits : CodeUnits) : ℕ :=
  digits.foldl (fun value digit => value * 10 + (digit.toNat - 0x30)) 0

def readFraction : CodeUnits → Option (CodeUnits × CodeUnits)
  | [] => some ([], [])
  | unit :: rest =>
    if unit = decimalPoint then
      if rest.takeWhile isDigit = [] then none
      else some (rest.takeWhile isDigit, rest.dropWhile isDigit)
    else some ([], unit :: rest)

def readDigits (digits : CodeUnits) : Option ℕ :=
  if digits = [] ∨ digits.all isDigit = false then none else some (digitsValue digits)

def readExponent : CodeUnits → Option ℤ
  | [] => some 0
  | mark :: rest =>
    if mark = 0x65 ∨ mark = 0x45 then
      if rest.head? = some minus then (readDigits rest.tail).map fun value => -(value : ℤ)
      else if rest.head? = some plus then (readDigits rest.tail).map fun value => (value : ℤ)
      else (readDigits rest).map fun value => (value : ℤ)
    else none

def readNumeral (text : CodeUnits) : Option Numeral := do
  let negative := text.head? = some minus
  let unsigned := if negative then text.tail else text
  let whole := unsigned.takeWhile isDigit
  if whole = [] ∨ whole.head? = some 0x30 ∧ 1 < whole.length then none
  let behind ← readFraction (unsigned.dropWhile isDigit)
  let exponent ← readExponent behind.2
  some ⟨negative, digitsValue (whole ++ behind.1), exponent - behind.1.length⟩

def readPlain (text : CodeUnits) : Option (Value Numeral) :=
  if text = ofString "null" then some .null
  else if text = ofString "true" then some (.bool true)
  else if text = ofString "false" then some (.bool false)
  else (readNumeral text).map .number

/-! ## Cutting a text -/

inductive Lexeme where
  | beginArray
  | endArray
  | beginObject
  | endObject
  | nameSeparator
  | valueSeparator
  | string (text : CodeUnits)
  | plain (value : Value Numeral)

/-- What has been read of the lexeme at hand, the last unit first. -/
inductive Mode where
  | between
  | plain (seen : CodeUnits)
  | string (seen : CodeUnits)
  | escape (seen : CodeUnits)
  | hex (seen : CodeUnits) (count value : ℕ)

def structural (unit : UInt16) : Option Lexeme :=
  if unit = beginArray then some .beginArray
  else if unit = endArray then some .endArray
  else if unit = beginObject then some .beginObject
  else if unit = endObject then some .endObject
  else if unit = nameSeparator then some .nameSeparator
  else if unit = valueSeparator then some .valueSeparator
  else none

def delimits (unit : UInt16) : Bool :=
  isSpace unit || unit = quotationMark || (structural unit).isSome

def betweenStep (unit : UInt16) : Mode × List Lexeme :=
  if isSpace unit then (.between, [])
  else if unit = quotationMark then (.string [], [])
  else match structural unit with
    | some lexeme => (.between, [lexeme])
    | none => (.plain [unit], [])

def unescaped (unit : UInt16) : Option UInt16 :=
  if unit = quotationMark ∨ unit = reverseSolidus ∨ unit = 0x2F then some unit
  else if unit = 0x62 then some 0x08
  else if unit = 0x66 then some 0x0C
  else if unit = 0x6E then some 0x0A
  else if unit = 0x72 then some 0x0D
  else if unit = 0x74 then some 0x09
  else none

def hexValue (unit : UInt16) : Option ℕ :=
  if isDigit unit then some (unit.toNat - 0x30)
  else if 0x61 ≤ unit.toNat ∧ unit.toNat ≤ 0x66 then some (unit.toNat - 0x61 + 10)
  else if 0x41 ≤ unit.toNat ∧ unit.toNat ≤ 0x46 then some (unit.toNat - 0x41 + 10)
  else none

def lexStep : Mode → UInt16 → Option (Mode × List Lexeme)
  | .between, unit => some (betweenStep unit)
  | .plain seen, unit =>
    if delimits unit then
      (readPlain seen.reverse).map fun value =>
        ((betweenStep unit).1, .plain value :: (betweenStep unit).2)
    else some (.plain (unit :: seen), [])
  | .string seen, unit =>
    if unit = quotationMark then some (.between, [.string seen.reverse])
    else if unit = reverseSolidus then some (.escape seen, [])
    else if unit.toNat < 0x20 then none
    else some (.string (unit :: seen), [])
  | .escape seen, unit =>
    if unit = 0x75 then some (.hex seen 0 0, [])
    else (unescaped unit).map fun meant => (.string (meant :: seen), [])
  | .hex seen count value, unit =>
    (hexValue unit).map fun digit =>
      if count = 3 then (.string (.ofNat (value * 16 + digit) :: seen), [])
      else (.hex seen (count + 1) (value * 16 + digit), [])

/-- A text that ends inside a string is none. -/
def lexEnd : Mode → Option (List Lexeme)
  | .between => some []
  | .plain seen => (readPlain seen.reverse).map fun value => [.plain value]
  | _ => none

def lex : Mode → CodeUnits → Option (List Lexeme)
  | mode, [] => lexEnd mode
  | mode, unit :: rest => do
    let step ← lexStep mode unit
    let further ← lex step.1 rest
    some (step.2 ++ further)

end Json
