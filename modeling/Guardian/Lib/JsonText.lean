import Mathlib.Data.List.Basic
import Mathlib.Data.Int.Notation

namespace JsonText

inductive Value
  | null
  | bool (value : Bool)
  | int (value : ℤ)
  | float
  | str (value : List ℕ)
  | list (items : List Value)
  | dict (members : List (List ℕ × Value))
  | pair (key : List ℕ) (value : Value)

/-- What a reader does with the members of an object, and how it refuses `NaN` or an infinity. -/
structure Hooks (ε : Type) where
  object : List (List ℕ × Value) → Except ε Value
  constant : List Char → Option ε

inductive LoadError (ε : Type)
  | decode
  | hook (error : ε)
  deriving DecidableEq

variable {ε : Type}

def isSpace (c : Char) : Bool := c = ' ' || c = '\t' || c = '\n' || c = '\r'

def skipSpace (text : List Char) : List Char := text.dropWhile isSpace

/-- The text of a string up to its closing quote, and what follows. -/
def splitString : List Char → Option (List Char × List Char)
  | [] => none
  | '"' :: rest => some ([], rest)
  | ['\\'] => none
  | '\\' :: escaped :: rest => (splitString rest).map fun (body, tail) => ('\\' :: escaped :: body, tail)
  | c :: rest => (splitString rest).map fun (body, tail) => (c :: body, tail)

def escape? (c : Char) : Option ℕ :=
  if c = '"' ∨ c = '\\' ∨ c = '/' then some c.toNat
  else if c = 'b' then some 8
  else if c = 'f' then some 12
  else if c = 'n' then some 10
  else if c = 'r' then some 13
  else if c = 't' then some 9
  else none

def hexDigit? (c : Char) : Option ℕ :=
  if '0' ≤ c ∧ c ≤ '9' then some (c.toNat - 48)
  else if 'a' ≤ c ∧ c ≤ 'f' then some (c.toNat - 87)
  else if 'A' ≤ c ∧ c ≤ 'F' then some (c.toNat - 55)
  else none

def hexUnit? (a b c d : Char) : Option ℕ := do
  let high ← hexDigit? a
  let second ← hexDigit? b
  let third ← hexDigit? c
  let low ← hexDigit? d
  return ((high * 16 + second) * 16 + third) * 16 + low

def isHigh (code : ℕ) : Bool := 0xD800 ≤ code ∧ code ≤ 0xDBFF

def isLow (code : ℕ) : Bool := 0xDC00 ≤ code ∧ code ≤ 0xDFFF

def joined (high low : ℕ) : ℕ := 0x10000 + (high - 0xD800) * 0x400 + (low - 0xDC00)

/-- An escaped unit before what is read after it: a high and a low surrogate are one code point. -/
def withUnit (unit : ℕ) : List ℕ → List ℕ
  | low :: codes => if isHigh unit && isLow low then joined unit low :: codes else unit :: low :: codes
  | [] => [unit]

def readCodes : List Char → Option (List ℕ)
  | [] => some []
  | '\\' :: 'u' :: first :: second :: third :: last :: rest => do
    let unit ← hexUnit? first second third last
    let codes ← readCodes rest
    return withUnit unit codes
  | ['\\'] => none
  | '\\' :: escaped :: rest => do
    let code ← escape? escaped
    let codes ← readCodes rest
    return code :: codes
  | c :: rest => if c.toNat < 32 then none else (readCodes rest).map (c.toNat :: ·)

def readString (text : List Char) : Option (List ℕ × List Char) :=
  (splitString text).bind fun (body, rest) => (readCodes body).map fun codes => (codes, rest)

def isDigit (c : Char) : Bool := '0' ≤ c ∧ c ≤ '9'

def decimal (digits : List Char) : ℕ := digits.foldl (fun value c => value * 10 + (c.toNat - 48)) 0

/-- The most digits that `int` takes from a text. -/
def maxDigits : ℕ := 4300

/-- The digits of an integer, without a superfluous zero, and what follows. -/
def scanDigits : List Char → Option (List Char × List Char)
  | [] => none
  | c :: rest =>
    if c = '0' then some (['0'], rest)
    else if isDigit c then some (c :: rest.takeWhile isDigit, rest.dropWhile isDigit)
    else none

def scanFraction : List Char → Option (List Char)
  | '.' :: c :: rest => if isDigit c then some (rest.dropWhile isDigit) else none
  | _ => none

def skipSign : List Char → List Char
  | c :: rest => if c = '+' ∨ c = '-' then rest else c :: rest
  | [] => []

def scanExponent : List Char → Option (List Char)
  | [] => none
  | c :: rest =>
    if c = 'e' ∨ c = 'E' then match skipSign rest with
      | digit :: more => if isDigit digit then some (more.dropWhile isDigit) else none
      | [] => none
    else none

def scanUnsigned (negative : Bool) (text : List Char) : Option (Value × List Char) :=
  (scanDigits text).bind fun (digits, rest) =>
    match scanFraction rest with
    | some more => some (.float, (scanExponent more).getD more)
    | none => match scanExponent rest with
      | some more => some (.float, more)
      | none =>
        if maxDigits < digits.length then none
        else some (.int (if negative then -(decimal digits : ℤ) else decimal digits), rest)

def scanNumber : List Char → Option (Value × List Char)
  | [] => none
  | c :: rest => if c = '-' then scanUnsigned true rest else scanUnsigned false (c :: rest)

/-- The constants, the last three of which are not in the standard. -/
def constants : List (List Char × Option Value) :=
  [("null".toList, some .null), ("true".toList, some (.bool true)), ("false".toList, some (.bool false)),
    ("NaN".toList, none), ("Infinity".toList, none), ("-Infinity".toList, none)]

def scanConstant (text : List Char) : Option ((List Char × Option Value) × List Char) :=
  constants.findSome? fun constant => (text.dropPrefix? constant.1).map fun rest => (constant, rest)

def scanScalar (hooks : Hooks ε) (text : List Char) : Except (LoadError ε) (Value × List Char) :=
  match scanConstant text with
  | some ((_, some value), rest) => .ok (value, rest)
  | some ((spelling, none), rest) => match hooks.constant spelling with
    | some error => .error (.hook error)
    | none => .ok (.float, rest)
  | none => match scanNumber text with
    | some scanned => .ok scanned
    | none => .error .decode

def closeObject (hooks : Hooks ε) (members : List (List ℕ × Value)) (rest : List Char) :
    Except (LoadError ε) (Value × List Char) :=
  match hooks.object members with
  | .ok value => .ok (value, rest)
  | .error error => .error (.hook error)

mutual

def scanOnce (hooks : Hooks ε) : ℕ → List Char → Except (LoadError ε) (Value × List Char)
  | 0, _ => .error .decode
  | _ + 1, [] => .error .decode
  | fuel + 1, c :: rest =>
    if c = '"' then match readString rest with
      | some (codes, tail) => .ok (.str codes, tail)
      | none => .error .decode
    else if c = '{' then match skipSpace rest with
      | '}' :: tail => closeObject hooks [] tail
      | inside => scanMembers hooks fuel inside []
    else if c = '[' then match skipSpace rest with
      | ']' :: tail => .ok (.list [], tail)
      | inside => scanItems hooks fuel inside []
    else scanScalar hooks (c :: rest)

def scanMembers (hooks : Hooks ε) : ℕ → List Char → List (List ℕ × Value) →
    Except (LoadError ε) (Value × List Char)
  | 0, _, _ => .error .decode
  | fuel + 1, text, members => match text with
    | '"' :: rest => match readString rest with
      | none => .error .decode
      | some (key, tail) => match skipSpace tail with
        | ':' :: after => match scanOnce hooks fuel (skipSpace after) with
          | .error error => .error error
          | .ok (value, next) => match skipSpace next with
            | '}' :: last => closeObject hooks (members ++ [(key, value)]) last
            | ',' :: more => scanMembers hooks fuel (skipSpace more) (members ++ [(key, value)])
            | _ => .error .decode
        | _ => .error .decode
    | _ => .error .decode

def scanItems (hooks : Hooks ε) : ℕ → List Char → List Value → Except (LoadError ε) (Value × List Char)
  | 0, _, _ => .error .decode
  | fuel + 1, text, items => match scanOnce hooks fuel text with
    | .error error => .error error
    | .ok (value, next) => match skipSpace next with
      | ']' :: last => .ok (.list (items ++ [value]), last)
      | ',' :: more => scanItems hooks fuel (skipSpace more) (items ++ [value])
      | _ => .error .decode

end

/-- `json.loads` of a text: one value, with white space around it. -/
def loads (hooks : Hooks ε) (text : List Char) : Except (LoadError ε) Value :=
  if text.head? = some '\uFEFF' then .error .decode
  else match scanOnce hooks (2 * text.length + 1) (skipSpace text) with
    | .error error => .error error
    | .ok (value, rest) => if skipSpace rest = [] then .ok value else .error .decode

end JsonText
