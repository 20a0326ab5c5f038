import Mathlib.Data.List.Basic

/-!
# JSON texts

JSON values with a decoder and an encoder that follow Python's `json` module:
the decoder skips blanks around values, keeps the last of several equal keys and
takes `NaN` and the infinities for numbers, and the encoder writes ASCII only.
A number with a fraction or an exponent is kept as it was written.
-/

inductive Json
  | null
  | bool (value : Bool)
  | int (value : Int)
  | float (literal : String)
  | string (text : String)
  | array (items : List Json)
  | object (members : List (String × Json))

namespace Json

instance : Inhabited Json := ⟨.null⟩

/-- `value.get(key)` on the members of an object. -/
def lookup (members : List (String × Json)) (key : String) : Option Json :=
  members.lookup key

/-- Assign a key; an old key keeps its place. -/
def assign (members : List (String × Json)) (key : String) (value : Json) :
    List (String × Json) :=
  if members.any (·.1 = key) then
    members.map fun member => if member.1 = key then (key, value) else member
  else members ++ [(key, value)]

/-! ## Decoding -/

def skipBlanks : List Char → List Char
  | [] => []
  | head :: tail =>
      if " \t\n\r".toList.contains head then skipBlanks tail else head :: tail

def hexDigit? (char : Char) : Option Nat :=
  if '0' ≤ char ∧ char ≤ '9' then some (char.toNat - 48)
  else if 'a' ≤ char ∧ char ≤ 'f' then some (char.toNat - 87)
  else if 'A' ≤ char ∧ char ≤ 'F' then some (char.toNat - 55)
  else none

def hexNumber? (digits : List Char) : Option Nat :=
  digits.foldl (fun number digit => number.bind fun high =>
    (hexDigit? digit).map (high * 16 + ·)) (some 0)

/-- The four digits after `\u`. -/
def codeUnit? : List Char → Option (Nat × List Char)
  | first :: second :: third :: fourth :: rest =>
      (hexNumber? [first, second, third, fourth]).map (·, rest)
  | _ => none

def escaped? : Char → Option Char
  | '"' => some '"'
  | '\\' => some '\\'
  | '/' => some '/'
  | 'b' => some (Char.ofNat 8)
  | 'f' => some (Char.ofNat 12)
  | 'n' => some '\n'
  | 'r' => some '\r'
  | 't' => some '\t'
  | _ => none

/-- The character of a code unit, joined with a second one where the two form a
surrogate pair. -/
def unicodeEscape (rest : List Char) : Option (Char × List Char) :=
  (codeUnit? rest).bind fun (high, rest) =>
    if 0xD800 ≤ high ∧ high < 0xDC00 then
      match rest with
      | '\\' :: 'u' :: more =>
          (codeUnit? more).map fun (low, last) =>
            if 0xDC00 ≤ low ∧ low < 0xE000 then
              (Char.ofNat (0x10000 + (high - 0xD800) * 0x400 + (low - 0xDC00)), last)
            else (Char.ofNat 0xFFFD, rest)
      | _ => some (Char.ofNat 0xFFFD, rest)
    else some (Char.ofNat high, rest)

/-- The rest of a string after its opening quote. -/
def decodeString : Nat → List Char → Option (List Char × List Char)
  | 0, _ => none
  | _ + 1, [] => none
  | _ + 1, '"' :: rest => some ([], rest)
  | fuel + 1, '\\' :: 'u' :: rest =>
      (unicodeEscape rest).bind fun (char, rest) =>
        (decodeString fuel rest).map fun (chars, last) => (char :: chars, last)
  | fuel + 1, '\\' :: escape :: rest =>
      (escaped? escape).bind fun char =>
        (decodeString fuel rest).map fun (chars, last) => (char :: chars, last)
  | fuel + 1, char :: rest =>
      if char.toNat < 32 ∨ char = '\\' then none
      else (decodeString fuel rest).map fun (chars, last) => (char :: chars, last)

def isDigit (char : Char) : Bool :=
  '0' ≤ char && char ≤ '9'

def natural (digits : List Char) : Nat :=
  digits.foldl (fun number digit => number * 10 + (digit.toNat - 48)) 0

/-- The digits of the integer part: a single zero, or no leading zero. -/
def integerPart? (text : List Char) : Option (List Char × List Char) :=
  match text with
  | '0' :: rest => some (['0'], rest)
  | head :: _ => if isDigit head then some (text.span isDigit) else none
  | [] => none

def fractionPart (text : List Char) : List Char × List Char :=
  match text with
  | '.' :: rest =>
      if (rest.takeWhile isDigit).isEmpty then ([], text)
      else ('.' :: rest.takeWhile isDigit, rest.dropWhile isDigit)
  | _ => ([], text)

def exponentPart (text : List Char) : List Char × List Char :=
  match text with
  | mark :: rest =>
      if mark = 'e' ∨ mark = 'E' then
        let sign := rest.takeWhile fun char => char = '+' || char = '-'
        let digits := (rest.drop sign.length).takeWhile isDigit
        if 1 < sign.length ∨ digits.isEmpty then ([], text)
        else (mark :: sign ++ digits, rest.drop (sign.length + digits.length))
      else ([], text)
  | [] => ([], text)

def decodeNumber? (text : List Char) : Option (Json × List Char) :=
  let (sign, unsigned) := match text with
    | '-' :: rest => (['-'], rest)
    | _ => ([], text)
  (integerPart? unsigned).map fun (digits, rest) =>
    let (fraction, rest) := fractionPart rest
    let (exponent, rest) := exponentPart rest
    if fraction.isEmpty && exponent.isEmpty then
      (.int (if sign.isEmpty then natural digits else -natural digits), rest)
    else (.float (String.ofList (sign ++ digits ++ fraction ++ exponent)), rest)

/-- Drop an expected word. -/
def word? (expected : String) (text : List Char) : Option (List Char) :=
  if expected.toList.isPrefixOf text then some (text.drop expected.length) else none

def constant? (text : List Char) : Option (Json × List Char) :=
  [("null", .null), ("true", .bool true), ("false", .bool false), ("NaN", .float "NaN"),
    ("Infinity", .float "Infinity"), ("-Infinity", .float "-Infinity")].findSome?
      fun (expected, value) => (word? expected text).map (value, ·)

mutual

/-- A value at the head of the text. -/
def decodeValue : Nat → List Char → Option (Json × List Char)
  | 0, _ => none
  | fuel + 1, '"' :: rest =>
      (decodeString fuel rest).map fun (chars, last) => (.string (String.ofList chars), last)
  | fuel + 1, '[' :: rest =>
      match skipBlanks rest with
      | ']' :: last => some (.array [], last)
      | first => (decodeItems fuel first).map fun (items, last) => (.array items, last)
  | fuel + 1, '{' :: rest =>
      match skipBlanks rest with
      | '}' :: last => some (.object [], last)
      | first =>
          (decodeMembers fuel [] first).map fun (members, last) => (.object members, last)
  | _ + 1, text => (constant? text).or (decodeNumber? text)

/-- The items of an array up to its closing bracket. -/
def decodeItems : Nat → List Char → Option (List Json × List Char)
  | 0, _ => none
  | fuel + 1, text =>
      (decodeValue fuel text).bind fun (item, rest) =>
        match skipBlanks rest with
        | ',' :: more =>
            (decodeItems fuel (skipBlanks more)).map fun (items, last) => (item :: items, last)
        | ']' :: last => some ([item], last)
        | _ => none

/-- The members of an object up to its closing brace. -/
def decodeMembers : Nat → List (String × Json) → List Char →
    Option (List (String × Json) × List Char)
  | 0, _, _ => none
  | fuel + 1, members, '"' :: rest =>
      (decodeString fuel rest).bind fun (key, rest) =>
        match skipBlanks rest with
        | ':' :: rest =>
            (decodeValue fuel (skipBlanks rest)).bind fun (value, rest) =>
              let members := assign members (String.ofList key) value
              match skipBlanks rest with
              | ',' :: more => decodeMembers fuel members (skipBlanks more)
              | '}' :: last => some (members, last)
              | _ => none
        | _ => none
  | _ + 1, _, _ => none

end

/-- `json.loads`; `none` is a `JSONDecodeError`. -/
def loads (text : String) : Option Json :=
  let chars := skipBlanks text.toList
  match decodeValue (2 * chars.length + 2) chars with
  | some (value, rest) => if (skipBlanks rest).isEmpty then some value else none
  | none => none

@[simp]
theorem loads_empty : loads "" = none := by
  decide

@[simp]
theorem loads_emptyArray : loads "[]" = some (.array []) :=
  rfl

/-! ## Encoding -/

def hexChar (digit : Nat) : Char :=
  if digit < 10 then Char.ofNat (48 + digit) else Char.ofNat (87 + digit)

def unitEscape (unit : Nat) : List Char :=
  ['\\', 'u', hexChar (unit / 4096 % 16), hexChar (unit / 256 % 16), hexChar (unit / 16 % 16),
    hexChar (unit % 16)]

def encodeChar (char : Char) : List Char :=
  match char with
  | '"' => ['\\', '"']
  | '\\' => ['\\', '\\']
  | '\n' => ['\\', 'n']
  | '\r' => ['\\', 'r']
  | '\t' => ['\\', 't']
  | _ =>
      let code := char.toNat
      if code = 8 then ['\\', 'b']
      else if code = 12 then ['\\', 'f']
      else if 32 ≤ code ∧ code < 127 then [char]
      else if code < 0x10000 then unitEscape code
      else
        unitEscape (0xD800 + (code - 0x10000) / 0x400) ++
          unitEscape (0xDC00 + (code - 0x10000) % 0x400)

def encodeString (text : String) : String :=
  String.ofList (['"'] ++ text.toList.flatMap encodeChar ++ ['"'])

mutual

/-- `json.dumps`; `floatRepr` writes a number with a fraction or an exponent. -/
def dumps (floatRepr : String → String) : Json → String
  | null => "null"
  | bool true => "true"
  | bool false => "false"
  | int value => toString value
  | float literal => floatRepr literal
  | string text => encodeString text
  | array items => "[" ++ dumpItems floatRepr items ++ "]"
  | object members => "\x7b" ++ dumpMembers floatRepr members ++ "\x7d"

def dumpItems (floatRepr : String → String) : List Json → String
  | [] => ""
  | [item] => dumps floatRepr item
  | item :: items => dumps floatRepr item ++ ", " ++ dumpItems floatRepr items

def dumpMembers (floatRepr : String → String) : List (String × Json) → String
  | [] => ""
  | [(key, value)] => encodeString key ++ ": " ++ dumps floatRepr value
  | (key, value) :: members =>
      encodeString key ++ ": " ++ dumps floatRepr value ++ ", " ++
        dumpMembers floatRepr members

end

end Json
