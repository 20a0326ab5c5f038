import InferenceEndpoint.Library.Json
import InferenceEndpoint.Library.Regex

/-!
# Extractors

The extractors take the value to compare out of a model's output.  What Python
itself decides (the Unicode properties of a character, how a float is printed
and how its own expressions are parsed) is collected in `Python`.
-/

namespace InferenceEndpoint

open Regex

structure Python where
  isSpace : Char → Bool
  isWord : Char → Bool
  isDecimal : Char → Bool
  /-- Equality under `re.IGNORECASE`. -/
  sameLetter : Char → Char → Bool
  upper : Char → String
  /-- `repr` of the float that a JSON literal denotes. -/
  floatRepr : String → String
  floatIsZero : String → Bool
  /-- The keyword arguments of a call expression, evaluated where they are literals
  and unparsed otherwise; `none` is a `SyntaxError`. -/
  callKeywords : String → Option (List (String × Json))

namespace Python

variable (py : Python)

def dumps : Json → String :=
  Json.dumps py.floatRepr

/-- `str.strip`. -/
def strip (text : List Char) : List Char :=
  ((text.dropWhile py.isSpace).reverse.dropWhile py.isSpace).reverse

def spaces : Regex :=
  star (char py.isSpace)

/-- A literal under `re.IGNORECASE`. -/
def word (text : String) : Regex :=
  sequence (text.toList.map fun expected => char (py.sameLetter expected))

def wordEdge : Regex :=
  boundary py.isWord

variable {py}

theorem strip_bracketed (opening : py.isSpace '[' = false) (closing : py.isSpace ']' = false)
    (inside : List Char) : py.strip ('[' :: inside ++ [']']) = '[' :: inside ++ [']'] := by
  rw [strip, List.cons_append, List.dropWhile_cons_of_neg (by simp [opening]),
    ← List.cons_append, List.reverse_append, List.reverse_singleton, List.singleton_append,
    List.dropWhile_cons_of_neg (by simp [closing]), List.reverse_cons, List.reverse_reverse]

end Python

/-! ## Multiple choice -/

namespace ABCDExtractor

variable (py : Python)

/-- `*`, `**`, `_` or `__`. -/
def wrapper : Regex :=
  alt (repeat_ 1 (some 2) true (anyOf "*")) (repeat_ 1 (some 2) true (anyOf "_"))

def letter : Regex :=
  group 1 (anyOf "ABCD")

/-- The letter under `re.IGNORECASE`. -/
def anyCaseLetter : Regex :=
  group 1 (char fun char => "ABCD".toList.any (py.sameLetter · char))

def separator : Regex :=
  optional (anyOf ":-–")

def isAlphanumeric (char : Char) : Bool :=
  ('A' ≤ char && char ≤ 'Z') || ('a' ≤ char && char ≤ 'z') || ('0' ≤ char && char ≤ '9')

/-- The rest of a LaTeX group up to its closing brace. -/
def toBrace : Regex :=
  seq (star (noneOf "\x7d")) (literal "\x7d")

def lazyInGroup : Regex :=
  lazyStar (noneOf "\x7d")

/-- A LaTeX command in a box that holds the letter. -/
def boxedCommand (command : String) : Regex :=
  sequence [literal "\\boxed\x7b", lazyInGroup, literal command, lazyInGroup, letter, toBrace,
    toBrace]

def answers : Regex :=
  sequence [py.wordEdge, py.word "Answer", optional (py.word "s"), py.wordEdge, py.spaces,
    separator, py.spaces]

/-- `PATTERNS`, by priority. -/
def patterns : List Regex :=
  [sequence [wrapper, py.word "Answer", optional (py.word "s"), py.spaces, separator, wrapper,
      py.spaces, anyCaseLetter py, py.wordEdge],
    sequence [lineStart, py.spaces, optional wrapper, py.word "Answer", optional (anyOf ":"),
      optional wrapper, py.spaces, optional (anyOf ":"), py.spaces, optional wrapper,
      anyCaseLetter py, optional wrapper, py.spaces],
    sequence [answers py, literal "(", py.spaces, anyCaseLetter py, py.spaces, literal ")"],
    sequence [answers py, anyCaseLetter py, py.wordEdge],
    sequence [py.wordEdge, alt (py.word "Option") (py.word "Choice"), py.wordEdge, py.spaces,
      separator, py.spaces, anyCaseLetter py, py.wordEdge],
    sequence [literal "\\boxed\x7b", lazyInGroup, letter, toBrace],
    boxedCommand "\\textbf\x7b",
    boxedCommand "\\text\x7b",
    sequence [notBehind isAlphanumeric, anyOf "([", py.spaces, letter, py.spaces, anyOf ")]",
      notAhead isAlphanumeric],
    sequence [notBehind isAlphanumeric, wrapper, letter, wrapper, notAhead isAlphanumeric],
    sequence [literal "\\textbf\x7b", lazyInGroup, letter, toBrace],
    sequence [notBehind isAlphanumeric, wrapper, py.spaces, letter, literal ")",
      lazyPlus (noneOf "*_\n"), wrapper, notAhead isAlphanumeric],
    sequence [lineStart, py.spaces, optional wrapper, letter, optional wrapper, py.spaces,
      optional (anyOf ".)-–:"), py.spaces, star (noneOf "\n"), lineEnd]]

/-- `choice_map`; other texts are no substring of "ABCD" that `upper` can return. -/
def choice? : String → Option String
  | "A" => some "choice1"
  | "B" => some "choice2"
  | "C" => some "choice3"
  | "D" => some "choice4"
  | _ => none

def upperText (text : List Char) : String :=
  text.foldl (fun upper char => upper ++ py.upper char) ""

/-- `removeprefix("**")`. -/
def withoutStars : List Char → List Char
  | '*' :: '*' :: rest => rest
  | text => text

def extract (text : String) (default : Option String) : Option String :=
  let matched := (patterns py).findSome? fun pattern =>
    (pattern.search text.toList).bind fun found => choice? (upperText py (found.group 1))
  let first := ((withoutStars text.toList).head?).bind fun head => choice? (py.upper head)
  (matched.or first).or (some (default.getD ""))

theorem width_patterns : ∀ pattern ∈ patterns py, 0 < pattern.width := by
  have all : (patterns py).all (fun pattern => 0 < pattern.width) = true := rfl
  intro pattern member
  exact of_decide_eq_true (List.all_eq_true.mp all pattern member)

@[simp]
theorem extract_empty (default : Option String) :
    extract py "" default = some (default.getD "") := by
  have unmatched : (patterns py).findSome? (fun pattern =>
      (pattern.search "".toList).bind fun found => choice? (upperText py (found.group 1))) =
        none := by
    rw [List.findSome?_eq_none_iff]
    intro pattern member
    have nothing : pattern.search "".toList = none :=
      search_nil (width_patterns py pattern member)
    rw [nothing]
    rfl
  simp only [extract, unmatched]
  rfl

end ABCDExtractor

/-! ## Mathematics -/

namespace BoxedMathExtractor

variable (py : Python)

/-- `.` under `re.DOTALL`, lazily repeated. -/
def lazyText : Regex :=
  lazyStar (char fun _ => true)

def boxed : Regex :=
  alt (sequence [literal "boxed\x7b", group 1 lazyText, literal "\x7d"])
    (sequence [literal "framebox\x7b", group 2 lazyText, literal "\x7d"])

def integer : Regex :=
  plus (char py.isDecimal)

/-- `group.split(",")[-1].strip()`. -/
def lastField (captured : List Char) : String :=
  String.ofList (py.strip ((captured.reverse.takeWhile (· ≠ ',')).reverse))

def extract (text : String) (default : Option String) : Option String :=
  let groups := ((boxed.findIter text.toList).reverse.flatMap fun found =>
    [found.group 1, found.group 2]).filter (· ≠ [])
  match groups.head? with
  | some captured => some (lastField py captured)
  | none =>
      match ((integer py).findIter text.toList).getLast? with
      | some found => some (String.ofList found.text)
      | none => default

@[simp]
theorem extract_empty (default : Option String) : extract py "" default = default := by
  have noBox : boxed.findIter [] = [] := findIter_nil (by decide)
  have noInteger : (integer py).findIter [] = [] := findIter_nil Nat.zero_lt_one
  simp [extract, noBox, noInteger]

end BoxedMathExtractor

/-! ## Python code -/

namespace PythonCodeExtractor

variable (py : Python)

def pythonBlock : Regex :=
  sequence [literal "```python", group 1 BoxedMathExtractor.lazyText, literal "```"]

def plainBlock : Regex :=
  sequence [literal "```", group 1 BoxedMathExtractor.lazyText, literal "```"]

def languageTag : Regex :=
  sequence [alt (py.word "python") (py.word "py"), py.spaces, literal "\n"]

/-- `re.sub` of the tag at the start of the code. -/
def withoutTag (code : List Char) : List Char :=
  match (languageTag py).matchAt (.start code) with
  | some found => found.last.after
  | none => code

def extract (text : String) (default : Option String) : Option String :=
  let text := py.strip text.toList
  if text.isEmpty then default
  else
    match (pythonBlock.findIter text).getLast? with
    | some found => some (String.ofList (py.strip (found.group 1)))
    | none =>
        match (plainBlock.findIter text).getLast? with
        | some found => some (String.ofList (withoutTag py (py.strip (found.group 1))))
        | none => default

@[simp]
theorem extract_empty (default : Option String) : extract py "" default = default :=
  rfl

end PythonCodeExtractor

/-! ## Function calls -/

namespace FunctionCallExtractor

variable (py : Python)

/-- `{"name": …, "arguments": …}`. -/
def call (name arguments : Json) : Json :=
  .object [("name", name), ("arguments", arguments)]

/-- `arguments`, decoded if it is a string that decodes. -/
def decodedArguments : Json → Json
  | .string text => (Json.loads text).getD (.string text)
  | other => other

def nativeCall? : Json → Option Json
  | .object item =>
      match Json.lookup item "function" with
      | some (.object function) =>
          some (call ((Json.lookup function "name").getD (.string ""))
            (decodedArguments ((Json.lookup function "arguments").getD (.string "{}"))))
      | _ => none
  | _ => none

/-- The calls that a JSON array of the expected items lists. -/
def callsOf (item? : Json → Option Json) (text : String) : Option String :=
  match Json.loads text with
  | some (.array items) =>
      match items.mapM item? with
      | some (first :: calls) => some (py.dumps (.array (first :: calls)))
      | _ => none
  | _ => none

def tryParseToolCallsJson : String → Option String :=
  callsOf py nativeCall?

def arrayCall? : Json → Option Json
  | .object item =>
      (Json.lookup item "name").map fun name =>
        call name ((Json.lookup item "arguments").getD (.object []))
  | _ => none

def tryParseFunctionArray : String → Option String :=
  callsOf py arrayCall?

def hasNativeToolCalls (text : String) : Bool :=
  (tryParseToolCallsJson py text).isSome

def skipNames : List String :=
  ["print", "return", "if", "for", "while", "def", "class", "import", "from", "with", "assert",
    "raise", "try", "except", "len", "str", "int", "float", "list", "dict", "set", "tuple",
    "type", "isinstance", "range", "enumerate", "zip", "map", "filter", "Note", "Example",
    "Here", "This", "The", "For"]

def isLetter (char : Char) : Bool :=
  ('A' ≤ char && char ≤ 'Z') || ('a' ≤ char && char ≤ 'z') || char = '_'

def identifier : Regex :=
  seq (char isLetter) (star (char py.isWord))

def functionStart : Regex :=
  sequence [py.wordEdge, group 1 (identifier py), py.spaces, literal "("]

structure Quotes where
  single : Bool := false
  double : Bool := false

/-- The scan of `_find_balanced_parens`: how many characters precede the closing
parenthesis. -/
def balanced : List Char → Quotes → Nat → Option Nat
  | [], _, _ => none
  | '\\' :: skipped, quotes, depth =>
      if quotes.single || quotes.double then
        match skipped with
        | [] => none
        | _ :: rest => (balanced rest quotes depth).map (· + 2)
      else (balanced skipped quotes depth).map (· + 1)
  | head :: rest, quotes, depth =>
      if head = '\'' && !quotes.double then
        (balanced rest { quotes with single := !quotes.single } depth).map (· + 1)
      else if head = '"' && !quotes.single then
        (balanced rest { quotes with double := !quotes.double } depth).map (· + 1)
      else if !quotes.single && !quotes.double && head = '(' then
        (balanced rest quotes (depth + 1)).map (· + 1)
      else if !quotes.single && !quotes.double && head = ')' then
        if depth = 1 then some 0 else (balanced rest quotes (depth - 1)).map (· + 1)
      else (balanced rest quotes depth).map (· + 1)

def findBalancedParens (text : List Char) (start : Nat) : Option Nat :=
  (balanced (text.drop start) {} 0).map (start + ·)

def splitCommas : List Char → List (List Char)
  | [] => [[]]
  | ',' :: rest => [] :: splitCommas rest
  | head :: rest =>
      match splitCommas rest with
      | [] => [[head]]
      | part :: parts => (head :: part) :: parts

/-- `fullmatch` of a name with an optional annotation. -/
def isDeclared (part : List Char) : Bool :=
  let annotation := sequence [py.spaces, literal ":", py.spaces, plus (char py.isWord)]
  ((seq (identifier py) (optional annotation)).ends (.start part)).any (·.after.isEmpty)

def looksLikeSignature (arguments : List Char) : Bool :=
  (((splitCommas arguments).map py.strip).filter (· ≠ [])).all (isDeclared py)

def parseArgumentsString (arguments : List Char) : Json :=
  if arguments.isEmpty then .object []
  else
    match py.callKeywords ("dict(" ++ String.ofList arguments ++ ")") with
    | some keywords =>
        .object (keywords.foldl (fun members keyword =>
          Json.assign members keyword.1 keyword.2) [])
    | none => .object [("_raw", .string (String.ofList arguments))]

/-- The calls found so far and the ranges of the text that they take up. -/
structure TextCalls where
  calls : List Json := []
  consumed : List (Nat × Nat) := []

/-- One start of a function call in the text. -/
def textCall (text : List Char) (state : TextCalls) (found : Match) : TextCalls :=
  let name := String.ofList (found.group 1)
  if state.consumed.any (fun range => range.1 ≤ found.start && found.start < range.2) ||
      skipNames.contains name then state
  else
    let parenOpen := found.stop - 1
    match findBalancedParens text parenOpen with
    | none => state
    | some parenClose =>
        let state := { state with
          consumed := state.consumed ++ [(parenOpen, parenClose + 1)] }
        let arguments := py.strip ((text.take parenClose).drop (parenOpen + 1))
        if !arguments.isEmpty && looksLikeSignature py arguments then state
        else
          { state with
              calls := state.calls ++ [call (.string name) (parseArgumentsString py arguments)] }

def tryParseTextFunctionCalls (text : String) : Option String :=
  match (((functionStart py).findIter text.toList).foldl (textCall py text.toList) {}).calls with
  | [] => none
  | calls => some (py.dumps (.array calls))

def extract (text : String) (default : Option String) : Option String :=
  let text := String.ofList (py.strip text.toList)
  if text = "" then default
  else
    (((tryParseToolCallsJson py text).or (tryParseFunctionArray py text)).or
      (tryParseTextFunctionCalls py text)).or default

@[simp]
theorem extract_empty (default : Option String) : extract py "" default = default :=
  rfl

@[simp]
theorem hasNativeToolCalls_empty : hasNativeToolCalls py "" = false :=
  rfl

end FunctionCallExtractor

/-! ## The registered extractors -/

inductive Extractor
  | abcd
  | boxedMath
  | identity
  | pythonCode
  | functionCall
  deriving DecidableEq, Repr

namespace Extractor

/-- `extract(text)` and, where the class has such a parameter, its `default`. -/
def extract (py : Python) (extractor : Extractor) (text : String) (default : Option String) :
    Option String :=
  match extractor with
  | abcd => ABCDExtractor.extract py text default
  | boxedMath => BoxedMathExtractor.extract py text default
  | identity => some text
  | pythonCode => PythonCodeExtractor.extract py text default
  | functionCall => FunctionCallExtractor.extract py text default

/-- Nothing can be extracted from an empty output. -/
theorem extract_empty (py : Python) (extractor : Extractor) :
    extractor.extract py "" none = none ∨ extractor.extract py "" none = some "" := by
  cases extractor with
  | abcd => exact Or.inr (ABCDExtractor.extract_empty py none)
  | boxedMath => exact Or.inl (BoxedMathExtractor.extract_empty py none)
  | identity => exact Or.inr rfl
  | pythonCode => exact Or.inl (PythonCodeExtractor.extract_empty py none)
  | functionCall => exact Or.inl (FunctionCallExtractor.extract_empty py none)

end Extractor

end InferenceEndpoint
