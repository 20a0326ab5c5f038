import InferenceEndpoint.Evaluation.Extractor
import InferenceEndpoint.Library.JsonKeys
import InferenceEndpoint.Library.OrderedDict

/-!
# Exceptions of the function call extractor

The three strategies of the extractor with the exceptions that Python's own functions raise:
two of them catch what JSON raises, and the third one only what parsing raises.  What
`ast.literal_eval` returns need not be JSON.
-/

namespace InferenceEndpoint

namespace FunctionCallExtraction

open FunctionCallExtractor (call identifier functionStart findBalancedParens looksLikeSignature
  skipNames)

inductive PyException
  | valueError
  | syntaxError
  | typeError
  | recursionError
  | memoryError
  deriving DecidableEq

/-- A limit of the interpreter: the digits of an integer or the nesting of values. -/
inductive Limit
  | digits
  | depth
  deriving DecidableEq

def Limit.exception : Limit → PyException
  | .digits => .valueError
  | .depth => .recursionError

/-- What `ast.literal_eval` returns. -/
inductive PyValue
  | none
  | bool (value : Bool)
  | int (value : Int)
  | float (literal : String)
  | complex (literal : String)
  | string (text : String)
  | bytes (data : List Nat)
  | ellipsis
  /-- A list or a tuple. -/
  | sequence (items : List PyValue)
  | set (items : List PyValue)
  | dict (members : List (PyValue × PyValue))

/-- A keyword of a call expression: what `ast.literal_eval` and `ast.unparse` make of it. -/
structure Keyword where
  name : String
  literal : Except PyException PyValue
  unparsed : String

/-- Python with the limits on which its functions raise. -/
structure Interpreter extends Python where
  loadsLimit : String → Option Limit
  dumpsLimit : Json → Option Limit
  /-- The keywords of a call expression, in the mode of `ast.parse`. -/
  parseCall : String → Except PyException (List Keyword)

namespace Interpreter

variable (python : Interpreter)

def write (value : Json) : String :=
  Json.dumps python.floatRepr value

/-- `json.loads`. -/
def loads (text : String) : Except PyException Json :=
  match python.loadsLimit text with
  | some limit => .error limit.exception
  | none =>
      match Json.loads text with
      | some value => .ok value
      | none => .error .valueError

/-- `json.dumps` of a value that is JSON. -/
def dumps (value : Json) : Except PyException String :=
  match python.dumpsLimit value with
  | some limit => .error limit.exception
  | none => .ok (python.write value)

/-- The text of a key in `json.dumps`. -/
def keyText : PyValue → Except PyException String
  | .string text => .ok text
  | .int value =>
      match python.dumpsLimit (.int value) with
      | some limit => .error limit.exception
      | none => .ok (toString value)
  | .float literal => .ok (python.floatRepr literal)
  | .bool true => .ok "true"
  | .bool false => .ok "false"
  | .none => .ok "null"
  | _ => .error .typeError

mutual

/-- What `json.dumps` writes a value as. -/
def json : PyValue → Except PyException Json
  | .none => .ok .null
  | .bool value => .ok (.bool value)
  | .int value => .ok (.int value)
  | .float literal => .ok (.float literal)
  | .string text => .ok (.string text)
  | .sequence items => (jsonItems items).map .array
  | .dict members => (jsonMembers members).map .object
  | .complex _ | .bytes _ | .ellipsis | .set _ => .error .typeError

def jsonItems : List PyValue → Except PyException (List Json)
  | [] => .ok []
  | item :: items => (json item).bind fun first => (jsonItems items).map (first :: ·)

def jsonMembers : List (PyValue × PyValue) → Except PyException (List (String × Json))
  | [] => .ok []
  | (key, value) :: members =>
      (python.keyText key).bind fun text => (json value).bind fun first =>
        (jsonMembers members).map ((text, first) :: ·)

end

/-! ## The two JSON strategies -/

/-- `try: body except kinds: pass`, then `return None`. -/
def caught (kinds : List PyException) (body : Except PyException (Option String)) :
    Except PyException (Option String) :=
  match body with
  | .error raised => if raised ∈ kinds then .ok none else .error raised
  | .ok result => .ok result

def decodedArguments : Json → Except PyException Json
  | .string text =>
      match python.loads text with
      | .error .valueError => .ok (.string text)
      | result => result
  | other => .ok other

def nativeCall? : Json → Except PyException (Option Json)
  | .object item =>
      match Json.lookup item "function" with
      | some (.object function) =>
          (python.decodedArguments
            ((Json.lookup function "arguments").getD (.string "\x7b\x7d"))).map fun arguments =>
              some (call ((Json.lookup function "name").getD (.string "")) arguments)
      | _ => .ok none
  | _ => .ok none

/-- The loop over the items, which ends at the first one that is no call. -/
def callsOf (item? : Json → Except PyException (Option Json)) :
    List Json → Except PyException (Option (List Json))
  | [] => .ok (some [])
  | item :: items =>
      (item? item).bind fun
        | none => .ok none
        | some first => (callsOf item? items).map (Option.map (first :: ·))

def listed (item? : Json → Except PyException (Option Json)) (text : String) :
    Except PyException (Option String) :=
  (python.loads text).bind fun
    | .array items =>
        (callsOf item? items).bind fun
          | some (first :: calls) => (python.dumps (.array (first :: calls))).map some
          | _ => .ok none
    | _ => .ok none

def tryParseToolCallsJson (text : String) : Except PyException (Option String) :=
  caught [.valueError, .typeError] (python.listed python.nativeCall? text)

def tryParseFunctionArray (text : String) : Except PyException (Option String) :=
  caught [.valueError, .typeError]
    (python.listed (fun item => .ok (FunctionCallExtractor.arrayCall? item)) text)

/-! ## The text strategy -/

abbrev Arguments := OrderedDict String PyValue

def keywordValue (keyword : Keyword) : Except PyException PyValue :=
  match keyword.literal with
  | .ok value => .ok value
  | .error raised =>
      if raised ∈ [PyException.valueError, .syntaxError] then .ok (.string keyword.unparsed)
      else .error raised

def assignKeyword (arguments : Arguments) (keyword : Keyword) : Except PyException Arguments :=
  (keywordValue keyword).map (arguments.insert keyword.name)

def raw (arguments : List Char) : Arguments :=
  (∅ : Arguments).insert "_raw" (.string (String.ofList arguments))

def parseArgumentsString (arguments : List Char) : Except PyException Arguments :=
  if arguments.isEmpty then .ok ∅
  else
    match (python.parseCall ("dict(" ++ String.ofList arguments ++ ")")).bind fun keywords =>
      keywords.foldlM assignKeyword ∅ with
    | .ok parsed => .ok parsed
    | .error raised =>
        if raised ∈ [PyException.syntaxError, .valueError] then .ok (raw arguments)
        else .error raised

structure TextCalls where
  calls : List (String × Arguments) := []
  consumed : List (Nat × Nat) := []

def textCall (text : List Char) (state : TextCalls) (found : Regex.Match) :
    Except PyException TextCalls :=
  let name := String.ofList (found.group 1)
  if state.consumed.any (fun range => range.1 ≤ found.start && found.start < range.2) ||
      skipNames.contains name then .ok state
  else
    let parenOpen := found.stop - 1
    match findBalancedParens text parenOpen with
    | none => .ok state
    | some parenClose =>
        let consumed := state.consumed ++ [(parenOpen, parenClose + 1)]
        let arguments := python.strip ((text.take parenClose).drop (parenOpen + 1))
        if !arguments.isEmpty && looksLikeSignature python.toPython arguments then
          .ok { state with consumed }
        else
          (python.parseArgumentsString arguments).map fun parsed =>
            { calls := state.calls ++ [(name, parsed)], consumed }

def callValue (found : String × Arguments) : PyValue :=
  .dict [(.string "name", .string found.1),
    (.string "arguments", .dict (found.2.entries.map fun (key, value) => (.string key, value)))]

/-- The list of dictionaries that the strategy writes. -/
def callsValue (calls : List (String × Arguments)) : PyValue :=
  .sequence (calls.map callValue)

/-- `if calls: return json.dumps(calls)`. -/
def textResult (calls : List (String × Arguments)) : Except PyException (Option String) :=
  if calls.isEmpty then .ok none
  else ((python.json (callsValue calls)).bind python.dumps).map some

def tryParseTextFunctionCalls (text : String) : Except PyException (Option String) :=
  (((functionStart python.toPython).findIter text.toList).foldlM (python.textCall text.toList)
    {}).bind fun state => python.textResult state.calls

/-- The next strategy, where one has no result. -/
def orNext (result next : Except PyException (Option String)) :
    Except PyException (Option String) :=
  match result with
  | .ok none => next
  | result => result

def extract (text : String) (default : Option String) : Except PyException (Option String) :=
  let text := String.ofList (python.strip text.toList)
  if text = "" then .ok default
  else
    orNext (python.tryParseToolCallsJson text)
      (orNext (python.tryParseFunctionArray text)
        (orNext (python.tryParseTextFunctionCalls text) (.ok default)))

/-! ## What the text asks of Python -/

def items? (text : String) : Option (List Json) :=
  match python.loads text with
  | .ok (.array items) => some items
  | _ => none

/-- The calls of a text that lists them, at least one. -/
def calls? (read? : Json → Option Json) (text : String) : Option (List Json) :=
  ((python.items? text).bind (·.mapM read?)).filter fun calls => !calls.isEmpty

/-- The arguments, decoded if they are a string that decodes. -/
def readArguments : Json → Json
  | .string text =>
      match python.loads text with
      | .ok value => value
      | .error _ => .string text
  | other => other

/-- The name and the arguments of a tool call. -/
def toolCall? : Json → Option (Json × Json)
  | .object item =>
      match Json.lookup item "function" with
      | some (.object function) =>
          some ((Json.lookup function "name").getD (.string ""),
            (Json.lookup function "arguments").getD (.string "\x7b\x7d"))
      | _ => none
  | _ => none

def nativeRead? (item : Json) : Option Json :=
  (toolCall? item).map fun parts => call parts.1 (python.readArguments parts.2)

/-- The arguments that are read as JSON: those of the items before the first one that is no
tool call. -/
def argumentTexts : List Json → List String
  | [] => []
  | item :: items =>
      match toolCall? item with
      | none => []
      | some (_, .string text) => text :: argumentTexts items
      | some _ => argumentTexts items

def Written (calls : List Json) : Prop :=
  python.dumpsLimit (.array calls) = none

/-- No JSON that the extractor reads or writes is nested too deep. -/
structure JsonHandled (text : String) : Prop where
  whole : python.loadsLimit text ≠ some .depth
  arguments : ∀ items, python.items? text = some items →
    ∀ text ∈ argumentTexts items, python.loadsLimit text ≠ some .depth
  native : ∀ calls, python.calls? python.nativeRead? text = some calls →
    python.dumpsLimit (.array calls) ≠ some .depth
  array : (∀ calls, python.calls? python.nativeRead? text = some calls → ¬ python.Written calls) →
    ∀ calls, python.calls? FunctionCallExtractor.arrayCall? text = some calls →
      python.dumpsLimit (.array calls) ≠ some .depth

/-- The text lists calls as JSON. -/
def ListsCalls (text : String) : Prop :=
  ∃ calls, (python.calls? python.nativeRead? text = some calls ∨
    python.calls? FunctionCallExtractor.arrayCall? text = some calls) ∧ python.Written calls

structure FoundCalls where
  calls : List (String × List Char) := []
  consumed : List (Nat × Nat) := []

def foundCall (text : List Char) (state : FoundCalls) (found : Regex.Match) : FoundCalls :=
  let name := String.ofList (found.group 1)
  if state.consumed.any (fun range => range.1 ≤ found.start && found.start < range.2) ||
      skipNames.contains name then state
  else
    let parenOpen := found.stop - 1
    match findBalancedParens text parenOpen with
    | none => state
    | some parenClose =>
        let consumed := state.consumed ++ [(parenOpen, parenClose + 1)]
        let arguments := python.strip ((text.take parenClose).drop (parenOpen + 1))
        if !arguments.isEmpty && looksLikeSignature python.toPython arguments then
          { state with consumed }
        else { calls := state.calls ++ [(name, arguments)], consumed }

/-- The names and arguments of the calls in the text. -/
def foundCalls (text : String) : List (String × List Char) :=
  (((functionStart python.toPython).findIter text.toList).foldl (python.foundCall text.toList)
    {}).calls

/-- Only exceptions that are caught come up while the arguments are parsed. -/
def Parsed (arguments : List Char) : Prop :=
  arguments ≠ [] →
    match python.parseCall ("dict(" ++ String.ofList arguments ++ ")") with
    | .error raised => raised ∈ [PyException.syntaxError, .valueError]
    | .ok keywords => ∀ keyword ∈ keywords, ∀ raised, keyword.literal = .error raised →
        raised ∈ [PyException.valueError, .syntaxError]

/-- The value of a keyword: its literal, or its text. -/
def valueOf (keyword : Keyword) : PyValue :=
  match keyword.literal with
  | .ok value => value
  | .error _ => .string keyword.unparsed

def argumentsOf (arguments : List Char) : Arguments :=
  if arguments.isEmpty then ∅
  else
    match python.parseCall ("dict(" ++ String.ofList arguments ++ ")") with
    | .ok keywords => keywords.foldl (fun parsed keyword =>
        parsed.insert keyword.name (valueOf keyword)) ∅
    | .error _ => raw arguments

structure TextHandled (text : String) : Prop where
  parsed : ∀ found ∈ python.foundCalls text, python.Parsed found.2
  /-- The values are JSON, within the limits, and no dictionary has two keys of one text. -/
  written : python.foundCalls text ≠ [] → ∃ value,
    python.json (callsValue ((python.foundCalls text).map fun found =>
      (found.1, python.argumentsOf found.2))) = .ok value ∧
    python.dumpsLimit value = none ∧ value.Distinct

def Handled (text : String) : Prop :=
  let text := String.ofList (python.strip text.toList)
  text ≠ "" → python.JsonHandled text ∧ (¬ python.ListsCalls text → python.TextHandled text)

/-! ## What is expected of the extractor -/

def IsCall (value : Json) : Prop :=
  ∃ name arguments, value = call name arguments

/-- The extractor returns: the default, or an array of calls that it leaves as it is. -/
def Sound (text : String) : Prop :=
  ∀ default, ∃ result, python.extract text default = .ok result ∧
    (result = default ∨ ∃ calls, result = some (python.write (.array calls)) ∧
      (∀ item ∈ calls, IsCall item) ∧
      ∀ other, python.extract (python.write (.array calls)) other = .ok result)

/-- What `json.dumps` writes, `json.loads` reads, and what is read so can be written. -/
structure Lawful : Prop where
  readsBack : ∀ literal, Json.ReadsBack (python.floatRepr literal)
  stable : ∀ literal, python.floatRepr (python.floatRepr literal) = python.floatRepr literal
  reads : ∀ value, python.dumpsLimit value = none → python.loadsLimit (python.write value) = none
  writes : ∀ value read, python.dumpsLimit value = none →
    Json.loads (python.write value) = some read → python.dumpsLimit read = none
  opening : python.isSpace '[' = false
  closing : python.isSpace ']' = false

end Interpreter

end FunctionCallExtraction

end InferenceEndpoint
