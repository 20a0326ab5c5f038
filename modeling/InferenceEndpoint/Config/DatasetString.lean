import InferenceEndpoint.DatasetManager.Transforms
import InferenceEndpoint.Library.NestedDict

/-!
# Dataset strings

A dataset on the command line is a path with options; a dotted key is a path into nested
dictionaries.  An option under a key that already has a value is refused, but an option
that comes after others under its own key replaces them all.
-/

namespace InferenceEndpoint

namespace DatasetString

open NestedDict

inductive PyError
  | valueError (text : String)
  | typeError

abbrev Setting := NestedDict String String

/-! ## Texts -/

/-- `text.split(delimiter)`. -/
def pieces (delimiter : Char) (text : String) : List String :=
  (text.toList.splitOn delimiter).map String.ofList

/-- `text.split(delimiter, 1)`, or nothing where the delimiter does not occur. -/
def cut (delimiter : Char) (text : String) : Option (String × String) :=
  if delimiter ∈ text.toList then
    some (String.ofList (text.toList.takeWhile (· ≠ delimiter)),
      String.ofList ((text.toList.dropWhile (· ≠ delimiter)).drop 1))
  else none

/-- The path that a dotted key stands for. -/
def path (key : String) : List String :=
  pieces '.' key

def invalidOptionText (option : String) : String :=
  let hint := if ':' ∈ option.toList then " (did you mean '=' instead of ':'?)" else ""
  "Invalid option '" ++ option ++ "'" ++ hint ++
    ". Format: key=value (e.g. samples=500,parser.prompt=article)"

def conflictText (key segment : String) : String :=
  "Conflicting option '" ++ key ++ "': '" ++ segment ++ "' is set both as a value " ++
    "and as a nested key. Use one form for '" ++ segment ++ "'."

def unknownTargetsText (invalid : String) : String :=
  "Unknown parser remap target(s): " ++ invalid ++ ". Valid targets: ['prompt', 'system']"

/-! ## Parsing -/

/-- `target[key] = value`. -/
def setItem (target : Setting) (key : String) (value : Setting) : Except PyError Setting :=
  match target with
  | .dict members => .ok (.dict (put members key value))
  | .leaf _ => .error .typeError

/-- The loop over the segments of a key. -/
def assignOption (key : String) : List String → String → Setting → Except PyError Setting
  | [], _, target => .ok target
  | [last], value, target => setItem target last (.leaf value)
  | _ :: _ :: _, _, .leaf _ => .error .typeError
  | segment :: next :: rest, value, .dict members =>
      match members.lookup segment with
      | none =>
          (assignOption key (next :: rest) value (.dict [])).bind (setItem (.dict members) segment)
      | some (.leaf _) => .error (.valueError (conflictText key segment))
      | some (.dict inner) =>
          (assignOption key (next :: rest) value (.dict inner)).bind
            (setItem (.dict members) segment)

def setOption (result : Setting) (option : String) : Except PyError Setting :=
  match cut '=' option with
  | none => .error (.valueError (invalidOptionText option))
  | some (key, value) => assignOption key (path key) value result

/-- `set(MakeAdapterCompatible().remap.values())`. -/
def validTargets : List String :=
  match Transforms.makeAdapterCompatible with
  | .columnRemap remap _ => remap.map (·.2)
  | _ => []

-- How Python prints a set of strings.
variable (reprSet : List String → String)

def checkParser (result : Setting) : Except PyError Setting :=
  match follow ["parser"] result with
  | some (.dict parser) =>
      let invalid := (parser.map (·.1)).filter (· ∉ validTargets)
      if invalid = [] then .ok result
      else .error (.valueError (unknownTargetsText (reprSet invalid)))
  | _ => .ok result

/-- The path and the type of a dataset. -/
def pathAndType (pathPart : String) : String × String :=
  match cut ':' pathPart with
  | some ("perf", rest) => (rest, "performance")
  | some ("acc", rest) => (rest, "accuracy")
  | _ => (pathPart, "performance")

def parseDatasetString (text : String) : Except PyError Setting :=
  let parts := pieces ',' text
  let (pathPart, type) := pathAndType (parts.headD "")
  (parts.tail.foldlM setOption (.dict [("path", .leaf pathPart), ("type", .leaf type)])).bind
    (checkParser reprSet)

/-! ## What the options assign -/

theorem path_ne_nil (key : String) : path key ≠ [] := by
  simp [path, pieces]

theorem path_injective {first second : String} (same : path first = path second) :
    first = second := by
  have split : first.toList.splitOn '.' = second.toList.splitOn '.' := by
    apply List.map_injective_iff.mpr _ same
    exact Function.LeftInverse.injective fun chars => String.toList_ofList
  have chars := congrArg (List.intercalate ['.']) split
  rw [List.intercalate_splitOn, List.intercalate_splitOn] at chars
  exact String.toList_injective chars

/-- The loop is an assignment in the dictionary, with the texts of its errors. -/
theorem assignOption_dict (key : String) {segments : List String} (proper : segments ≠ [])
    (value : String) (members : Members String String) :
    assignOption key segments value (.dict members) =
      match assign segments value members with
      | .ok assigned => .ok (.dict assigned)
      | .error segment => .error (.valueError (conflictText key segment)) := by
  induction segments generalizing members with
  | nil => exact absurd rfl proper
  | cons segment segments ih =>
      cases segments with
      | nil => rfl
      | cons next rest =>
          have below := ih (List.cons_ne_nil _ _)
          rw [assignOption, assign, enter]
          cases members.lookup segment with
          | none =>
              simp only [Except.bind, below]
              cases assign (next :: rest) value [] <;> rfl
          | some node =>
              cases node with
              | leaf held => rfl
              | dict inner =>
                  simp only [Except.bind, below]
                  cases assign (next :: rest) value inner <;> rfl

/-- The options of a text, as keys and values. -/
def options (text : String) : List (String × String) :=
  (pieces ',' text).tail.filterMap (cut '=')

/-- What is in the result before the first option. -/
def defaults (text : String) : List (String × String) :=
  [("path", (pathAndType ((pieces ',' text).headD "")).1),
    ("type", (pathAndType ((pieces ',' text).headD "")).2)]

def write (option : String × String) : List String × String :=
  (path option.1, option.2)

theorem write_proper {settings : List (String × String)} :
    ∀ written ∈ settings.map write, written.1 ≠ [] := by
  intro written member
  obtain ⟨option, -, rfl⟩ := List.mem_map.mp member
  exact path_ne_nil option.1

/-- The fold over the options succeeds with what their assignments give. -/
theorem setOptions_ok_iff {settings : List (String × String)} {start : Members String String}
    (isStart : assignAll (settings.map write) = .ok start) {parts : List String}
    {result : Setting} :
    parts.foldlM setOption (.dict start) = .ok result ↔
      (∀ part ∈ parts, '=' ∈ part.toList) ∧
        ∃ members, result = .dict members ∧
          assignAll ((settings ++ parts.filterMap (cut '=')).map write) = .ok members := by
  induction parts generalizing settings start with
  | nil =>
      simp only [List.filterMap_nil, List.append_nil, isStart]
      constructor
      · intro same
        cases same
        exact ⟨List.forall_mem_nil _, start, rfl, rfl⟩
      · rintro ⟨-, members, rfl, same⟩
        cases same
        rfl
  | cons part parts ih =>
      rw [List.foldlM_cons]
      by_cases isOption : '=' ∈ part.toList
      · obtain ⟨option, isCut⟩ : ∃ option, cut '=' part = some option :=
          ⟨_, if_pos isOption⟩
        have step : setOption (.dict start) part =
            match assign (path option.1) option.2 start with
            | .ok assigned => .ok (.dict assigned)
            | .error segment => .error (.valueError (conflictText option.1 segment)) := by
          rw [setOption, isCut]
          exact assignOption_dict option.1 (path_ne_nil _) option.2 start
        have split : settings ++ (part :: parts).filterMap (cut '=') =
            (settings ++ [option]) ++ parts.filterMap (cut '=') := by
          simp [isCut]
        have more : ∀ members, assignAll ((settings ++ [option]).map write) = .ok members ↔
            assign (path option.1) option.2 start = .ok members := by
          intro members
          rw [List.map_append, List.map_singleton, assignAll_concat, isStart]
          exact ⟨fun ⟨_, same, assigned⟩ => by cases same; exact assigned,
            fun assigned => ⟨start, rfl, assigned⟩⟩
        rw [step, split]
        cases assigned : assign (path option.1) option.2 start with
        | error segment =>
            constructor
            · intro failed
              cases failed
            · rintro ⟨-, members, -, isAssigned⟩
              have prefixOk : ∃ members, assignAll ((settings ++ [option]).map write) =
                  .ok members := by
                apply (assignAll_isOk_iff write_proper).mpr
                have whole := (assignAll_isOk_iff write_proper).mp ⟨members, isAssigned⟩
                rw [List.map_append] at whole
                exact (List.pairwise_append.mp whole).1
              obtain ⟨members, isPrefix⟩ := prefixOk
              rw [more, assigned] at isPrefix
              cases isPrefix
        | ok next =>
            rw [show (Except.ok (.dict next : Setting) >>= fun result =>
              parts.foldlM setOption result) = parts.foldlM setOption (.dict next : Setting)
                from rfl, ih ((more next).mpr assigned)]
            simp [isOption]
      · have failed : setOption (.dict start) part =
            .error (.valueError (invalidOptionText part)) := by
          rw [setOption, cut, if_neg isOption]
        rw [failed]
        constructor
        · intro absurdity
          cases absurdity
        · rintro ⟨all, -⟩
          exact absurd (all part (by simp)) isOption

theorem setOption_dict_cases (members : Members String String) (part : String) :
    (∃ assigned, setOption (.dict members) part = .ok (.dict assigned)) ∨
      ∃ text, setOption (.dict members) part = .error (.valueError text) := by
  rw [setOption]
  cases cut '=' part with
  | none => exact .inr ⟨_, rfl⟩
  | some option =>
      simp only [assignOption_dict option.1 (path_ne_nil option.1)]
      cases assign (path option.1) option.2 members with
      | ok assigned => exact .inl ⟨assigned, rfl⟩
      | error segment => exact .inr ⟨_, rfl⟩

theorem setOptions_error {parts : List String} {start : Members String String} {error : PyError}
    (failed : parts.foldlM setOption (.dict start) = .error error) :
    ∃ text, error = .valueError text := by
  induction parts generalizing start with
  | nil => cases failed
  | cons part parts ih =>
      rw [List.foldlM_cons] at failed
      rcases setOption_dict_cases start part with ⟨assigned, step⟩ | ⟨text, step⟩
      · rw [step] at failed
        exact ih failed
      · rw [step] at failed
        cases failed
        exact ⟨text, rfl⟩

/-! ## The parser targets -/

/-- An option names a parser target that does not exist, and no option gives the parser
itself a value. -/
def UnknownTarget (settings : List (String × String)) : Prop :=
  (∀ option ∈ settings, option.1 ≠ "parser") ∧
    ∃ option ∈ settings, ∃ target rest,
      path option.1 = "parser" :: target :: rest ∧ target ∉ validTargets

theorem parser_path : path "parser" = ["parser"] := by
  decide

theorem below_singleton {segments : List String} (proper : segments ≠ []) {segment : String} :
    ¬ Below segments [segment] := by
  rintro ⟨on, shorter⟩
  cases segments with
  | nil => exact proper rfl
  | cons first rest =>
      obtain ⟨rfl, below⟩ := List.cons_prefix_cons.mp on
      rw [List.prefix_nil.mp below] at shorter
      exact shorter rfl

theorem below_pair {segments : List String} (proper : segments ≠ []) {first second : String}
    (below : Below segments [first, second]) : segments = [first] := by
  obtain ⟨on, shorter⟩ := below
  cases segments with
  | nil => exact absurd rfl proper
  | cons head rest =>
      obtain ⟨rfl, onRest⟩ := List.cons_prefix_cons.mp on
      cases rest with
      | nil => rfl
      | cons next rest =>
          obtain ⟨rfl, onLast⟩ := List.cons_prefix_cons.mp onRest
          rw [List.prefix_nil.mp onLast] at shorter
          exact absurd rfl shorter

section

variable {settings : List (String × String)} {members : Members String String}
  (isAssigned : assignAll (settings.map write) = .ok members)

include isAssigned

/-- A parser with targets has no value of its own. -/
theorem no_parser_value {parser : Members String String}
    (held : follow ["parser"] (.dict members) = some (.dict parser)) :
    ∀ option ∈ settings, option.1 ≠ "parser" := by
  intro option member isParser
  obtain ⟨segments, value, on, found⟩ := exists_value_of_written write_proper isAssigned
    (List.mem_map_of_mem (f := write) member)
  rw [write, isParser, parser_path] at on
  cases segments with
  | nil => cases found
  | cons first rest =>
      obtain ⟨rfl, below⟩ := List.cons_prefix_cons.mp on
      rw [List.prefix_nil.mp below, held] at found
      cases found

theorem mem_targets_iff {parser : Members String String}
    (held : follow ["parser"] (.dict members) = some (.dict parser)) (target : String) :
    target ∈ parser.map (·.1) ↔
      ∃ option ∈ settings, ∃ rest, path option.1 = "parser" :: target :: rest := by
  have found : follow ["parser", target] (.dict members) = parser.lookup target := by
    rw [show ["parser", target] = ["parser"] ++ [target] from rfl, follow_append, held]
    simp only [Option.bind_some, follow_cons_dict]
    cases parser.lookup target <;> simp
  have uncut : ∀ written ∈ settings.map write, ¬ Below written.1 ["parser", target] := by
    intro written member below
    have alone := below_pair (write_proper written member) below
    obtain ⟨option, optionMem, rfl⟩ := List.mem_map.mp member
    exact no_parser_value isAssigned held option optionMem
      (path_injective (alone.trans parser_path.symm))
  have reached := follow_isSome_iff write_proper isAssigned (List.cons_ne_nil _ _) uncut
  rw [found, List.lookup_isSome_iff] at reached
  have present : target ∈ parser.map (·.1) ↔ ∃ member ∈ parser, (target == member.1) = true := by
    simp only [List.mem_map, beq_iff_eq]
    exact exists_congr fun member => and_congr_right fun _ => eq_comm
  rw [present, reached]
  constructor
  · rintro ⟨written, member, rest, isPath⟩
    obtain ⟨option, optionMem, rfl⟩ := List.mem_map.mp member
    exact ⟨option, optionMem, rest, isPath.symm⟩
  · rintro ⟨option, optionMem, rest, isPath⟩
    exact ⟨write option, List.mem_map_of_mem optionMem, rest, isPath.symm⟩

/-- Targets below a parser without a value of its own make it a dictionary. -/
theorem parser_exists (noValue : ∀ option ∈ settings, option.1 ≠ "parser")
    {option : String × String} (member : option ∈ settings) {target : String}
    {rest : List String} (isPath : path option.1 = "parser" :: target :: rest) :
    ∃ parser, follow ["parser"] (.dict members) = some (.dict parser) := by
  have reached : (follow ["parser"] (.dict members)).isSome = true := by
    apply (follow_isSome_iff write_proper isAssigned (List.cons_ne_nil _ _)
      fun written writtenMem => below_singleton (write_proper written writtenMem)).mpr
    exact ⟨write option, List.mem_map_of_mem member, target :: rest, isPath.symm⟩
  obtain ⟨node, found⟩ := Option.isSome_iff_exists.mp reached
  cases node with
  | dict parser => exact ⟨parser, found⟩
  | leaf value =>
      have written := written_of_follow write_proper isAssigned found
      obtain ⟨other, otherMem, isWrite⟩ := List.mem_map.mp written
      have alone : path other.1 = ["parser"] := congrArg Prod.fst isWrite
      exact absurd (path_injective (alone.trans parser_path.symm)) (noValue other otherMem)

theorem checkParser_cases :
    (checkParser reprSet (.dict members) = .ok (.dict members) ∧ ¬ UnknownTarget settings) ∨
      ((∃ text, checkParser reprSet (.dict members) = .error (.valueError text)) ∧
        UnknownTarget settings) := by
  by_cases isDict : ∃ parser, follow ["parser"] (.dict members) = some (.dict parser)
  · obtain ⟨parser, held⟩ := isDict
    have checked : checkParser reprSet (.dict members) =
        if (parser.map (·.1)).filter (· ∉ validTargets) = [] then .ok (.dict members)
        else .error (.valueError (unknownTargetsText
          (reprSet ((parser.map (·.1)).filter (· ∉ validTargets))))) := by
      rw [checkParser, held]
    have targets := mem_targets_iff isAssigned held
    by_cases all : (parser.map (·.1)).filter (· ∉ validTargets) = []
    · refine .inl ⟨by rw [checked, if_pos all], ?_⟩
      rintro ⟨-, option, member, target, rest, isPath, unknown⟩
      have present := (targets target).mpr ⟨option, member, rest, isPath⟩
      rw [List.filter_eq_nil_iff] at all
      exact all target present (decide_eq_true unknown)
    · refine .inr ⟨⟨_, by rw [checked, if_neg all]⟩, no_parser_value isAssigned held, ?_⟩
      obtain ⟨target, isInvalid⟩ := List.exists_mem_of_ne_nil _ all
      obtain ⟨present, unknown⟩ := List.mem_filter.mp isInvalid
      obtain ⟨option, member, rest, isPath⟩ := (targets target).mp present
      exact ⟨option, member, target, rest, isPath, of_decide_eq_true unknown⟩
  · refine .inl ⟨?_, ?_⟩
    · rw [checkParser]
      split
      · rename_i parser held
        exact absurd ⟨parser, held⟩ isDict
      · rfl
    · rintro ⟨noValue, option, member, target, rest, isPath, -⟩
      exact isDict (parser_exists isAssigned noValue member isPath)

end

/-! ## What is refused -/

def settings (text : String) : List (String × String) :=
  defaults text ++ options text

/-- An option without a value, a key that goes on behind one that was set before it (the
path and the type are set from the start), or an unknown parser target. -/
def Refused (text : String) : Prop :=
  (∃ part ∈ (pieces ',' text).tail, '=' ∉ part.toList) ∨
    ¬ (settings text).Pairwise (fun earlier later => ¬ Below (path earlier.1) (path later.1)) ∨
    UnknownTarget (settings text)

theorem defaults_assigned (text : String) :
    assignAll ((defaults text).map write) =
      .ok [("path", .leaf (pathAndType ((pieces ',' text).headD "")).1),
        ("type", .leaf (pathAndType ((pieces ',' text).headD "")).2)] := by
  have isPath : path "path" = ["path"] := by decide
  have isType : path "type" = ["type"] := by decide
  simp only [defaults, List.map_cons, List.map_nil, write, isPath, isType]
  rfl

/-- A text is parsed into what its options assign, or refused with a `ValueError`. -/
theorem parse_cases (text : String) :
    (¬ Refused text ∧ ∃ members, assignAll ((settings text).map write) = .ok members ∧
        parseDatasetString reprSet text = .ok (.dict members)) ∨
      (Refused text ∧ ∃ message, parseDatasetString reprSet text = .error (.valueError message)) := by
  have folded := fun result =>
    @setOptions_ok_iff _ _ (defaults_assigned text) (pieces ',' text).tail result
  have pairwise := assignAll_isOk_iff (@write_proper (settings text))
  rw [List.pairwise_map] at pairwise
  cases isFolded : (pieces ',' text).tail.foldlM setOption
      (.dict [("path", .leaf (pathAndType ((pieces ',' text).headD "")).1),
        ("type", .leaf (pathAndType ((pieces ',' text).headD "")).2)]) with
  | error error =>
      obtain ⟨message, rfl⟩ := setOptions_error isFolded
      refine .inr ⟨?_, message, ?_⟩
      · by_contra accepted
        simp only [Refused, not_or, not_exists, not_and, not_not] at accepted
        obtain ⟨members, isAssigned⟩ := pairwise.mpr accepted.2.1
        have succeeded := (folded (.dict members)).mpr ⟨accepted.1, members, rfl, isAssigned⟩
        rw [isFolded] at succeeded
        cases succeeded
      · rw [parseDatasetString]
        simp only [isFolded]
        rfl
  | ok result =>
      obtain ⟨all, members, rfl, isAssigned⟩ := (folded result).mp isFolded
      have parsed : parseDatasetString reprSet text = checkParser reprSet (.dict members) := by
        rw [parseDatasetString]
        simp only [isFolded]
        rfl
      rw [parsed]
      rcases @checkParser_cases reprSet (settings text) members isAssigned with
        ⟨checked, known⟩ | ⟨⟨message, checked⟩, unknown⟩
      · refine .inl ⟨?_, members, isAssigned, checked⟩
        rintro (⟨part, member, noValue⟩ | unordered | unknown)
        · exact noValue (all part member)
        · exact unordered (pairwise.mp ⟨members, isAssigned⟩)
        · exact known unknown
      · exact .inr ⟨.inr (.inr unknown), message, checked⟩

/-! ## Whether options are lost -/

/-- The value of an option is found under its path, unless its key is given again. -/
def KeepsOptions (text : String) : Prop :=
  ∀ result, parseDatasetString reprSet text = .ok result →
    ∀ before option after, options text = before ++ option :: after →
      (∀ later ∈ after, later.1 ≠ option.1) →
      follow (path option.1) result = some (.leaf option.2)

/-- A key with a value and a key that goes on behind it, in whichever order. -/
def Contradictory (text : String) : Prop :=
  ∃ first ∈ options text, ∃ second ∈ options text, Below (path first.1) (path second.1)

def RefusesContradictions (text : String) : Prop :=
  Contradictory text → ∃ message, parseDatasetString reprSet text = .error (.valueError message)

def RaisesOnlyValueErrors (text : String) : Prop :=
  ∀ error, parseDatasetString reprSet text = .error error → ∃ message, error = .valueError message

/-- No option comes after one under its own key. -/
def EndsBeforeGoingOn (text : String) : Prop :=
  (options text).Pairwise fun earlier later => ¬ Below (path later.1) (path earlier.1)

theorem contradictory_of_not_pairwise {text : String} (lost : ¬ EndsBeforeGoingOn text) :
    Contradictory text := by
  rw [EndsBeforeGoingOn, List.pairwise_iff_forall_sublist] at lost
  push Not at lost
  obtain ⟨earlier, later, both, below⟩ := lost
  exact ⟨later, both.subset (by simp), earlier, both.subset (by simp), below⟩

/-- Without a contradiction in either order there is none. -/
theorem not_contradictory {text : String} (accepted : ¬ Refused text)
    (ordered : EndsBeforeGoingOn text) : ¬ Contradictory text := by
  rintro ⟨first, firstMem, second, secondMem, below⟩
  have forwards : (options text).Pairwise
      fun earlier later => ¬ Below (path earlier.1) (path later.1) := by
    have whole : (settings text).Pairwise
        fun earlier later => ¬ Below (path earlier.1) (path later.1) := by
      by_contra unordered
      exact accepted (.inr (.inl unordered))
    exact (List.pairwise_append.mp whole).2.1
  exact List.Pairwise.forall_of_forall_of_flip (fun option _ self => self.2 rfl) forwards ordered
    firstMem secondMem below

/-- Options are kept and contradictions refused exactly where a text is refused anyway or
none of its options comes after one under its own key. -/
theorem dataset_string_keeps_options_iff (text : String) :
    (KeepsOptions reprSet text ∧ RefusesContradictions reprSet text ∧
        RaisesOnlyValueErrors reprSet text) ↔
      Refused text ∨ EndsBeforeGoingOn text := by
  rcases parse_cases reprSet text with ⟨accepted, members, isAssigned, parsed⟩ |
    ⟨refused, message, parsed⟩
  · have succeeds : ∀ error, parseDatasetString reprSet text ≠ .error error := by
      intro error failed
      rw [parsed] at failed
      cases failed
    constructor
    · rintro ⟨-, refuses, -⟩
      right
      by_contra lost
      obtain ⟨message, failed⟩ := refuses (contradictory_of_not_pairwise lost)
      exact succeeds _ failed
    · rintro (refused | ordered)
      · exact absurd refused accepted
      refine ⟨?_, fun contradictory => absurd contradictory (not_contradictory accepted ordered),
        fun error failed => absurd failed (succeeds error)⟩
      intro result isResult before option after split last
      rw [parsed] at isResult
      cases isResult
      have whole : (settings text).map write =
          (defaults text ++ before).map write ++ write option :: after.map write := by
        simp [settings, split]
      rw [whole] at isAssigned
      apply (follow_written_iff (fun other member => write_proper other (whole ▸ member)) isAssigned
        ?_).mpr
      · intro later member
        obtain ⟨laterOption, laterMem, rfl⟩ := List.mem_map.mp member
        rw [EndsBeforeGoingOn, split] at ordered
        exact (List.pairwise_cons.mp (List.pairwise_append.mp ordered).2.1).1 laterOption laterMem
      · intro later member same
        obtain ⟨laterOption, laterMem, rfl⟩ := List.mem_map.mp member
        exact last laterOption laterMem (path_injective same)
  · constructor
    · intro _
      exact .inl refused
    · intro _
      refine ⟨?_, fun _ => ⟨message, parsed⟩, ?_⟩
      · intro result isResult
        rw [parsed] at isResult
        cases isResult
      · intro error failed
        rw [parsed] at failed
        cases failed
        exact ⟨message, rfl⟩

/-- The parser's prompt is replaced by a later value of the parser, without an error. -/
theorem nested_option_lost :
    (∃ result, parseDatasetString (fun _ => "") "data.jsonl,parser.prompt=article,parser=x" =
        .ok result ∧ follow ["parser", "prompt"] result = none) ∧
      ¬ (KeepsOptions (fun _ => "") "data.jsonl,parser.prompt=article,parser=x" ∧
        RefusesContradictions (fun _ => "") "data.jsonl,parser.prompt=article,parser=x" ∧
        RaisesOnlyValueErrors (fun _ => "") "data.jsonl,parser.prompt=article,parser=x") := by
  have isSplit : pieces ',' "data.jsonl,parser.prompt=article,parser=x" =
      ["data.jsonl", "parser.prompt=article", "parser=x"] := by decide
  have isData : pathAndType "data.jsonl" = ("data.jsonl", "performance") := by decide
  have isFirst : cut '=' "parser.prompt=article" = some ("parser.prompt", "article") := by decide
  have isSecond : cut '=' "parser=x" = some ("parser", "x") := by decide
  have isNested : path "parser.prompt" = ["parser", "prompt"] := by decide
  have parsed : parseDatasetString (fun _ => "") "data.jsonl,parser.prompt=article,parser=x" =
      .ok (.dict [("path", .leaf "data.jsonl"), ("type", .leaf "performance"),
        ("parser", .leaf "x")]) := by
    simp only [parseDatasetString, isSplit, List.headD_cons, isData, List.tail_cons,
      List.foldlM_cons, List.foldlM_nil, setOption, isFirst, isSecond, isNested, parser_path]
    rfl
  refine ⟨⟨_, parsed, rfl⟩, ?_⟩
  rintro ⟨-, refuses, -⟩
  have contradictory : Contradictory "data.jsonl,parser.prompt=article,parser=x" := by
    have isOptions : options "data.jsonl,parser.prompt=article,parser=x" =
        [("parser.prompt", "article"), ("parser", "x")] := by
      simp [options, isSplit, isFirst, isSecond]
    refine ⟨("parser", "x"), by simp [isOptions], ("parser.prompt", "article"),
      by simp [isOptions], ?_⟩
    rw [parser_path, isNested]
    exact ⟨⟨["prompt"], rfl⟩, by decide⟩
  obtain ⟨message, failed⟩ := refuses contradictory
  rw [parsed] at failed
  cases failed

end DatasetString

end InferenceEndpoint
