import InferenceEndpoint.Evaluation.FunctionCallExtraction
import Mathlib.Data.List.Induction

/-!
# When the function call extractor is sound

Each strategy is described by what the text asks of Python.  From this it follows for which
texts the extractor returns, and that its results are left as they are, except where a
written object has a key twice.
-/

namespace InferenceEndpoint

namespace FunctionCallExtraction

open FunctionCallExtractor (call functionStart)

namespace Interpreter

/-! ## The JSON strategies -/

variable {python : Interpreter}

theorem loads_deep {text : String} (deep : python.loadsLimit text = some .depth) :
    python.loads text = .error .recursionError := by
  rw [loads, deep]
  rfl

theorem loads_shallow {text : String} (shallow : python.loadsLimit text ≠ some .depth)
    {raised : PyException} (isError : python.loads text = .error raised) :
    raised = .valueError := by
  rw [loads] at isError
  split at isError
  · rename_i limit isLimit
    cases limit with
    | digits => cases isError; rfl
    | depth => exact absurd isLimit shallow
  · split at isError
    · cases isError
    · cases isError
      rfl

theorem decodedArguments_eq {arguments : Json}
    (shallow : ∀ text, arguments = .string text → python.loadsLimit text ≠ some .depth) :
    python.decodedArguments arguments = .ok (python.readArguments arguments) := by
  cases arguments with
  | string text =>
      rw [decodedArguments, readArguments]
      cases loaded : python.loads text with
      | ok value => rfl
      | error raised =>
          rw [loads_shallow (shallow text rfl) loaded]
  | _ => rfl

theorem decodedArguments_deep {text : String} (deep : python.loadsLimit text = some .depth) :
    python.decodedArguments (.string text) = .error .recursionError := by
  rw [decodedArguments, loads_deep deep]

theorem nativeCall?_eq (item : Json) :
    python.nativeCall? item =
      match toolCall? item with
      | none => .ok none
      | some parts => (python.decodedArguments parts.2).map fun arguments =>
          some (call parts.1 arguments) := by
  cases item with
  | object members =>
      rw [nativeCall?, toolCall?]
      split <;> rfl
  | _ => rfl

/-- Without deep arguments, the loop reads the calls. -/
theorem callsOf_nativeCall? {items : List Json}
    (shallow : ∀ text ∈ argumentTexts items, python.loadsLimit text ≠ some .depth) :
    callsOf python.nativeCall? items = .ok (items.mapM python.nativeRead?) := by
  induction items with
  | nil => rfl
  | cons item items ih =>
      rw [callsOf, nativeCall?_eq, List.mapM_cons, nativeRead?]
      cases isCall : toolCall? item with
      | none => rfl
      | some parts =>
          obtain ⟨name, arguments⟩ := parts
          have head : ∀ text, arguments = .string text →
              python.loadsLimit text ≠ some .depth := by
            rintro text rfl
            apply shallow
            simp [argumentTexts, isCall]
          have rest : ∀ text ∈ argumentTexts items, python.loadsLimit text ≠ some .depth := by
            intro text member
            apply shallow
            rw [argumentTexts, isCall]
            cases arguments <;> simp [member]
          simp only [decodedArguments_eq head, ih rest]
          cases items.mapM python.nativeRead? <;> rfl

theorem callsOf_nativeCall?_deep {items : List Json} {text : String}
    (member : text ∈ argumentTexts items) (deep : python.loadsLimit text = some .depth) :
    callsOf python.nativeCall? items = .error .recursionError := by
  induction items with
  | nil => cases member
  | cons item items ih =>
      rw [argumentTexts] at member
      rw [callsOf, nativeCall?_eq]
      cases isCall : toolCall? item with
      | none => simp [isCall] at member
      | some parts =>
          obtain ⟨name, arguments⟩ := parts
          by_cases here : ∃ own, arguments = .string own ∧ python.loadsLimit own = some .depth
          · obtain ⟨own, rfl, ownDeep⟩ := here
            simp only [decodedArguments_deep ownDeep]
            rfl
          · have head : ∀ own, arguments = .string own →
                python.loadsLimit own ≠ some .depth := by
              intro own same ownDeep
              exact here ⟨own, same, ownDeep⟩
            have inRest : text ∈ argumentTexts items := by
              rw [isCall] at member
              cases arguments with
              | string own =>
                  rcases List.mem_cons.mp member with same | later
                  · exact absurd (same ▸ deep) (head own rfl)
                  · exact later
              | _ => exact member
            simp only [decodedArguments_eq head, ih inRest]
            rfl

theorem callsOf_pure (read? : Json → Option Json) (items : List Json) :
    callsOf (fun item => .ok (read? item)) items = .ok (items.mapM read?) := by
  induction items with
  | nil => rfl
  | cons item items ih =>
      rw [callsOf, List.mapM_cons]
      cases read? item with
      | none => rfl
      | some first =>
          simp only [ih]
          cases items.mapM read? <;> rfl

/-- What a JSON strategy returns: the calls, if they can be written. -/
def written? (python : Interpreter) (calls : Option (List Json)) : Option String :=
  calls.bind fun calls =>
    if python.dumpsLimit (.array calls) = none then some (python.write (.array calls)) else none

section

variable {item? : Json → Except PyException (Option Json)} {read? : Json → Option Json}
  {text : String}

theorem listed_eq (shallow : python.loadsLimit text ≠ some .depth)
    (reads : ∀ items, python.items? text = some items →
      callsOf item? items = .ok (items.mapM read?))
    (writes : ∀ calls, python.calls? read? text = some calls →
      python.dumpsLimit (.array calls) ≠ some .depth) :
    caught [.valueError, .typeError] (python.listed item? text) =
      .ok (python.written? (python.calls? read? text)) := by
  cases loaded : python.loads text with
  | error raised =>
      rw [listed, loaded, calls?, items?, loaded, loads_shallow shallow loaded]
      rfl
  | ok value =>
      by_cases isArray : ∃ items, value = .array items
      · obtain ⟨items, rfl⟩ := isArray
        have isItems : python.items? text = some items := by rw [items?, loaded]
        have isCalls := reads items isItems
        rw [listed, loaded]
        simp only [Except.bind, isCalls]
        cases isRead : items.mapM read? with
        | none => simp [calls?, isItems, isRead, written?, caught]
        | some calls =>
            cases calls with
            | nil => simp [calls?, isItems, isRead, written?, caught, Option.filter]
            | cons first calls =>
                have given : python.calls? read? text = some (first :: calls) := by
                  simp [calls?, isItems, isRead]
                have notDeep := writes _ given
                rw [given, written?, Option.bind_some]
                simp only [dumps]
                cases isLimit : python.dumpsLimit (.array (first :: calls)) with
                | none => simp [Except.map, caught]
                | some limit =>
                    rcases limit with - | -
                    · simp [Except.map, caught, Limit.exception]
                    · exact absurd isLimit notDeep
      · have noItems : python.items? text = none := by
          rw [items?, loaded]
          cases value with
          | array items => exact absurd ⟨items, rfl⟩ isArray
          | _ => rfl
        rw [listed, loaded, calls?, noItems]
        cases value with
        | array items => exact absurd ⟨items, rfl⟩ isArray
        | _ => rfl

theorem listed_deep (deep : python.loadsLimit text = some .depth) :
    caught [.valueError, .typeError] (python.listed item? text) = .error .recursionError := by
  rw [listed, loads_deep deep]
  rfl

theorem listed_raises {items : List Json} (isItems : python.items? text = some items)
    (raises : callsOf item? items = .error .recursionError) :
    caught [.valueError, .typeError] (python.listed item? text) = .error .recursionError := by
  rw [items?] at isItems
  split at isItems
  · rename_i found loaded
    cases isItems
    rw [listed, loaded]
    simp only [Except.bind, raises]
    rfl
  · cases isItems

theorem listed_unwritten (reads : ∀ items, python.items? text = some items →
      callsOf item? items = .ok (items.mapM read?)) {calls : List Json}
    (given : python.calls? read? text = some calls)
    (deep : python.dumpsLimit (.array calls) = some .depth) :
    caught [.valueError, .typeError] (python.listed item? text) = .error .recursionError := by
  obtain ⟨isRead, nonempty⟩ := Option.filter_eq_some_iff.mp given
  obtain ⟨items, isItems, isRead⟩ := Option.bind_eq_some_iff.mp isRead
  have isCalls := reads items isItems
  rw [isRead] at isCalls
  rw [items?] at isItems
  split at isItems
  · rename_i found loaded
    cases isItems
    rw [listed, loaded]
    simp only [Except.bind, isCalls]
    cases calls with
    | nil => cases nonempty
    | cons first calls =>
        simp only [dumps, deep]
        rfl
  · cases isItems

end

/-! ## The text strategy -/

theorem assignKeywords_eq {keywords : List Keyword}
    (literals : ∀ keyword ∈ keywords, ∀ raised, keyword.literal = .error raised →
      raised ∈ [PyException.valueError, .syntaxError]) (parsed : Arguments) :
    keywords.foldlM assignKeyword parsed = .ok (keywords.foldl (fun parsed keyword =>
      parsed.insert keyword.name (valueOf keyword)) parsed) := by
  induction keywords generalizing parsed with
  | nil => rfl
  | cons keyword keywords ih =>
      have here : assignKeyword parsed keyword =
          .ok (parsed.insert keyword.name (valueOf keyword)) := by
        rw [assignKeyword, keywordValue, valueOf]
        cases isLiteral : keyword.literal with
        | ok value => rfl
        | error raised =>
            simp only [if_pos (literals keyword (by simp) raised isLiteral)]
            rfl
      rw [List.foldlM_cons, here, List.foldl_cons]
      exact ih (fun later member => literals later (List.mem_cons_of_mem _ member)) _

/-- An exception of a literal that is not caught ends the parse. -/
theorem assignKeywords_raises {keywords : List Keyword} {keyword : Keyword}
    (member : keyword ∈ keywords) {raised : PyException} (isError : keyword.literal = .error raised)
    (uncaught : raised ∉ [PyException.valueError, .syntaxError]) (parsed : Arguments) :
    ∃ first, keywords.foldlM assignKeyword parsed = .error first ∧
      first ∉ [PyException.syntaxError, .valueError] := by
  induction keywords generalizing parsed with
  | nil => cases member
  | cons head keywords ih =>
      rw [List.foldlM_cons]
      cases isHead : assignKeyword parsed head with
      | error first =>
          refine ⟨first, rfl, ?_⟩
          rw [assignKeyword, keywordValue] at isHead
          cases isLiteral : head.literal with
          | ok value =>
              rw [isLiteral] at isHead
              cases isHead
          | error own =>
              simp only [isLiteral] at isHead
              by_cases isCaught : own ∈ [PyException.valueError, .syntaxError]
              · rw [if_pos isCaught] at isHead
                cases isHead
              · rw [if_neg isCaught] at isHead
                cases isHead
                simpa [and_comm] using isCaught
      | ok next =>
          rcases List.mem_cons.mp member with rfl | later
          · rw [assignKeyword, keywordValue, isError] at isHead
            simp only [if_neg uncaught] at isHead
            cases isHead
          · exact ih later next

theorem parseArgumentsString_eq {arguments : List Char} (parsed : python.Parsed arguments) :
    python.parseArgumentsString arguments = .ok (python.argumentsOf arguments) := by
  rw [parseArgumentsString, argumentsOf]
  by_cases empty : arguments.isEmpty = true
  · rw [if_pos empty, if_pos empty]
  · rw [if_neg empty, if_neg empty]
    have conditions := parsed fun isNil => empty (by rw [isNil]; rfl)
    cases isParsed : python.parseCall ("dict(" ++ String.ofList arguments ++ ")") with
    | error raised =>
        rw [isParsed] at conditions
        simp only [Except.bind, if_pos conditions]
    | ok keywords =>
        rw [isParsed] at conditions
        simp only [Except.bind, assignKeywords_eq conditions]

theorem parseArgumentsString_raises {arguments : List Char} (notParsed : ¬ python.Parsed arguments) :
    ∃ raised, python.parseArgumentsString arguments = .error raised := by
  rw [Parsed, Classical.not_imp] at notParsed
  obtain ⟨nonempty, notParsed⟩ := notParsed
  have notEmpty : ¬ arguments.isEmpty = true := fun empty => nonempty (List.isEmpty_iff.mp empty)
  rw [parseArgumentsString, if_neg notEmpty]
  cases isParsed : python.parseCall ("dict(" ++ String.ofList arguments ++ ")") with
  | error raised =>
      rw [isParsed] at notParsed
      exact ⟨raised, by simp only [Except.bind, if_neg notParsed]⟩
  | ok keywords =>
      rw [isParsed] at notParsed
      push Not at notParsed
      obtain ⟨keyword, member, raised, isError, uncaught⟩ := notParsed
      obtain ⟨first, folded, firstUncaught⟩ := assignKeywords_raises member isError uncaught ∅
      exact ⟨first, by simp only [Except.bind, folded, if_neg firstUncaught]⟩

/-- The calls with their arguments parsed. -/
def parsedCalls (python : Interpreter) (calls : List (String × List Char)) :
    List (String × Arguments) :=
  calls.map fun found => (found.1, python.argumentsOf found.2)

theorem foundCall_calls (text : List Char) (state : FoundCalls) (found : Regex.Match) :
    (python.foundCall text state found).calls = state.calls ∨
      ∃ one, (python.foundCall text state found).calls = state.calls ++ [one] := by
  rw [foundCall]
  dsimp only
  split
  · exact .inl rfl
  · split
    · exact .inl rfl
    · split
      · exact .inl rfl
      · exact .inr ⟨_, rfl⟩

theorem textCall_eq {text : List Char} {state : TextCalls} {scanned : FoundCalls}
    (sameCalls : state.calls = python.parsedCalls scanned.calls)
    (sameRanges : state.consumed = scanned.consumed) {found : Regex.Match}
    (parsed : ∀ call ∈ (python.foundCall text scanned found).calls, python.Parsed call.2) :
    ∃ next, python.textCall text state found = .ok next ∧
      next.calls = python.parsedCalls (python.foundCall text scanned found).calls ∧
      next.consumed = (python.foundCall text scanned found).consumed := by
  rw [foundCall] at parsed ⊢
  rw [textCall, sameRanges]
  dsimp only at parsed ⊢
  split
  · exact ⟨state, rfl, sameCalls, sameRanges⟩
  · rename_i isStart
    rw [if_neg isStart] at parsed
    split
    · exact ⟨state, rfl, sameCalls, sameRanges⟩
    · rename_i parenClose isClose
      rw [isClose] at parsed
      dsimp only at parsed
      split
      · exact ⟨_, rfl, sameCalls, rfl⟩
      · rename_i noSignature
        rw [if_neg noSignature] at parsed
        have own := parsed _ (List.mem_append_right _ (List.mem_singleton_self _))
        dsimp only at own
        rw [parseArgumentsString_eq own]
        exact ⟨_, rfl, by simp [parsedCalls, sameCalls], rfl⟩

theorem textCall_raises {text : List Char} {state : TextCalls} {scanned : FoundCalls}
    (sameRanges : state.consumed = scanned.consumed) {found : Regex.Match}
    (before : ∀ call ∈ scanned.calls, python.Parsed call.2)
    (notParsed : ¬ ∀ call ∈ (python.foundCall text scanned found).calls, python.Parsed call.2) :
    ∃ raised, python.textCall text state found = .error raised := by
  rw [foundCall] at notParsed
  rw [textCall, sameRanges]
  dsimp only at notParsed ⊢
  split
  · rename_i isStart
    rw [if_pos isStart] at notParsed
    exact absurd before notParsed
  · rename_i isStart
    rw [if_neg isStart] at notParsed
    split
    · rename_i isClose
      rw [isClose] at notParsed
      exact absurd before notParsed
    · rename_i parenClose isClose
      rw [isClose] at notParsed
      dsimp only at notParsed
      split
      · rename_i isSignature
        rw [if_pos isSignature] at notParsed
        exact absurd before notParsed
      · rename_i noSignature
        rw [if_neg noSignature] at notParsed
        push Not at notParsed
        obtain ⟨call, member, notParsed⟩ := notParsed
        rcases List.mem_append.mp member with old | last
        · exact absurd (before call old) notParsed
        · rw [List.mem_singleton.mp last] at notParsed
          obtain ⟨raised, isError⟩ := parseArgumentsString_raises notParsed
          exact ⟨raised, by rw [isError]; rfl⟩

theorem foldlM_textCall (text : List Char) (starts : List Regex.Match) :
    ((∀ call ∈ (starts.foldl (python.foundCall text) {}).calls, python.Parsed call.2) →
      ∃ state, starts.foldlM (python.textCall text) {} = .ok state ∧
        state.calls = python.parsedCalls (starts.foldl (python.foundCall text) {}).calls ∧
        state.consumed = (starts.foldl (python.foundCall text) {}).consumed) ∧
    ((¬ ∀ call ∈ (starts.foldl (python.foundCall text) {}).calls, python.Parsed call.2) →
      ∃ raised, starts.foldlM (python.textCall text) {} = .error raised) := by
  induction starts using List.reverseRecOn with
  | nil =>
      refine ⟨fun _ => ⟨{}, rfl, rfl, rfl⟩, fun notParsed => absurd ?_ notParsed⟩
      intro call member
      cases member
  | append_singleton starts found ih =>
      obtain ⟨parses, raises⟩ := ih
      have kept : ∀ call ∈ (starts.foldl (python.foundCall text) {}).calls,
          call ∈ ((starts ++ [found]).foldl (python.foundCall text) {}).calls := by
        intro call member
        rw [List.foldl_append, List.foldl_cons, List.foldl_nil]
        rcases @foundCall_calls python text (starts.foldl (python.foundCall text) {}) found
          with same | ⟨one, more⟩
        · exact same ▸ member
        · exact more ▸ List.mem_append_left _ member
      by_cases before : ∀ call ∈ (starts.foldl (python.foundCall text) {}).calls,
          python.Parsed call.2
      · obtain ⟨state, folded, sameCalls, sameRanges⟩ := parses before
        rw [List.foldlM_append, folded, List.foldl_append, List.foldl_cons, List.foldl_nil]
        constructor
        · intro parsed
          obtain ⟨next, isNext, nextCalls, nextRanges⟩ := textCall_eq sameCalls sameRanges parsed
          exact ⟨next, by simp [bind, Except.bind, isNext, pure, Except.pure], nextCalls,
            nextRanges⟩
        · intro notParsed
          obtain ⟨raised, isError⟩ := textCall_raises sameRanges before notParsed
          exact ⟨raised, by simp [bind, Except.bind, isError]⟩
      · obtain ⟨raised, isError⟩ := raises before
        constructor
        · exact fun parsed => absurd (fun call member => parsed call (kept call member)) before
        · exact fun _ => ⟨raised, by rw [List.foldlM_append, isError]; rfl⟩

theorem tryParseText_eq {text : String}
    (parsed : ∀ found ∈ python.foundCalls text, python.Parsed found.2) :
    python.tryParseTextFunctionCalls text =
      python.textResult (python.parsedCalls (python.foundCalls text)) := by
  obtain ⟨state, folded, sameCalls, -⟩ := (foldlM_textCall text.toList
    ((functionStart python.toPython).findIter text.toList)).1 parsed
  have calls : state.calls = python.parsedCalls (python.foundCalls text) := sameCalls
  rw [tryParseTextFunctionCalls, folded, ← calls]
  rfl

theorem tryParseText_raises {text : String}
    (notParsed : ¬ ∀ found ∈ python.foundCalls text, python.Parsed found.2) :
    ∃ raised, python.tryParseTextFunctionCalls text = .error raised := by
  obtain ⟨raised, isError⟩ := (foldlM_textCall text.toList
    ((functionStart python.toPython).findIter text.toList)).2 notParsed
  exact ⟨raised, by rw [tryParseTextFunctionCalls, isError]; rfl⟩

/-! ## The calls of a result -/

theorem isCall_of_mapM {read? : Json → Option Json}
    (reads : ∀ item read, read? item = some read → IsCall read) {items calls : List Json}
    (isRead : items.mapM read? = some calls) : ∀ item ∈ calls, IsCall item := by
  induction items generalizing calls with
  | nil =>
      cases isRead
      simp
  | cons item items ih =>
      rw [List.mapM_cons] at isRead
      obtain ⟨first, isFirst, isRead⟩ := Option.bind_eq_some_iff.mp isRead
      obtain ⟨rest, isRest, same⟩ := Option.bind_eq_some_iff.mp isRead
      cases same
      intro call member
      rcases List.mem_cons.mp member with rfl | later
      · exact reads item call isFirst
      · exact ih isRest call later

theorem distinct_of_mapM {read? : Json → Option Json}
    (reads : ∀ item read, item.Distinct → read? item = some read → read.Distinct)
    {items calls : List Json} (distinct : ∀ item ∈ items, item.Distinct)
    (isRead : items.mapM read? = some calls) : ∀ item ∈ calls, item.Distinct := by
  induction items generalizing calls with
  | nil =>
      cases isRead
      simp
  | cons item items ih =>
      rw [List.mapM_cons] at isRead
      obtain ⟨first, isFirst, isRead⟩ := Option.bind_eq_some_iff.mp isRead
      obtain ⟨rest, isRest, same⟩ := Option.bind_eq_some_iff.mp isRead
      cases same
      intro call member
      rcases List.mem_cons.mp member with rfl | later
      · exact reads item call (distinct item (by simp)) isFirst
      · exact ih (fun item member => distinct item (List.mem_cons_of_mem _ member)) isRest call
          later

theorem distinct_call {name arguments : Json} :
    (call name arguments).Distinct ↔ name.Distinct ∧ arguments.Distinct := by
  simp [call, Json.Distinct, Json.DistinctMembers]

theorem distinct_loads (lawful : python.Lawful) {text : String} {value : Json}
    (loaded : python.loads text = .ok value) : value.Distinct := by
  rw [loads] at loaded
  split at loaded
  · cases loaded
  · split at loaded
    · rename_i isLoaded
      cases loaded
      exact (Json.clean_loads lawful.readsBack isLoaded).distinct
    · cases loaded

theorem distinct_getD_lookup {members : List (String × Json)}
    (distinct : (Json.object members).Distinct) (key : String) {default : Json}
    (distinctDefault : default.Distinct) : ((Json.lookup members key).getD default).Distinct := by
  cases found : Json.lookup members key with
  | none => exact distinctDefault
  | some value => exact distinct.lookup found

theorem distinct_nativeRead? (lawful : python.Lawful) {item read : Json}
    (distinct : item.Distinct) (isRead : python.nativeRead? item = some read) : read.Distinct := by
  obtain ⟨⟨name, arguments⟩, isCall, rfl⟩ := Option.map_eq_some_iff.mp isRead
  cases item with
  | object members =>
      rw [toolCall?] at isCall
      split at isCall
      · rename_i function isFunction
        have distinctFunction := distinct.lookup isFunction
        cases isCall
        refine distinct_call.mpr ⟨distinct_getD_lookup distinctFunction _ trivial, ?_⟩
        have given : ((Json.lookup function "arguments").getD (.string "\x7b\x7d")).Distinct :=
          distinct_getD_lookup distinctFunction _ trivial
        dsimp only
        generalize (Json.lookup function "arguments").getD (.string "\x7b\x7d") = arguments at given
        cases arguments with
        | string text =>
            rw [readArguments]
            cases loaded : python.loads text with
            | ok value => exact distinct_loads lawful loaded
            | error raised => trivial
        | _ => exact given
      · cases isCall
  | _ => cases isCall

theorem distinct_arrayCall? {item read : Json} (distinct : item.Distinct)
    (isRead : FunctionCallExtractor.arrayCall? item = some read) : read.Distinct := by
  cases item with
  | object members =>
      obtain ⟨name, isName, rfl⟩ := Option.map_eq_some_iff.mp isRead
      exact distinct_call.mpr ⟨distinct.lookup isName, distinct_getD_lookup distinct _
        ⟨List.nodup_nil, trivial⟩⟩
  | _ => cases isRead

theorem isCall_nativeRead? {item read : Json} (isRead : python.nativeRead? item = some read) :
    IsCall read := by
  obtain ⟨parts, -, rfl⟩ := Option.map_eq_some_iff.mp isRead
  exact ⟨_, _, rfl⟩

theorem isCall_arrayCall? {item read : Json}
    (isRead : FunctionCallExtractor.arrayCall? item = some read) : IsCall read := by
  cases item with
  | object members =>
      obtain ⟨name, -, rfl⟩ := Option.map_eq_some_iff.mp isRead
      exact ⟨_, _, rfl⟩
  | _ => cases isRead

/-- Calls that the text lists: at least one, with no key twice. -/
theorem calls?_spec (lawful : python.Lawful) {read? : Json → Option Json}
    (areCalls : ∀ item read, read? item = some read → IsCall read)
    (areDistinct : ∀ item read, item.Distinct → read? item = some read → read.Distinct)
    {text : String} {calls : List Json} (given : python.calls? read? text = some calls) :
    calls ≠ [] ∧ (∀ item ∈ calls, IsCall item) ∧ (Json.array calls).Distinct := by
  obtain ⟨isRead, nonempty⟩ := Option.filter_eq_some_iff.mp given
  obtain ⟨items, isItems, isRead⟩ := Option.bind_eq_some_iff.mp isRead
  refine ⟨by simpa using nonempty, isCall_of_mapM areCalls isRead, ?_⟩
  rw [items?] at isItems
  split at isItems
  · rename_i found loaded
    cases isItems
    exact Json.distinctItems_iff.mpr (distinct_of_mapM areDistinct
      (Json.distinctItems_iff.mp (distinct_loads lawful loaded)) isRead)
  · cases isItems

theorem json_dict {members : List (PyValue × PyValue)} {value : Json}
    (isJson : python.json (.dict members) = .ok value) :
    ∃ written, python.jsonMembers members = .ok written ∧ value = .object written := by
  rw [json] at isJson
  cases isMembers : python.jsonMembers members with
  | error raised =>
      rw [isMembers] at isJson
      cases isJson
  | ok written =>
      rw [isMembers] at isJson
      cases isJson
      exact ⟨written, rfl, rfl⟩

theorem isCall_callValue {found : String × Arguments} {value : Json}
    (isJson : python.json (callValue found) = .ok value) : IsCall value := by
  obtain ⟨written, isWritten, rfl⟩ := json_dict isJson
  simp only [jsonMembers, keyText, json, Except.bind] at isWritten
  generalize python.jsonMembers _ = arguments at isWritten
  cases arguments with
  | error raised => cases isWritten
  | ok members =>
      cases isWritten
      exact ⟨_, _, rfl⟩

/-- The written calls are calls. -/
theorem jsonItems_calls {calls : List (String × Arguments)} {items : List Json}
    (isJson : python.jsonItems (calls.map callValue) = .ok items) :
    items.length = calls.length ∧ ∀ item ∈ items, IsCall item := by
  induction calls generalizing items with
  | nil =>
      rw [List.map_nil, jsonItems] at isJson
      cases isJson
      simp
  | cons found calls ih =>
      rw [List.map_cons, jsonItems] at isJson
      cases isFirst : python.json (callValue found) with
      | error raised =>
          rw [isFirst] at isJson
          cases isJson
      | ok first =>
          cases isRest : python.jsonItems (calls.map callValue) with
          | error raised =>
              simp only [Except.bind, isFirst, isRest] at isJson
              cases isJson
          | ok rest =>
              simp only [Except.bind, isFirst, isRest] at isJson
              cases isJson
              obtain ⟨sameLength, areCalls⟩ := ih isRest
              refine ⟨by rw [List.length_cons, List.length_cons, sameLength], ?_⟩
              intro item member
              rcases List.mem_cons.mp member with rfl | later
              · exact isCall_callValue isFirst
              · exact areCalls item later

theorem json_callsValue {calls : List (String × Arguments)} (nonempty : calls ≠ []) {value : Json}
    (isJson : python.json (callsValue calls) = .ok value) :
    ∃ items, value = .array items ∧ items ≠ [] ∧ ∀ item ∈ items, IsCall item := by
  rw [callsValue, json] at isJson
  cases isItems : python.jsonItems (calls.map callValue) with
  | error raised =>
      rw [isItems] at isJson
      cases isJson
  | ok items =>
      rw [isItems] at isJson
      cases isJson
      obtain ⟨sameLength, areCalls⟩ := jsonItems_calls isItems
      refine ⟨items, rfl, ?_, areCalls⟩
      rintro rfl
      exact nonempty (List.length_eq_zero_iff.mp sameLength.symm)

/-! ## Extracting a result again -/

theorem merged_call (floatRepr : String → String) (name arguments : Json) :
    Json.merged floatRepr (call name arguments) =
      call (Json.merged floatRepr name) (Json.merged floatRepr arguments) := by
  simp [call, Json.merged, Json.mergedMembers, Json.assign]

theorem mapM_arrayCall?_merged (floatRepr : String → String) {calls : List Json}
    (areCalls : ∀ item ∈ calls, IsCall item) :
    (Json.mergedItems floatRepr calls).mapM FunctionCallExtractor.arrayCall? =
      some (Json.mergedItems floatRepr calls) := by
  induction calls with
  | nil => rfl
  | cons item calls ih =>
      obtain ⟨name, arguments, rfl⟩ := areCalls item (by simp)
      have rest := ih fun item member => areCalls item (List.mem_cons_of_mem _ member)
      rw [Json.mergedItems, merged_call, List.mapM_cons, rest]
      rfl

theorem orNext_some (result : String) (next : Except PyException (Option String)) :
    orNext (.ok (some result)) next = .ok (some result) :=
  rfl

theorem orNext_none (next : Except PyException (Option String)) : orNext (.ok none) next = next :=
  rfl

theorem orNext_error (raised : PyException) (next : Except PyException (Option String)) :
    orNext (.error raised) next = .error raised :=
  rfl

/-- Written calls are extracted as they are read. -/
theorem extract_written (lawful : python.Lawful) {calls : List Json} (nonempty : calls ≠ [])
    (areCalls : ∀ item ∈ calls, IsCall item) (writable : python.Written calls)
    (default : Option String) :
    python.extract (python.write (.array calls)) default =
      .ok (some (python.write (Json.merged python.floatRepr (.array calls)))) := by
  have readable := Json.readable_of_readsBack lawful.readsBack (.array calls)
  have isLoaded := Json.loads_dumps_merged readable
  have shallow : python.loadsLimit (python.write (.array calls)) ≠ some .depth := by
    rw [lawful.reads _ writable]
    simp
  have loaded : python.loads (python.write (.array calls)) =
      .ok (.array (Json.mergedItems python.floatRepr calls)) := by
    rw [loads, lawful.reads _ writable, write, isLoaded, Json.merged]
  have isItems : python.items? (python.write (.array calls)) =
      some (Json.mergedItems python.floatRepr calls) := by
    rw [items?, loaded]
  have stripped : String.ofList (python.strip (python.write (.array calls)).toList) =
      python.write (.array calls) := by
    have bracketed : (python.write (.array calls)).toList =
        '[' :: (Json.dumpItems python.floatRepr calls).toList ++ [']'] :=
      Json.toList_dumps_array calls
    rw [bracketed, Python.strip_bracketed lawful.opening lawful.closing, ← bracketed,
      String.ofList_toList]
  have someText : python.write (.array calls) ≠ "" := by
    intro empty
    have chars := congrArg String.toList empty
    rw [write, Json.toList_dumps_array] at chars
    cases chars
  have first : ∃ name arguments rest, Json.mergedItems python.floatRepr calls =
      call name arguments :: rest := by
    cases calls with
    | nil => exact absurd rfl nonempty
    | cons item calls =>
        obtain ⟨name, arguments, rfl⟩ := areCalls item (by simp)
        exact ⟨_, _, _, by rw [Json.mergedItems, merged_call]⟩
  obtain ⟨name, arguments, rest, isFirst⟩ := first
  have noNative : python.calls? python.nativeRead? (python.write (.array calls)) = none := by
    rw [calls?, isItems, isFirst]
    rfl
  have reads : ∀ items, python.items? (python.write (.array calls)) = some items →
      callsOf python.nativeCall? items = .ok (items.mapM python.nativeRead?) := by
    intro items areItems
    rw [isItems] at areItems
    cases areItems
    apply callsOf_nativeCall?
    rw [isFirst]
    simp [argumentTexts, toolCall?, call, Json.lookup, List.lookup_cons]
  have native : python.tryParseToolCallsJson (python.write (.array calls)) = .ok none := by
    rw [tryParseToolCallsJson, listed_eq shallow reads (by simp [noNative]), noNative]
    rfl
  have given : python.calls? FunctionCallExtractor.arrayCall? (python.write (.array calls)) =
      some (Json.mergedItems python.floatRepr calls) := by
    rw [calls?, isItems, Option.bind_some, mapM_arrayCall?_merged _ areCalls, isFirst]
    rfl
  have writableAgain : python.dumpsLimit (.array (Json.mergedItems python.floatRepr calls)) =
      none := by
    apply lawful.writes _ _ writable
    rw [write, isLoaded, Json.merged]
  have array : python.tryParseFunctionArray (python.write (.array calls)) =
      .ok (some (python.write (Json.merged python.floatRepr (.array calls)))) := by
    rw [tryParseFunctionArray, listed_eq shallow (fun items _ => callsOf_pure _ items), given,
      written?, Option.bind_some, if_pos writableAgain, Json.merged]
    intro calls isGiven
    rw [given] at isGiven
    cases isGiven
    rw [writableAgain]
    simp
  rw [extract, stripped]
  simp only [if_neg someText, native, array, orNext_none, orNext_some]

/-! ## When the extractor is sound -/

theorem written?_eq_some {calls : Option (List Json)} {result : String}
    (isWritten : python.written? calls = some result) :
    ∃ given, calls = some given ∧ python.Written given ∧ result = python.write (.array given) := by
  obtain ⟨given, isGiven, isWritten⟩ := Option.bind_eq_some_iff.mp isWritten
  split at isWritten
  · rename_i writable
    cases isWritten
    exact ⟨given, isGiven, writable, rfl⟩
  · cases isWritten

theorem written?_eq_none {calls : Option (List Json)} (notWritten : python.written? calls = none) :
    ∀ given, calls = some given → ¬ python.Written given := by
  rintro given rfl writable
  rw [written?, Option.bind_some,
    if_pos (show python.dumpsLimit (.array given) = none from writable)] at notWritten
  cases notWritten

theorem extract_of_some {text : String}
    (nonempty : String.ofList (python.strip text.toList) ≠ "") (default : Option String) :
    python.extract text default =
      orNext (python.tryParseToolCallsJson (String.ofList (python.strip text.toList)))
        (orNext (python.tryParseFunctionArray (String.ofList (python.strip text.toList)))
          (orNext (python.tryParseTextFunctionCalls (String.ofList (python.strip text.toList)))
            (.ok default))) :=
  if_neg nonempty

/-- What is expected of a result that lists calls. -/
theorem sound_result (lawful : python.Lawful) {calls : List Json} (nonempty : calls ≠ [])
    (areCalls : ∀ item ∈ calls, IsCall item) (distinct : (Json.array calls).Distinct)
    (writable : python.Written calls) (other : Option String) :
    python.extract (python.write (.array calls)) other =
      .ok (some (python.write (.array calls))) := by
  rw [extract_written lawful nonempty areCalls writable other]
  have same := (Json.dumps_merged_iff lawful.readsBack lawful.stable (.array calls)).mpr distinct
  rw [write, same, write]

theorem sound_of_handled (lawful : python.Lawful) {text : String}
    (handled : python.Handled text) : python.Sound text := by
  intro default
  by_cases empty : String.ofList (python.strip text.toList) = ""
  · exact ⟨default, if_pos empty, .inl rfl⟩
  obtain ⟨json, inText⟩ := handled empty
  rw [extract_of_some empty]
  generalize String.ofList (python.strip text.toList) = text at empty json inText
  have native : python.tryParseToolCallsJson text =
      .ok (python.written? (python.calls? python.nativeRead? text)) :=
    listed_eq json.whole (fun items isItems => callsOf_nativeCall? (json.arguments items isItems))
      json.native
  cases isNative : python.written? (python.calls? python.nativeRead? text) with
  | some result =>
      obtain ⟨calls, given, writable, rfl⟩ := written?_eq_some isNative
      obtain ⟨nonempty, areCalls, distinct⟩ := calls?_spec lawful
        (fun _ _ => isCall_nativeRead?) (fun _ _ => distinct_nativeRead? lawful) given
      refine ⟨_, by rw [native, isNative, orNext_some], .inr ⟨calls, rfl, areCalls, ?_⟩⟩
      exact sound_result lawful nonempty areCalls distinct writable
  | none =>
      have array : python.tryParseFunctionArray text =
          .ok (python.written? (python.calls? FunctionCallExtractor.arrayCall? text)) :=
        listed_eq json.whole (fun items _ => callsOf_pure _ items)
          (json.array (written?_eq_none isNative))
      cases isArray : python.written? (python.calls? FunctionCallExtractor.arrayCall? text) with
      | some result =>
          obtain ⟨calls, given, writable, rfl⟩ := written?_eq_some isArray
          obtain ⟨nonempty, areCalls, distinct⟩ := calls?_spec lawful
            (fun _ _ => isCall_arrayCall?) (fun _ _ => distinct_arrayCall?) given
          refine ⟨_, by rw [native, isNative, array, isArray, orNext_none, orNext_some],
            .inr ⟨calls, rfl, areCalls, ?_⟩⟩
          exact sound_result lawful nonempty areCalls distinct writable
      | none =>
          have textOnly : ¬ python.ListsCalls text := by
            rintro ⟨calls, isNativeCalls | isArrayCalls, writable⟩
            · exact written?_eq_none isNative calls isNativeCalls writable
            · exact written?_eq_none isArray calls isArrayCalls writable
          obtain ⟨parsed, written⟩ := inText textOnly
          rw [native, isNative, array, isArray, orNext_none, orNext_none, tryParseText_eq parsed]
          cases isFound : python.parsedCalls (python.foundCalls text) with
          | nil => exact ⟨default, rfl, .inl rfl⟩
          | cons first calls =>
              have some_ : python.foundCalls text ≠ [] := by
                intro none_
                rw [none_] at isFound
                cases isFound
              obtain ⟨value, isJson, writable, distinct⟩ := written some_
              change python.json (callsValue (python.parsedCalls (python.foundCalls text))) = _
                at isJson
              rw [isFound] at isJson
              obtain ⟨items, rfl, nonempty, areCalls⟩ := json_callsValue (by simp) isJson
              have notEmpty : ¬ (first :: calls).isEmpty = true := by simp
              refine ⟨_, ?_, .inr ⟨items, rfl, areCalls, ?_⟩⟩
              · simp only [textResult, if_neg notEmpty, isJson, Except.bind, dumps, writable,
                  Except.map, orNext_some]
              · exact sound_result lawful nonempty areCalls distinct writable

/-- An exception in a strategy that is reached is no result. -/
theorem not_sound_of_error {text : String} (raised : PyException)
    (isError : ∀ default, python.extract text default = .error raised) : ¬ python.Sound text := by
  intro sound
  obtain ⟨result, returns, -⟩ := sound none
  rw [isError] at returns
  cases returns

theorem jsonHandled_of_sound {text : String}
    (nonempty : String.ofList (python.strip text.toList) ≠ "") (sound : python.Sound text) :
    python.JsonHandled (String.ofList (python.strip text.toList)) := by
  have extracted := extract_of_some nonempty
  generalize String.ofList (python.strip text.toList) = stripped at extracted
  have nativeReturns : python.tryParseToolCallsJson stripped ≠ .error .recursionError := by
    intro isError
    refine not_sound_of_error .recursionError (fun default => ?_) sound
    rw [extracted, isError, orNext_error]
  have whole : python.loadsLimit stripped ≠ some .depth := fun deep =>
    nativeReturns (listed_deep deep)
  have arguments : ∀ items, python.items? stripped = some items →
      ∀ text ∈ argumentTexts items, python.loadsLimit text ≠ some .depth :=
    fun items isItems _ member deep =>
      nativeReturns (listed_raises isItems (callsOf_nativeCall?_deep member deep))
  have reads : ∀ items, python.items? stripped = some items →
      callsOf python.nativeCall? items = .ok (items.mapM python.nativeRead?) :=
    fun items isItems => callsOf_nativeCall? (arguments items isItems)
  have native : ∀ calls, python.calls? python.nativeRead? stripped = some calls →
      python.dumpsLimit (.array calls) ≠ some .depth :=
    fun calls given deep => nativeReturns (listed_unwritten reads given deep)
  refine ⟨whole, arguments, native, ?_⟩
  intro unwritten calls given deep
  have noNative : python.tryParseToolCallsJson stripped = .ok none := by
    rw [tryParseToolCallsJson, listed_eq whole reads native]
    cases isNative : python.written? (python.calls? python.nativeRead? stripped) with
    | none => rfl
    | some result =>
        obtain ⟨calls, given, writable, -⟩ := written?_eq_some isNative
        exact absurd writable (unwritten calls given)
  have arrayRaises : python.tryParseFunctionArray stripped = .error .recursionError :=
    listed_unwritten (fun items _ => callsOf_pure _ items) given deep
  refine not_sound_of_error .recursionError (fun default => ?_) sound
  rw [extracted, noNative, arrayRaises, orNext_none, orNext_error]

theorem textHandled_of_sound (lawful : python.Lawful) {text : String}
    (nonempty : String.ofList (python.strip text.toList) ≠ "") (sound : python.Sound text)
    (textOnly : ¬ python.ListsCalls (String.ofList (python.strip text.toList))) :
    python.TextHandled (String.ofList (python.strip text.toList)) := by
  have json := jsonHandled_of_sound nonempty sound
  have extracted := extract_of_some nonempty
  generalize String.ofList (python.strip text.toList) = stripped at extracted textOnly json
  have noNative : python.tryParseToolCallsJson stripped = .ok none := by
    rw [tryParseToolCallsJson, listed_eq json.whole
      (fun items isItems => callsOf_nativeCall? (json.arguments items isItems)) json.native]
    cases isNative : python.written? (python.calls? python.nativeRead? stripped) with
    | none => rfl
    | some result =>
        obtain ⟨calls, given, writable, -⟩ := written?_eq_some isNative
        exact absurd ⟨calls, .inl given, writable⟩ textOnly
  have noArray : python.tryParseFunctionArray stripped = .ok none := by
    rw [tryParseFunctionArray, listed_eq json.whole (fun items _ => callsOf_pure _ items)
      (json.array fun calls given writable => textOnly ⟨calls, .inl given, writable⟩)]
    cases isArray :
        python.written? (python.calls? FunctionCallExtractor.arrayCall? stripped) with
    | none => rfl
    | some result =>
        obtain ⟨calls, given, writable, -⟩ := written?_eq_some isArray
        exact absurd ⟨calls, .inr given, writable⟩ textOnly
  rw [noNative, noArray] at extracted
  simp only [orNext_none] at extracted
  have parsed : ∀ found ∈ python.foundCalls stripped, python.Parsed found.2 := by
    by_contra notParsed
    obtain ⟨raised, isError⟩ := tryParseText_raises notParsed
    refine not_sound_of_error raised (fun default => ?_) sound
    rw [extracted, isError, orNext_error]
  refine ⟨parsed, fun some_ => ?_⟩
  have someCalls : python.parsedCalls (python.foundCalls stripped) ≠ [] := by
    intro none_
    exact some_ (List.map_eq_nil_iff.mp none_)
  have byText : python.tryParseTextFunctionCalls stripped =
      ((python.json (callsValue (python.parsedCalls (python.foundCalls stripped)))).bind
        python.dumps).map some := by
    rw [tryParseText_eq parsed, textResult, if_neg]
    simpa using someCalls
  rw [byText] at extracted
  cases isJson : python.json (callsValue (python.parsedCalls (python.foundCalls stripped))) with
  | error raised =>
      refine absurd sound (not_sound_of_error raised fun default => ?_)
      rw [extracted, isJson]
      rfl
  | ok value =>
      cases isLimit : python.dumpsLimit value with
      | some limit =>
          refine absurd sound (not_sound_of_error limit.exception fun default => ?_)
          rw [extracted, isJson]
          simp only [Except.bind, dumps, isLimit]
          rfl
      | none =>
          refine ⟨value, isJson, isLimit, ?_⟩
          obtain ⟨items, rfl, someItems, areCalls⟩ := json_callsValue someCalls isJson
          -- The result is no default, so it has to be left as it is.
          obtain ⟨result, returns, isDefault | ⟨calls, rfl, -, again⟩⟩ := sound none
          · rw [extracted, isJson] at returns
            simp only [Except.bind, dumps, isLimit, Except.map, orNext_some] at returns
            cases returns
            cases isDefault
          · rw [extracted, isJson] at returns
            simp only [Except.bind, dumps, isLimit, Except.map, orNext_some, Except.ok.injEq,
              Option.some.injEq] at returns
            have unchanged := again none
            rw [← returns, extract_written lawful someItems areCalls isLimit] at unchanged
            exact (Json.dumps_merged_iff lawful.readsBack lawful.stable _).mp
              (Option.some.inj (Except.ok.inj unchanged))

/-- A text that is no JSON asks nothing of the JSON strategies. -/
theorem jsonHandled_of_error {text : String}
    (isError : python.loads text = .error .valueError) :
    python.JsonHandled text ∧ ¬ python.ListsCalls text := by
  have noItems : python.items? text = none := by
    rw [items?, isError]
  have noCalls : ∀ read?, python.calls? read? text = none := by
    intro read?
    rw [calls?, noItems]
    rfl
  refine ⟨⟨fun deep => ?_, by simp [noItems], by simp [noCalls], by simp [noCalls]⟩, ?_⟩
  · rw [loads_deep deep] at isError
    cases isError
  · rintro ⟨calls, given | given, -⟩
    · rw [noCalls] at given
      cases given
    · rw [noCalls] at given
      cases given

end Interpreter

/-! ## Two texts -/

/-- An interpreter for plain texts that knows the keywords of one expression. -/
def plainInterpreter (expression : String) (keywords : List Keyword) : Interpreter where
  isSpace := fun char => char = ' '
  isWord := fun char => char.isAlphanum || char = '_'
  isDecimal := Char.isDigit
  sameLetter := fun first second => first = second
  upper := Char.toString
  floatRepr := fun _ => "NaN"
  floatIsZero := fun _ => false
  callKeywords := fun _ => none
  loadsLimit := fun _ => none
  dumpsLimit := fun _ => none
  parseCall := fun text => if text = expression then .ok keywords else .error .syntaxError

theorem readsBack_nan : Json.ReadsBack "NaN" := by
  refine ⟨⟨'N', ['a', 'N'], by decide, by decide⟩, ?_⟩
  intro rest _
  rfl

theorem plainInterpreter_lawful (expression : String) (keywords : List Keyword) :
    (plainInterpreter expression keywords).Lawful :=
  ⟨fun _ => readsBack_nan, fun _ => rfl, fun _ _ => rfl, fun _ _ _ _ => rfl, rfl, rfl⟩

end FunctionCallExtraction

end InferenceEndpoint
