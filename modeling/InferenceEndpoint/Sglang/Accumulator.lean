import InferenceEndpoint.Metrics.FirstChunkViews

/-!
# SGLang accumulator

`SGLangSSEAccumulator` receives deltas whose texts are the whole text so far.  It recognises a
delta with something new by its token count, so a delta that changes the text alone is lost.
-/

namespace InferenceEndpoint

namespace Sglang

structure SGLangSseDelta where
  text : String := ""
  tokenDelta : List Int := []
  totalCompletionTokens : Int := 0
  hasRetractions : Bool := false
  deriving DecidableEq, Repr

/-- `SGLangSSEAccumulator`. -/
structure SGLangSseAccumulator where
  text : String := ""
  tokenIds : List Int := []
  totalTokens : Int := 0
  retractionOccurred : Bool := false
  firstChunkSent : Bool := false
  queryId : QueryId
  streamAllChunks : Bool
  deriving DecidableEq, Repr

/-- A chunk with its further metadata. -/
structure SGLangStreamChunk extends StreamChunk where
  finalChunk : Bool := false
  retractionOccurred : Bool
  nTokens : Nat
  deriving DecidableEq, Repr

/-- The final result with its metadata. -/
structure SGLangFinalOutput where
  id : QueryId
  responseOutput : TextModelOutput
  firstChunk : Bool
  finalChunk : Bool := true
  retractionOccurred : Bool
  nTokens : Int
  tokenIds : List Int
  deriving DecidableEq, Repr

/-- `text[start:]`. -/
def sliceFrom (text : String) (start : Nat) : String :=
  String.ofList (text.toList.drop start)

namespace SGLangSseAccumulator

/-- `add_chunk`. -/
def addChunk (acc : SGLangSseAccumulator) (delta : SGLangSseDelta) :
    SGLangSseAccumulator × Option SGLangStreamChunk :=
  if delta.totalCompletionTokens = acc.totalTokens then (acc, none)
  else
    let contentDiff :=
      if acc.text.length < delta.text.length then sliceFrom delta.text acc.text.length else ""
    let counted :=
      { acc with
        text := delta.text
        tokenIds := acc.tokenIds ++ delta.tokenDelta
        totalTokens := delta.totalCompletionTokens
        retractionOccurred := acc.retractionOccurred || delta.hasRetractions }
    if contentDiff ≠ "" ∧ (acc.streamAllChunks || !acc.firstChunkSent) then
      ({ counted with firstChunkSent := true },
        some {
          id := acc.queryId
          responseChunk := contentDiff
          firstChunk := !acc.firstChunkSent
          retractionOccurred := delta.hasRetractions
          nTokens := delta.tokenDelta.length })
    else (counted, none)

/-- The deltas one after the other, with the chunks that they give. -/
def addChunks (acc : SGLangSseAccumulator) :
    List SGLangSseDelta → SGLangSseAccumulator × List SGLangStreamChunk
  | [] => (acc, [])
  | delta :: deltas =>
      let (next, chunk) := acc.addChunk delta
      let (final, chunks) := addChunks next deltas
      (final, chunk.toList ++ chunks)

/-- `get_final_output`. -/
def getFinalOutput (acc : SGLangSseAccumulator) : SGLangFinalOutput where
  id := acc.queryId
  responseOutput := { output := .whole acc.text }
  firstChunk := !acc.firstChunkSent
  retractionOccurred := acc.retractionOccurred
  nTokens := acc.totalTokens
  tokenIds := acc.tokenIds

end SGLangSseAccumulator

/-! ## Cumulative deltas -/

/-- The text extends the previous one, and the count does not decrease. -/
def SGLangSseDelta.ExtendedBy (first second : SGLangSseDelta) : Prop :=
  (∃ more, second.text = first.text ++ more) ∧
    first.totalCompletionTokens ≤ second.totalCompletionTokens

def Cumulative (deltas : List SGLangSseDelta) : Prop :=
  deltas.IsChain SGLangSseDelta.ExtendedBy

def lastText (deltas : List SGLangSseDelta) : String :=
  (deltas.getLast?.map SGLangSseDelta.text).getD ""

def lastCount (deltas : List SGLangSseDelta) : Int :=
  (deltas.getLast?.map SGLangSseDelta.totalCompletionTokens).getD 0

/-- The text does not grow once the count has its last value; nothing but empty text comes with
no tokens at all. -/
def TextSettlesWithCount (deltas : List SGLangSseDelta) : Prop :=
  (∀ delta ∈ deltas, delta.totalCompletionTokens = lastCount deltas →
    delta.text = lastText deltas) ∧
  ((∀ delta ∈ deltas, delta.totalCompletionTokens = 0) → lastText deltas = "")

@[simp]
theorem lastText_append (deltas : List SGLangSseDelta) (delta : SGLangSseDelta) :
    lastText (deltas ++ [delta]) = delta.text := by
  simp [lastText]

@[simp]
theorem lastCount_append (deltas : List SGLangSseDelta) (delta : SGLangSseDelta) :
    lastCount (deltas ++ [delta]) = delta.totalCompletionTokens := by
  simp [lastCount]

theorem Cumulative.of_append {deltas : List SGLangSseDelta} {delta : SGLangSseDelta}
    (cumulative : Cumulative (deltas ++ [delta])) : Cumulative deltas :=
  List.IsChain.left_of_append cumulative

theorem Cumulative.last_extendedBy {deltas : List SGLangSseDelta} {last delta : SGLangSseDelta}
    (cumulative : Cumulative (deltas ++ [last] ++ [delta])) : last.ExtendedBy delta := by
  unfold Cumulative at cumulative
  rw [List.append_assoc] at cumulative
  exact List.isChain_pair.mp (List.isChain_append.mp cumulative).2.1

/-- The next text extends the last one. -/
theorem Cumulative.extends_lastText {deltas : List SGLangSseDelta} {delta : SGLangSseDelta}
    (cumulative : Cumulative (deltas ++ [delta])) :
    ∃ more, delta.text = lastText deltas ++ more := by
  induction deltas using List.reverseRecOn with
  | nil => exact ⟨delta.text, by simp [lastText]⟩
  | append_singleton deltas last _ =>
      rw [lastText_append]
      exact cumulative.last_extendedBy.1

/-- No count is larger than the last one. -/
theorem Cumulative.count_le {deltas : List SGLangSseDelta} (cumulative : Cumulative deltas)
    {delta : SGLangSseDelta} (member : delta ∈ deltas) :
    delta.totalCompletionTokens ≤ lastCount deltas := by
  induction deltas using List.reverseRecOn with
  | nil => exact absurd member List.not_mem_nil
  | append_singleton deltas last ih =>
      rw [lastCount_append]
      rcases List.mem_append.mp member with earlier | same
      · have below := ih cumulative.of_append earlier
        obtain ⟨before, previous, rfl⟩ :=
          List.eq_nil_or_concat' deltas |>.resolve_left (List.ne_nil_of_mem earlier)
        rw [lastCount_append] at below
        exact below.trans cumulative.last_extendedBy.2
      · exact (List.mem_singleton.mp same ▸ le_refl _)

/-! ## One delta -/

/-- A text between the start of a text and the text itself. -/
theorem eq_of_squeezed {first second third more rest : String} (outer : first = third)
    (inner : second = first ++ more) (final : third = second ++ rest) : second = third := by
  have lengths := congrArg String.length inner
  have others := congrArg String.length final
  rw [String.length_append] at lengths others
  rw [outer] at lengths
  have noRest : rest.length = 0 := by omega
  rw [final, String.length_eq_zero_iff.mp noRest, String.append_empty]

theorem append_sliceFrom (text more : String) :
    sliceFrom (text ++ more) text.length = more := by
  rw [sliceFrom, String.toList_append, ← String.length_toList, List.drop_left,
    String.ofList_toList]

/-- The state after the deltas: the count is the last one, the text is behind the last one, the
pieces of a full stream are the text, and the text is the last one if it settled. -/
structure Accumulated (acc : SGLangSseAccumulator) (deltas : List SGLangSseDelta)
    (chunks : List SGLangStreamChunk) : Prop where
  count : acc.totalTokens = lastCount deltas
  behind : ∃ more, lastText deltas = acc.text ++ more
  streamed : acc.streamAllChunks = true →
    joinStrings (chunks.map fun chunk => chunk.responseChunk) = acc.text
  settles : acc.text = lastText deltas ↔ TextSettlesWithCount deltas

section Step

variable {deltas : List SGLangSseDelta} {delta : SGLangSseDelta}

/-- A new count settles the text. -/
theorem settles_of_new_count (cumulative : Cumulative (deltas ++ [delta]))
    (changed : delta.totalCompletionTokens ≠ lastCount deltas) :
    TextSettlesWithCount (deltas ++ [delta]) := by
  refine ⟨fun other member same => ?_, fun noTokens => ?_⟩
  · rw [lastText_append]
    rw [lastCount_append] at same
    rcases List.mem_append.mp member with earlier | last
    · -- the counts lie between that of `other` and that of `delta`, which are equal
      have below := cumulative.of_append.count_le earlier
      obtain ⟨before, previous, rfl⟩ :=
        List.eq_nil_or_concat' deltas |>.resolve_left (List.ne_nil_of_mem earlier)
      have above := cumulative.last_extendedBy.2
      rw [lastCount_append] at below changed
      omega
    · rw [List.mem_singleton.mp last]
  · have own := noTokens delta (by simp)
    rcases List.eq_nil_or_concat' deltas with rfl | ⟨before, previous, rfl⟩
    · exact absurd own changed
    · rw [lastCount_append, own, noTokens previous (by simp)] at changed
      exact absurd rfl changed

/-- With the count of the delta before it, a text settles if it was settled and stays. -/
theorem settles_append_iff (same : delta.totalCompletionTokens = lastCount deltas) :
    TextSettlesWithCount (deltas ++ [delta]) ↔
      TextSettlesWithCount deltas ∧ lastText deltas = delta.text := by
  unfold TextSettlesWithCount
  rw [lastText_append, lastCount_append, same]
  constructor
  · rintro ⟨settled, empty⟩
    have stays : lastText deltas = delta.text := by
      rcases List.eq_nil_or_concat' deltas with rfl | ⟨before, previous, rfl⟩
      · refine (empty fun other member => ?_).symm
        rw [List.mem_singleton.mp member, same]
        rfl
      · rw [lastText_append]
        exact settled previous (by simp) (lastCount_append before previous).symm
    refine ⟨⟨fun other member counted => ?_, fun noTokens => ?_⟩, stays⟩
    · rw [stays]
      exact settled other (List.mem_append_left _ member) counted
    · rw [stays]
      refine empty fun other member => ?_
      rcases List.mem_append.mp member with earlier | last
      · exact noTokens other earlier
      · rw [List.mem_singleton.mp last, same]
        rcases List.eq_nil_or_concat' deltas with rfl | ⟨before, previous, rfl⟩
        · rfl
        · rw [lastCount_append]
          exact noTokens previous (by simp)
  · rintro ⟨⟨settled, empty⟩, stays⟩
    rw [← stays]
    refine ⟨fun other member counted => ?_, fun noTokens => ?_⟩
    · rcases List.mem_append.mp member with earlier | last
      · exact settled other earlier counted
      · rw [List.mem_singleton.mp last, stays]
    · exact empty fun other member => noTokens other (List.mem_append_left _ member)

end Step

namespace SGLangSseAccumulator

theorem addChunk_ignored {acc : SGLangSseAccumulator} {delta : SGLangSseDelta}
    (same : delta.totalCompletionTokens = acc.totalTokens) :
    acc.addChunk delta = (acc, none) :=
  if_pos same

/-- A delta with a new count is taken over, and a full stream gets what it adds to the text. -/
theorem addChunk_counted {acc : SGLangSseAccumulator} {delta : SGLangSseDelta} {more : String}
    (changed : delta.totalCompletionTokens ≠ acc.totalTokens)
    (extended : delta.text = acc.text ++ more) :
    (acc.addChunk delta).1.text = delta.text ∧
      (acc.addChunk delta).1.totalTokens = delta.totalCompletionTokens ∧
      (acc.streamAllChunks = true →
        joinStrings ((acc.addChunk delta).2.toList.map fun chunk => chunk.responseChunk) =
          more) := by
  have content : (if acc.text.length < delta.text.length then
      sliceFrom delta.text acc.text.length else "") = more := by
    rw [extended, append_sliceFrom, String.length_append]
    split
    · rfl
    · rename_i shorter
      exact (String.length_eq_zero_iff.mp (by omega)).symm
  unfold addChunk
  rw [if_neg changed]
  dsimp only
  rw [content]
  split
  · exact ⟨rfl, rfl, fun _ => String.append_empty⟩
  · rename_i silent
    refine ⟨rfl, rfl, fun streams => ?_⟩
    have empty : more = "" := by
      by_contra something
      exact silent ⟨something, by rw [streams]; rfl⟩
    exact empty.symm

theorem addChunk_streamAllChunks (acc : SGLangSseAccumulator) (delta : SGLangSseDelta) :
    (acc.addChunk delta).1.streamAllChunks = acc.streamAllChunks := by
  unfold addChunk
  split
  · rfl
  · dsimp only
    generalize (if acc.text.length < delta.text.length then
      sliceFrom delta.text acc.text.length else "") = contentDiff
    split <;> rfl

theorem addChunks_streamAllChunks (acc : SGLangSseAccumulator) (deltas : List SGLangSseDelta) :
    (acc.addChunks deltas).1.streamAllChunks = acc.streamAllChunks := by
  induction deltas generalizing acc with
  | nil => rfl
  | cons delta deltas ih => exact (ih _).trans (addChunk_streamAllChunks acc delta)

end SGLangSseAccumulator

/-- One more delta. -/
theorem Accumulated.addChunk {acc : SGLangSseAccumulator} {deltas : List SGLangSseDelta}
    {chunks : List SGLangStreamChunk} {delta : SGLangSseDelta}
    (accumulated : Accumulated acc deltas chunks)
    (cumulative : Cumulative (deltas ++ [delta])) :
    Accumulated (acc.addChunk delta).1 (deltas ++ [delta])
      (chunks ++ (acc.addChunk delta).2.toList) := by
  obtain ⟨rest, behind⟩ := accumulated.behind
  obtain ⟨added, extended⟩ := cumulative.extends_lastText
  by_cases same : delta.totalCompletionTokens = acc.totalTokens
  · rw [SGLangSseAccumulator.addChunk_ignored same, Option.toList_none, List.append_nil]
    rw [accumulated.count] at same
    refine ⟨?_, ?_, accumulated.streamed, ?_⟩
    · rw [accumulated.count, lastCount_append, same]
    · exact ⟨rest ++ added, by rw [lastText_append, extended, behind, String.append_assoc]⟩
    · rw [settles_append_iff same, ← accumulated.settles, lastText_append]
      constructor
      · intro reached
        have stays := eq_of_squeezed reached behind extended
        exact ⟨reached.trans stays.symm, stays⟩
      · rintro ⟨reached, stays⟩
        exact reached.trans stays
  · have whole : delta.text = acc.text ++ (rest ++ added) := by
      rw [extended, behind, String.append_assoc]
    obtain ⟨text, count, streamed⟩ := SGLangSseAccumulator.addChunk_counted same whole
    rw [accumulated.count] at same
    refine ⟨?_, ?_, fun streams => ?_, ?_⟩
    · rw [count, lastCount_append]
    · exact ⟨"", by rw [text, lastText_append, String.append_empty]⟩
    · rw [SGLangSseAccumulator.addChunk_streamAllChunks] at streams
      rw [List.map_append, FirstChunkViews.joinStrings_append, accumulated.streamed streams,
        streamed streams, text, whole]
    · rw [text, lastText_append]
      exact ⟨fun _ => settles_of_new_count cumulative same, fun _ => rfl⟩

/-- All deltas of a stream. -/
theorem Accumulated.addChunks {acc : SGLangSseAccumulator}
    {earlier deltas : List SGLangSseDelta} {chunks : List SGLangStreamChunk}
    (accumulated : Accumulated acc earlier chunks)
    (cumulative : Cumulative (earlier ++ deltas)) :
    Accumulated (acc.addChunks deltas).1 (earlier ++ deltas)
      (chunks ++ (acc.addChunks deltas).2) := by
  induction deltas generalizing acc earlier chunks with
  | nil => simpa [SGLangSseAccumulator.addChunks] using accumulated
  | cons delta deltas ih =>
      rw [List.append_cons] at cumulative ⊢
      have next := accumulated.addChunk (List.IsChain.left_of_append cumulative)
      have last := ih next cumulative
      rw [List.append_assoc chunks] at last
      exact last

theorem Accumulated.start (queryId : QueryId) (streamAllChunks : Bool) :
    Accumulated { queryId := queryId, streamAllChunks := streamAllChunks } [] [] := by
  refine ⟨rfl, ⟨"", rfl⟩, fun _ => rfl, ?_⟩
  constructor
  · intro _
    exact ⟨fun delta member => absurd member List.not_mem_nil, fun _ => rfl⟩
  · intro _
    rfl

/-- `queryId` streamed the deltas: the final output is the last text, and so are the pieces of a
full stream. -/
def CompleteOutput (queryId : QueryId) (streamAllChunks : Bool) (deltas : List SGLangSseDelta) :
    Prop :=
  let acc : SGLangSseAccumulator := { queryId := queryId, streamAllChunks := streamAllChunks }
  (acc.addChunks deltas).1.getFinalOutput.responseOutput.output = .whole (lastText deltas) ∧
    (streamAllChunks = true →
      joinStrings ((acc.addChunks deltas).2.map fun chunk => chunk.responseChunk) =
        lastText deltas)

/-- The output is complete exactly if the text does not grow after the count. -/
theorem sglang_output_complete_iff {queryId : QueryId} {streamAllChunks : Bool}
    {deltas : List SGLangSseDelta} (cumulative : Cumulative deltas) :
    CompleteOutput queryId streamAllChunks deltas ↔ TextSettlesWithCount deltas := by
  have accumulated := (Accumulated.start queryId streamAllChunks).addChunks
    ((List.nil_append deltas).symm ▸ cumulative)
  rw [List.nil_append, List.nil_append] at accumulated
  rw [← accumulated.settles]
  constructor
  · rintro ⟨output, -⟩
    exact OutputElem.whole.inj output
  · intro reached
    refine ⟨congrArg OutputElem.whole reached, fun streams => ?_⟩
    rw [← reached]
    apply accumulated.streamed
    rw [SGLangSseAccumulator.addChunks_streamAllChunks, streams]

/-- Three texts for two counts; the last text comes with its count. -/
def settledDeltas : List SGLangSseDelta :=
  [{ text := "a", tokenDelta := [7], totalCompletionTokens := 1 },
    { text := "a", totalCompletionTokens := 1 },
    { text := "abc", tokenDelta := [8, 9], totalCompletionTokens := 3 }]

theorem sglang_output_complete_settled : CompleteOutput 0 true settledDeltas := by
  refine (sglang_output_complete_iff ?_).mpr ⟨?_, ?_⟩
  · have quiet : settledDeltas[0].ExtendedBy settledDeltas[1] := ⟨⟨"", by decide⟩, by decide⟩
    have grown : settledDeltas[1].ExtendedBy settledDeltas[2] := ⟨⟨"bc", by decide⟩, by decide⟩
    exact List.isChain_cons_cons.mpr ⟨quiet, List.isChain_pair.mpr grown⟩
  · decide
  · decide

/-- The last delta adds a text and no token, and its text is lost. -/
theorem sglang_output_incomplete :
    ¬∀ (queryId : QueryId) (streamAllChunks : Bool) (deltas : List SGLangSseDelta),
      Cumulative deltas → CompleteOutput queryId streamAllChunks deltas := by
  intro complete
  have cumulative : Cumulative [{ text := "a", totalCompletionTokens := 1 },
      { text := "ab", totalCompletionTokens := 1 }] :=
    List.isChain_pair.mpr ⟨⟨"b", by decide⟩, by decide⟩
  have lost := (complete 0 true _ cumulative).1
  revert lost
  decide

end Sglang

end InferenceEndpoint
