import InferenceEndpoint.Core.Types
import InferenceEndpoint.EndpointClient.Http
import InferenceEndpoint.Library.DelimitedReads

/-!
# SSE streams

The worker cuts a streamed body at blank lines, finds the JSON documents of the data fields
with a regular expression, and hands their chunks to the accumulator.  A body of frames gives
the same chunks for every way in which the network splits it.
-/

namespace InferenceEndpoint

namespace SseStream

open DelimitedReads

def newline : UInt8 := 10

def openBrace : UInt8 := 123

def closeBrace : UInt8 := 125

/-- `\s` in a pattern of bytes. -/
def isSpace (byte : UInt8) : Bool :=
  byte = 32 || (9 ≤ byte && byte ≤ 13)

/-- `data:`. -/
def dataField : Bytes :=
  [100, 97, 116, 97, 58]

/-- `b"\n\n"`. -/
def blankLine : Bytes :=
  [newline, newline]

/-! ## Documents -/

/-- A match of `\{[^\n]+\}` at the start of a text, and what follows: the last brace of the
line closes the document. -/
def documentAt : Bytes → Option (Bytes × Bytes)
  | [] => none
  | byte :: text =>
      if byte = openBrace then
        match splitLast [closeBrace] (text.takeWhile (· ≠ newline)) with
        | some (inside, after) =>
            if inside.isEmpty then none
            else some (openBrace :: inside ++ [closeBrace],
              after ++ text.dropWhile (· ≠ newline))
        | none => none
      else none

/-- A match of `SSE_DATA_PATTERN` at the start of a text. -/
def matchAt (text : Bytes) : Option (Bytes × Bytes) :=
  (stripStart dataField text).bind fun rest => documentAt (rest.dropWhile isSpace)

def findDocuments : Nat → Bytes → List Bytes
  | 0, _ => []
  | _ + 1, [] => []
  | fuel + 1, byte :: text =>
      match matchAt (byte :: text) with
      | some (document, rest) => document :: findDocuments fuel rest
      | none => findDocuments fuel text

/-- `SSE_DATA_PATTERN.findall`. -/
def findAll (text : Bytes) : List Bytes :=
  findDocuments text.length text

section

variable {Chunk : Type} (decode : Bytes → Option (Option Chunk))

/-- The chunks of the documents up to one that does not decode; `decode` is
`decode_sse_message`, `none` its decoding errors. -/
def decodeAll : List Bytes → List Chunk
  | [] => []
  | document :: documents =>
      match decode document with
      | none => []
      | some content => content.toList ++ decodeAll documents

/-- `parse_sse_chunk` of a buffer up to its end position. -/
def parseSseChunk (text : Bytes) : List Chunk :=
  decodeAll decode (findAll text)

/-- `_iter_sse_lines` on the lists of chunks that `iter_body` yields. -/
def iterSseLines (reads : List (List Bytes)) : List (List Chunk) :=
  batches blankLine (parseSseChunk decode) [] (reads.map List.flatten)

end

/-- `_handle_streaming_body`: what is sent for the batches, and the accumulator. -/
def accumulate {Chunk Acc : Type} (addChunk : Acc → Chunk → Acc × Option StreamChunk) (acc : Acc)
    (chunkBatches : List (List Chunk)) : Acc × List StreamChunk :=
  chunkBatches.foldl (fun state chunkBatch => chunkBatch.foldl (fun state delta =>
    let (next, sent) := addChunk state.1 delta
    (next, state.2 ++ sent.toList)) state) (acc, [])

/-! ## Frames -/

/-- A line of a frame starts with a field name or, in a comment, with a colon. -/
structure FieldLine where
  first : UInt8
  rest : Bytes
  noNewline : newline ∉ first :: rest
  notSpace : isSpace first = false
  notBrace : first ≠ openBrace

/-- The lines end with a line feed, with or without a carriage return. -/
structure Frame where
  lines : List FieldLine
  carriageReturn : Bool := false

def Frame.ending (frame : Frame) : Bytes :=
  if frame.carriageReturn then [13, newline] else [newline]

/-- The lines and the blank line after them. -/
def Frame.encode (frame : Frame) : Bytes :=
  frame.lines.flatMap (fun line => line.first :: line.rest ++ frame.ending) ++ frame.ending

def encodeFrames (frames : List Frame) : Bytes :=
  frames.flatMap Frame.encode

/-! ## Cutting at blank lines -/

/-- After white space no document starts. -/
def NoDocument (text : Bytes) : Prop :=
  (text.dropWhile isSpace).head? ≠ some openBrace

theorem length_documentAt {text document rest : Bytes}
    (found : documentAt text = some (document, rest)) : rest.length < text.length := by
  cases text with
  | nil => simp [documentAt] at found
  | cons byte text =>
      simp only [documentAt] at found
      split at found
      · split at found
        · rename_i inside after split
          split at found
          · simp at found
          · obtain ⟨-, rfl⟩ := Prod.mk.inj (Option.some.inj found)
            have parts := congrArg List.length (splitLast_eq_some split)
            have whole := congrArg List.length
              (List.takeWhile_append_dropWhile (p := (· ≠ newline)) (l := text))
            simp only [List.length_append, List.length_cons, List.length_nil] at parts whole ⊢
            omega
        · simp at found
      · simp at found

theorem length_matchAt {text document rest : Bytes}
    (found : matchAt text = some (document, rest)) : rest.length < text.length := by
  obtain ⟨afterField, stripped, document⟩ := Option.bind_eq_some_iff.mp found
  have shorter := length_documentAt document
  have field := congrArg List.length (stripStart_eq_some.mp stripped)
  have trimmed := (List.dropWhile_sublist isSpace (l := afterField)).length_le
  rw [List.length_append] at field
  omega

theorem findDocuments_congr {text : Bytes} {first second : Nat} (one : text.length ≤ first)
    (two : text.length ≤ second) : findDocuments first text = findDocuments second text := by
  induction first generalizing second text with
  | zero =>
      obtain rfl := List.length_eq_zero_iff.mp (Nat.le_zero.mp one)
      cases second <;> rfl
  | succ first ih =>
      cases text with
      | nil => cases second <;> rfl
      | cons byte text =>
          cases second with
          | zero => simp at two
          | succ second =>
              simp only [List.length_cons, Nat.add_le_add_iff_right] at one two
              simp only [findDocuments]
              cases found : matchAt (byte :: text) with
              | none => exact ih one two
              | some pair =>
                  have shorter := length_matchAt (show matchAt _ = some (pair.1, pair.2) from found)
                  rw [List.length_cons] at shorter
                  exact congrArg _ (ih (by omega) (by omega))

theorem findAll_cons (byte : UInt8) (text : Bytes) :
    findAll (byte :: text) =
      match matchAt (byte :: text) with
      | some (document, rest) => document :: findAll rest
      | none => findAll text := by
  rw [findAll, List.length_cons, findDocuments]
  cases found : matchAt (byte :: text) with
  | none => rfl
  | some pair =>
      have shorter := length_matchAt (show matchAt _ = some (pair.1, pair.2) from found)
      rw [List.length_cons] at shorter
      exact congrArg _ (findDocuments_congr (by omega) le_rfl)

theorem documentAt_eq_none {text : Bytes} (head : text.head? ≠ some openBrace) :
    documentAt text = none := by
  cases text with
  | nil => rfl
  | cons byte text =>
      have different : byte ≠ openBrace := fun same => head (by rw [same]; rfl)
      simp [documentAt, different]

theorem documentAt_append (byte : UInt8) (text rest : Bytes) :
    documentAt (byte :: text ++ newline :: rest) =
      (documentAt (byte :: text)).map fun found => (found.1, found.2 ++ newline :: rest) := by
  have line : (text ++ newline :: rest).takeWhile (· ≠ newline) =
      text.takeWhile (· ≠ newline) := by
    rw [List.takeWhile_append]
    split
    · rename_i full
      rw [List.takeWhile_cons_of_neg (by simp), List.append_nil]
      exact ((List.takeWhile_prefix _).eq_of_length full).symm
    · rfl
  have after : (text ++ newline :: rest).dropWhile (· ≠ newline) =
      text.dropWhile (· ≠ newline) ++ newline :: rest := by
    rw [List.dropWhile_append]
    split
    · rename_i empty
      rw [List.isEmpty_iff.mp empty, List.dropWhile_cons_of_neg (by simp)]
      rfl
    · rfl
  rw [List.cons_append, documentAt, documentAt]
  split
  · rw [line, after]
    cases splitLast [closeBrace] (text.takeWhile (· ≠ newline)) with
    | none => rfl
    | some pair =>
        obtain ⟨inside, behind⟩ := pair
        dsimp only
        split
        · rfl
        · simp
  · rfl

/-- Whether a document starts here does not depend on what follows a line feed before which
no document starts. -/
theorem matchAt_append {rest : Bytes} (noDocument : NoDocument rest) (text : Bytes) :
    matchAt (text ++ newline :: rest) =
      (matchAt text).map fun found => (found.1, found.2 ++ newline :: rest) := by
  rw [matchAt, matchAt, stripStart_append (by decide)]
  cases stripStart dataField text with
  | none => rfl
  | some afterField =>
      simp only [Option.map_some, Option.bind_some]
      rw [List.dropWhile_append]
      cases trimmed : afterField.dropWhile isSpace with
      | nil =>
          have head : ((newline :: rest).dropWhile isSpace).head? ≠ some openBrace := by
            rw [List.dropWhile_cons_of_pos (by decide)]
            exact noDocument
          simp only [List.isEmpty_nil, if_true]
          rw [documentAt_eq_none head]
          rfl
      | cons byte text =>
          simpa using documentAt_append byte text rest

theorem findAll_append {rest : Bytes} (noDocument : NoDocument rest) (text : Bytes) :
    findAll (text ++ newline :: rest) = findAll text ++ findAll rest := by
  induction size : text.length using Nat.strong_induction_on generalizing text with
  | _ size ih =>
      subst size
      cases text with
      | nil =>
          have nothing : matchAt (newline :: rest) = none := rfl
          rw [List.nil_append, findAll_cons, nothing]
          rfl
      | cons byte text =>
          rw [List.cons_append, findAll_cons, findAll_cons, ← List.cons_append,
            matchAt_append noDocument]
          cases found : matchAt (byte :: text) with
          | none => exact ih text.length (by simp) text rfl
          | some pair =>
              have shorter := length_matchAt (show matchAt _ = some (pair.1, pair.2) from found)
              exact congrArg _ (ih pair.2.length shorter pair.2 rfl)

/-! ## Well-formed bodies -/

/-- No document starts behind a line feed. -/
def Divided (text : Bytes) : Prop :=
  ∀ before after, text = before ++ newline :: after → NoDocument after

theorem NoDocument.of_append {first second : Bytes} (noDocument : NoDocument (first ++ second)) :
    NoDocument first := by
  rw [NoDocument, List.dropWhile_append] at noDocument
  rw [NoDocument]
  split at noDocument
  · rename_i empty
    rw [List.isEmpty_iff.mp empty]
    simp
  · rename_i nonempty
    cases trimmed : first.dropWhile isSpace with
    | nil => simp
    | cons byte text => simpa [trimmed] using noDocument

theorem Divided.left {first second : Bytes} (divided : Divided (first ++ second)) :
    Divided first := by
  rintro before after rfl
  exact (divided before (after ++ second) (by simp)).of_append

theorem Divided.right {first second : Bytes} (divided : Divided (first ++ second)) :
    Divided second := by
  rintro before after rfl
  exact divided (first ++ before) after (by simp)

theorem Divided.findAll_append {first second : Bytes}
    (divided : Divided (first ++ newline :: second)) :
    findAll (first ++ newline :: second) = findAll first ++ findAll second :=
  SseStream.findAll_append (divided first second rfl) first

theorem Divided.findAll_blankLine {first second : Bytes}
    (divided : Divided (first ++ blankLine ++ second)) :
    findAll (first ++ blankLine ++ second) = findAll first ++ findAll second := by
  have cut : first ++ blankLine ++ second = first ++ newline :: (newline :: second) := by
    simp [blankLine]
  rw [cut] at divided ⊢
  have rest : Divided ([] ++ newline :: second) := by
    intro before after same
    exact divided (first ++ newline :: before) after (by simp [← same])
  rw [divided.findAll_append, ← List.nil_append (newline :: second), rest.findAll_append]
  rfl

theorem divided_append {bytes rest : Bytes} (absent : newline ∉ bytes) (divided : Divided rest) :
    Divided (bytes ++ rest) := by
  intro before after cut
  induction bytes generalizing before with
  | nil => exact divided before after cut
  | cons byte bytes ih =>
      simp only [List.mem_cons, not_or] at absent
      cases before with
      | nil => exact absurd (List.cons.inj cut).1.symm absent.1
      | cons head before => exact ih absent.2 before (List.cons.inj cut).2

theorem divided_newline {rest : Bytes} (noDocument : NoDocument rest) (divided : Divided rest) :
    Divided (newline :: rest) := by
  intro before after cut
  cases before with
  | nil =>
      obtain ⟨-, rfl⟩ := List.cons.inj cut
      exact noDocument
  | cons head before => exact divided before after (List.cons.inj cut).2

/-- What every rest of a body of frames keeps. -/
def Framed (text : Bytes) : Prop :=
  NoDocument text ∧ Divided text

theorem Framed.ending {rest : Bytes} (framed : Framed rest) (frame : Frame) :
    Framed (frame.ending ++ rest) := by
  have line : Framed (newline :: rest) := by
    refine ⟨?_, divided_newline framed.1 framed.2⟩
    rw [NoDocument, List.dropWhile_cons_of_pos (by decide)]
    exact framed.1
  rw [Frame.ending]
  split
  · have carriageReturn : newline ∉ [(13 : UInt8)] := by decide
    refine ⟨?_, show Divided ([13] ++ newline :: rest) from
      divided_append carriageReturn line.2⟩
    rw [NoDocument, List.cons_append, List.dropWhile_cons_of_pos (by decide)]
    exact line.1
  · exact line

theorem Framed.line {rest : Bytes} (framed : Framed rest) (line : FieldLine) :
    Framed (line.first :: line.rest ++ rest) := by
  refine ⟨?_, divided_append line.noNewline framed.2⟩
  rw [NoDocument, List.cons_append, List.dropWhile_cons_of_neg (by simp [line.notSpace])]
  simpa using line.notBrace

theorem Framed.encode {rest : Bytes} (framed : Framed rest) (frame : Frame) :
    Framed (frame.encode ++ rest) := by
  have lines : ∀ lines : List FieldLine,
      Framed (lines.flatMap (fun line => line.first :: line.rest ++ frame.ending) ++
        (frame.ending ++ rest)) := by
    intro lines
    induction lines with
    | nil => exact framed.ending frame
    | cons line lines ih =>
        have next := (ih.ending frame).line line
        simpa using next
  simpa [Frame.encode] using lines frame.lines

theorem framed_encodeFrames (frames : List Frame) : Framed (encodeFrames frames) := by
  induction frames with
  | nil => exact ⟨by simp [NoDocument, encodeFrames], by simp [Divided, encodeFrames]⟩
  | cons frame frames ih => exact ih.encode frame

/-! ## Reads -/

section

variable {Chunk : Type} {decode : Bytes → Option (Option Chunk)}

/-- Every document decodes. -/
def AllDecode (decode : Bytes → Option (Option Chunk)) (documents : List Bytes) : Prop :=
  ∀ document ∈ documents, decode document ≠ none

theorem decodeAll_append (first second : List Bytes) :
    (AllDecode decode first ∧
        decodeAll decode (first ++ second) = decodeAll decode first ++ decodeAll decode second) ∨
      (¬ AllDecode decode first ∧
        decodeAll decode (first ++ second) = decodeAll decode first) := by
  induction first with
  | nil => exact Or.inl ⟨nofun, rfl⟩
  | cons document first ih =>
      cases decoded : decode document with
      | none =>
          refine Or.inr ⟨fun all => all document List.mem_cons_self decoded, ?_⟩
          simp [decodeAll, decoded]
      | some content =>
          have here : AllDecode decode (document :: first) ↔ AllDecode decode first := by
            simp [AllDecode, decoded]
          rw [here]
          simpa [decodeAll, decoded] using ih

theorem decodeAll_append_of_all {first : List Bytes} (all : AllDecode decode first)
    (second : List Bytes) :
    decodeAll decode (first ++ second) = decodeAll decode first ++ decodeAll decode second :=
  (decodeAll_append first second).elim And.right fun not => absurd all not.1

theorem parseSseChunk_nil : parseSseChunk decode [] = [] :=
  rfl

/-- The documents of a body are those of its frames. -/
theorem findAll_encodeFrames (frames : List Frame) :
    findAll (encodeFrames frames) = frames.flatMap fun frame => findAll frame.encode := by
  induction frames with
  | nil => rfl
  | cons frame frames ih =>
      obtain ⟨start, encoded⟩ : ∃ start, frame.encode = start ++ [newline] := by
        rw [Frame.encode, Frame.ending]
        split
        · exact ⟨_ ++ [13], by rw [List.append_assoc]; rfl⟩
        · exact ⟨_, rfl⟩
      have alone : findAll (start ++ [newline]) = findAll start := by
        have noDocument : NoDocument [] := by simp [NoDocument]
        rw [findAll_append noDocument start]
        exact List.append_nil _
      have whole : encodeFrames (frame :: frames) =
          start ++ newline :: encodeFrames frames := by
        simp [encodeFrames, encoded]
      rw [whole, findAll_append (framed_encodeFrames frames).1, List.flatMap_cons, encoded,
        alone, ih]

/-- A rest of a body whose documents all decode. -/
def Decodes (decode : Bytes → Option (Option Chunk)) (text : Bytes) : Prop :=
  Divided text ∧ AllDecode decode (findAll text)

/-- Where all documents decode, the chunks of the reads are those of the body parsed at once,
and the accumulator ends in the same state and sends the same chunks. -/
theorem iterSseLines_eq_parse {Acc : Type} (addChunk : Acc → Chunk → Acc × Option StreamChunk)
    (acc : Acc) {frames : List Frame}
    (decodes : ∀ frame ∈ frames, AllDecode decode (findAll frame.encode))
    {reads : List (List Bytes)} (body : reads.flatten.flatten = encodeFrames frames) :
    (iterSseLines decode reads).flatten = parseSseChunk decode (encodeFrames frames) ∧
      accumulate addChunk acc (iterSseLines decode reads) =
        accumulate addChunk acc [parseSseChunk decode (encodeFrames frames)] := by
  have all : AllDecode decode (findAll (encodeFrames frames)) := by
    rw [findAll_encodeFrames]
    intro document member
    obtain ⟨frame, inFrames, inFrame⟩ := List.mem_flatMap.mp member
    exact decodes frame inFrames document inFrame
  have joined : [] ++ (reads.map List.flatten).flatten = encodeFrames frames := by
    rw [List.nil_append, ← List.flatten_flatten, body]
  have divide : ∀ before after, Decodes decode (before ++ blankLine ++ after) →
      Decodes decode after ∧ parseSseChunk decode (before ++ blankLine ++ after) =
        parseSseChunk decode before ++ parseSseChunk decode after := by
    rintro before after ⟨divided, decodes⟩
    rw [divided.findAll_blankLine] at decodes
    refine ⟨⟨divided.right, fun document member =>
      decodes document (List.mem_append_right _ member)⟩, ?_⟩
    rw [parseSseChunk, divided.findAll_blankLine]
    exact decodeAll_append_of_all
      (fun document member => decodes document (List.mem_append_left _ member)) _
  have chunks : (iterSseLines decode reads).flatten =
      parseSseChunk decode (encodeFrames frames) := by
    rw [← joined, iterSseLines]
    apply flatten_batches (by decide) parseSseChunk_nil (fun _ _ => rfl) divide rfl
    rw [joined]
    exact ⟨(framed_encodeFrames frames).2, all⟩
  refine ⟨chunks, ?_⟩
  rw [accumulate, accumulate, ← List.foldl_flatten, ← List.foldl_flatten, chunks,
    List.flatten_singleton]

/-- The line `data: {c}` for a byte `c`. -/
def dataLine (content : UInt8) (plain : content ≠ newline) : FieldLine where
  first := 100
  rest := [97, 116, 97, 58, 32, openBrace, content, closeBrace]
  noNewline := by
    have different : ¬ 10 = content := Ne.symm plain
    simp [newline, openBrace, closeBrace, different]
  notSpace := rfl
  notBrace := by decide

/-- Only `{1}` and `{2}` decode, the latter to no chunk. -/
def decodeDigit (document : Bytes) : Option (Option UInt8) :=
  if document = [openBrace, 49, closeBrace] then some (some 49)
  else if document = [openBrace, 50, closeBrace] then some none
  else none

/-- Two frames, read in three pieces: the second piece starts inside a document and ends
between the line feeds of a blank line. -/
theorem iterSseLines_eq_parse_split :
    let one := dataLine 49 (by decide)
    let two := dataLine 50 (by decide)
    (iterSseLines decodeDigit [[one.first :: one.rest.take 6],
      [one.rest.drop 6 ++ [newline], newline :: two.first :: two.rest ++ [newline]],
      [[newline], one.first :: one.rest ++ [13, newline, 13, newline]]]).flatten = [49, 49] := by
  have decodes : ∀ frame ∈ [(⟨[dataLine 49 (by decide)], false⟩ : Frame),
      ⟨[dataLine 50 (by decide)], false⟩, ⟨[dataLine 49 (by decide)], true⟩],
      AllDecode decodeDigit (findAll frame.encode) := by
    simp only [AllDecode]
    decide
  exact (iterSseLines_eq_parse (fun (acc : Unit) _ => (acc, none)) () decodes rfl).1.trans rfl

/-! ## Malformed frames -/

/-- What one read of the whole text gives. -/
def parseAtOnce (decode : Bytes → Option (Option Chunk)) (text : Bytes) : List Chunk :=
  match splitLast blankLine text with
  | some (before, after) => parseSseChunk decode before ++ parseSseChunk decode after
  | none => parseSseChunk decode text

/-- A malformed document before a blank line is followed by no chunk up to another one. -/
def Settled (decode : Bytes → Option (Option Chunk)) (text : Bytes) : Prop :=
  ∀ before between after, text = before ++ blankLine ++ between ++ blankLine ++ after →
    AllDecode decode (findAll before) ∨ parseSseChunk decode between = []

/-- A rest of a body of which all ways of reading it give the same chunks. -/
def Cuttable (decode : Bytes → Option (Option Chunk)) (text : Bytes) : Prop :=
  Divided text ∧ Settled decode text

theorem Settled.right {before after : Bytes}
    (settled : Settled decode (before ++ blankLine ++ after))
    (divided : Divided (before ++ blankLine ++ after)) : Settled decode after := by
  rintro first between last rfl
  have cut : before ++ blankLine ++ (first ++ blankLine ++ between ++ blankLine ++ last) =
      (before ++ blankLine ++ first) ++ blankLine ++ between ++ blankLine ++ last := by
    simp
  refine (settled _ between last cut).imp_left fun all document member => all document ?_
  rw [cut, List.append_assoc _ blankLine last, List.append_assoc _ between,
    List.append_assoc _ blankLine] at divided
  rw [divided.left.findAll_blankLine]
  exact List.mem_append_right _ member

/-- A text without a blank line, behind one: a line feed at its start moves the last place. -/
theorem splitLast_blankLine {text : Bytes} (unfinished : splitLast blankLine text = none) :
    splitLast blankLine (blankLine ++ text) = some ([], text) ∨
      ∃ rest, text = newline :: rest ∧
        splitLast blankLine (blankLine ++ text) = some ([newline], rest) := by
  have one : splitLast blankLine (newline :: text) =
      (stripStart [newline] text).map fun rest => ([], rest) := by
    rw [splitLast, unfinished]
    rfl
  have two : splitLast blankLine (newline :: newline :: text) =
      match splitLast blankLine (newline :: text) with
      | some (before, after) => some (newline :: before, after)
      | none => some ([], text) := by
    have stripped : stripStart blankLine (newline :: newline :: text) = some text :=
      stripStart_eq_some.mpr rfl
    rw [splitLast, stripped]
    cases splitLast blankLine (newline :: text) <;> rfl
  rw [one] at two
  cases stripped : stripStart [newline] text with
  | none => exact Or.inl (by simpa [blankLine, stripped] using two)
  | some rest =>
      refine Or.inr ⟨rest, stripStart_eq_some.mp stripped, ?_⟩
      simpa [blankLine, stripped] using two

/-- A settled text can be cut at every blank line. -/
theorem parseAtOnce_append {before after : Bytes}
    (settled : Settled decode (before ++ blankLine ++ after))
    (divided : Divided (before ++ blankLine ++ after)) :
    parseAtOnce decode (before ++ blankLine ++ after) =
      parseSseChunk decode before ++ parseAtOnce decode after := by
  rw [List.append_assoc] at settled divided ⊢
  cases split : splitLast blankLine after with
  | some pair =>
      obtain ⟨between, last⟩ := pair
      have parts := splitLast_eq_some split
      have whole := splitLast_append (splitLast_append split blankLine) before
      rw [parseAtOnce, parseAtOnce, whole, split]
      dsimp only
      rw [← List.append_assoc (parseSseChunk decode before)]
      congr 1
      have cut : before ++ (blankLine ++ after) =
          before ++ blankLine ++ between ++ blankLine ++ last := by
        simp [parts]
      have divided : Divided (before ++ blankLine ++ between) := by
        rw [cut, List.append_assoc _ blankLine last] at divided
        exact divided.left
      rw [← List.append_assoc before, parseSseChunk, divided.findAll_blankLine]
      rcases decodeAll_append (findAll before) (findAll between) with
        ⟨-, both⟩ | ⟨malformed, first⟩
      · exact both
      · have nothing := (settled before between last cut).resolve_left malformed
        rw [first, nothing, List.append_nil]
        rfl
  | none =>
      have alone : parseAtOnce decode after = parseSseChunk decode after := by
        rw [parseAtOnce, split]
      rw [alone]
      rcases splitLast_blankLine split with first | ⟨rest, rfl, moved⟩
      · rw [parseAtOnce, splitLast_append first before, List.append_nil]
      · rw [parseAtOnce, splitLast_append moved before]
        have start : findAll (before ++ [newline]) = findAll before := by
          have divided : Divided (before ++ newline :: []) := by
            rw [show before ++ (blankLine ++ newline :: rest) =
              (before ++ newline :: []) ++ newline :: newline :: rest by simp [blankLine]]
              at divided
            exact divided.left
          rw [divided.findAll_append]
          exact List.append_nil _
        have last : findAll (newline :: rest) = findAll rest := by
          have divided : Divided ([] ++ newline :: rest) := by
            rw [← List.append_assoc] at divided
            exact divided.right
          exact divided.findAll_append
        simp only [parseSseChunk, start, last]

end

end SseStream

end InferenceEndpoint
