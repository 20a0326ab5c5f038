import InferenceEndpoint.Library.RegexEnds
import InferenceEndpoint.LoadGenerator.Instances

/-!
# Repeat suffixes of conversation ids

The load generator writes the number of a repeat behind the id of the conversation, and
the inline scorer reads both back from the event log.  It reads what was written exactly
for the datasets of which no conversation id ends like the id of a repeat.
-/

namespace InferenceEndpoint

/-- The checks of `_validate_conversation_grouping` on one conversation id. -/
def acceptedId (conversationId : String) : Bool :=
  conversationId ≠ "" && conversationId ≠ "nan" &&
    conversationId.toList.all fun char => 32 ≤ char.toNat && char.toNat ≤ 126

namespace AgenticInferenceInlineScorer

/-- `_REPEAT_SUFFIX_RE`, on ids without characters beyond ASCII. -/
def repeatSuffixRe : Regex :=
  .seq (.literal "__repeat_") (.seq (.group 1 (.plus (.char Char.isDigit))) .textEnd)

/-- The conversation and the number of the repeat that an id of the event log names. -/
def splitRepeat (conversationId : String) : String × Nat :=
  match repeatSuffixRe.search conversationId.toList with
  | none => (conversationId, 1)
  | some found =>
      (String.ofList (conversationId.toList.take found.start),
        Nat.ofDigitChars 10 (found.group 1) 0)

/-- The key that a record of a turn is filed under, if the turn is expected. -/
def turnKey (expectedKeys : List (String × Nat)) (conversationId : String) (turn : Nat) :
    Option (String × Nat × Nat) :=
  let (sourceId, repeatId) := splitRepeat conversationId
  if (sourceId, turn) ∈ expectedKeys then some (sourceId, repeatId, turn) else none

end AgenticInferenceInlineScorer

/-- The id ends like that of a repeat. -/
def EndsInRepeat (conversationId : String) : Prop :=
  ∃ base digits : List Char, digits ≠ [] ∧ digits.all Char.isDigit = true ∧
    conversationId.toList = base ++ "__repeat_".toList ++ digits

/-! ## Reading a suffix -/

theorem not_mem_of_digits {digits : List Char} (numeric : digits.all Char.isDigit = true)
    {char : Char} (other : char.isDigit = false) : char ∉ digits := by
  intro member
  have digit := List.all_eq_true.mp numeric char member
  rw [other] at digit
  cases digit

/-- A text ends in one suffix at most. -/
theorem repeatSuffix_unique {first second firstDigits secondDigits : List Char}
    (firstNumeric : firstDigits.all Char.isDigit = true)
    (secondNumeric : secondDigits.all Char.isDigit = true)
    (same : first ++ "__repeat_".toList ++ firstDigits =
      second ++ "__repeat_".toList ++ secondDigits) :
    first = second ∧ firstDigits = secondDigits := by
  have split : ∀ base digits : List Char, base ++ "__repeat_".toList ++ digits =
      (base ++ "__repeat".toList) ++ '_' :: digits := by
    intro base digits
    simp
  rw [split, split] at same
  have reversed := congrArg List.reverse same
  simp only [List.reverse_append, List.reverse_cons, List.append_assoc,
    List.singleton_append] at reversed
  obtain ⟨digits, bases⟩ := append_cons_split
    (by simpa using not_mem_of_digits firstNumeric (by decide))
    (by simpa using not_mem_of_digits secondNumeric (by decide)) reversed
  exact ⟨List.reverse_injective (List.append_cancel_left bases), List.reverse_injective digits⟩

namespace AgenticInferenceInlineScorer

open Regex

theorem ends_repeatSuffixRe (place : Place) (plain : '\n' ∉ place.after) :
    repeatSuffixRe.ends place =
      if "__repeat_".toList <+: place.after ∧ place.after.drop 9 ≠ [] ∧
          (place.after.drop 9).all Char.isDigit = true then
        [{ (place.skip 9).skip (place.after.drop 9).length with
            groups := (1, place.after.drop 9) :: place.groups }]
      else [] := by
  have parts : repeatSuffixRe.ends place = ((literal "__repeat_").ends place).flatMap fun last =>
      ((group 1 (plus (char Char.isDigit))).ends last).filter atTextEnd := by
    unfold repeatSuffixRe textEnd
    rw [ends]
    congr 1
    funext last
    exact ends_seq_check _ _ last
  rw [parts, ends_literal]
  by_cases begins : "__repeat_".toList <+: place.after
  · have below : '\n' ∉ (place.skip 9).after := fun member => plain (List.mem_of_mem_drop member)
    rw [if_pos begins]
    change [place.skip 9].flatMap _ = _
    rw [List.flatMap_singleton, ends_group_textEnd, ends_plus_textEnd Char.isDigit below]
    have after : (place.skip 9).after = place.after.drop 9 := rfl
    rw [after]
    by_cases numeric : place.after.drop 9 ≠ [] ∧ (place.after.drop 9).all Char.isDigit = true
    · rw [if_pos numeric, if_pos ⟨begins, numeric⟩]
      have whole : (place.after.drop 9).take ((place.after.drop 9).length -
          ((place.skip 9).skip (place.after.drop 9).length).after.length) =
            place.after.drop 9 := by
        apply List.take_of_length_le
        simp only [Place.skip, List.length_drop]
        omega
      rw [List.map_singleton, whole]
      rfl
    · rw [if_neg numeric, if_neg fun all => numeric all.2]
      rfl
  · rw [if_neg begins, if_neg fun all => begins all.1]
    rfl

/-- What follows the place is a suffix. -/
theorem matchAt_suffix {place : Place} {digits : List Char}
    (after : place.after = "__repeat_".toList ++ digits) (some : digits ≠ [])
    (numeric : digits.all Char.isDigit = true) :
    ∃ last, repeatSuffixRe.matchAt place = Option.some ⟨place, last⟩ ∧
      last.captured 1 = Option.some digits := by
  have plain : '\n' ∉ place.after := by
    rw [after]
    intro member
    rcases List.mem_append.mp member with separator | digit
    · exact absurd separator (by decide)
    · exact not_mem_of_digits numeric (by decide) digit
  have drop : place.after.drop 9 = digits := by
    rw [after]
    exact List.drop_left' rfl
  unfold matchAt
  rw [ends_repeatSuffixRe place plain, drop,
    if_pos ⟨after ▸ List.prefix_append _ _, some, numeric⟩]
  exact ⟨_, rfl, by simp [Place.captured]⟩

/-- What follows the place is not a suffix. -/
theorem matchAt_none {place : Place} (plain : '\n' ∉ place.after)
    (none_ : ∀ digits : List Char, digits ≠ [] → digits.all Char.isDigit = true →
      place.after ≠ "__repeat_".toList ++ digits) : repeatSuffixRe.matchAt place = none := by
  unfold matchAt
  rw [ends_repeatSuffixRe place plain, if_neg]
  · rfl
  · rintro ⟨⟨digits, after⟩, some, numeric⟩
    have drop : place.after.drop 9 = digits := by
      rw [← after]
      exact List.drop_left' rfl
    rw [drop] at some numeric
    exact none_ digits some numeric after.symm

/-- The search finds the suffix behind the base. -/
theorem searchFrom_suffix {base digits : List Char} (some : digits ≠ [])
    (numeric : digits.all Char.isDigit = true) (plain : '\n' ∉ base) (place : Place)
    (after : place.after = base ++ "__repeat_".toList ++ digits) (fuel : Nat)
    (enough : base.length < fuel) :
    ∃ found, repeatSuffixRe.searchFrom fuel place = Option.some found ∧
      found.start = place.before.length + base.length ∧ found.group 1 = digits := by
  induction base generalizing place fuel with
  | nil =>
      obtain ⟨last, matched, captured⟩ := matchAt_suffix (by simpa using after) some numeric
      obtain ⟨fuel, rfl⟩ := Nat.exists_eq_add_of_lt enough
      refine ⟨⟨place, last⟩, ?_, rfl, by simp [Match.group, captured]⟩
      rw [searchFrom, matched]
  | cons head tail ih =>
      cases fuel with
      | zero => exact absurd enough (Nat.not_lt_zero _)
      | succ fuel =>
          have unmatched : repeatSuffixRe.matchAt place = none := by
            apply matchAt_none
            · rw [after]
              intro member
              rcases List.mem_append.mp member with member | digit
              · rcases List.mem_append.mp member with inBase | separator
                · exact plain inBase
                · exact absurd separator (by decide)
              · exact not_mem_of_digits numeric (by decide) digit
            · intro others _ othersNumeric same
              have split : head :: tail ++ "__repeat_".toList ++ digits =
                  [] ++ "__repeat_".toList ++ others := after.symm.trans same
              cases (repeatSuffix_unique numeric othersNumeric split).1
          let later : Place :=
            { place with
              before := head :: place.before
              after := tail ++ "__repeat_".toList ++ digits }
          have next : place.next? = Option.some later := by
            simp [Place.next?, after, later]
          obtain ⟨found, search, start, captured⟩ :=
            ih (fun member => plain (List.mem_cons_of_mem head member)) later rfl fuel
              (Nat.lt_of_succ_lt_succ enough)
          refine ⟨found, ?_, ?_, captured⟩
          · rw [searchFrom, unmatched, next]
            exact search
          · rw [start]
            simp only [later, List.length_cons]
            omega

/-- Without a suffix the search finds nothing. -/
theorem searchFrom_none (place : Place) (plain : '\n' ∉ place.after)
    (none_ : ∀ base digits : List Char, digits ≠ [] → digits.all Char.isDigit = true →
      place.after ≠ base ++ "__repeat_".toList ++ digits) (fuel : Nat) :
    repeatSuffixRe.searchFrom fuel place = none := by
  induction fuel generalizing place with
  | zero => rfl
  | succ fuel ih =>
      rw [searchFrom, matchAt_none plain fun digits some numeric => none_ [] digits some numeric]
      cases after : place.after with
      | nil => simp [Place.next?, after]
      | cons head tail =>
          have next : place.next? =
              some { place with before := head :: place.before, after := tail } := by
            simp [Place.next?, after]
          rw [next]
          refine ih _ (fun member => plain (after ▸ List.mem_cons_of_mem head member)) ?_
          intro base digits some numeric same
          refine none_ (head :: base) digits some numeric ?_
          rw [after]
          simpa using same

theorem not_newline_of_accepted {conversationId : String}
    (accepted : acceptedId conversationId = true) : '\n' ∉ conversationId.toList := by
  intro member
  simp only [acceptedId, Bool.and_eq_true, List.all_eq_true] at accepted
  exact absurd (accepted.2 '\n' member) (by decide)

/-- An id with a suffix is split behind its base. -/
theorem splitRepeat_suffix {conversationId : String} {base digits : List Char}
    (some : digits ≠ []) (numeric : digits.all Char.isDigit = true) (plain : '\n' ∉ base)
    (same : conversationId.toList = base ++ "__repeat_".toList ++ digits) :
    splitRepeat conversationId = (String.ofList base, Nat.ofDigitChars 10 digits 0) := by
  obtain ⟨found, search, start, captured⟩ := searchFrom_suffix some numeric plain
    (.start conversationId.toList) same (conversationId.toList.length + 1) (by
      rw [same]
      simp only [List.length_append]
      omega)
  have isFound : repeatSuffixRe.search conversationId.toList = Option.some found := search
  have begins : found.start = base.length := by simpa [Place.start] using start
  unfold splitRepeat
  rw [isFound]
  dsimp only
  rw [begins, captured, same, List.append_assoc, List.take_left' rfl]

/-- An id without a suffix is that of the first instance. -/
theorem splitRepeat_plain {conversationId : String} (plain : '\n' ∉ conversationId.toList)
    (none_ : ¬ EndsInRepeat conversationId) : splitRepeat conversationId = (conversationId, 1) := by
  have search : repeatSuffixRe.search conversationId.toList = none :=
    searchFrom_none (.start conversationId.toList) plain
      (fun base digits some numeric same => none_ ⟨base, digits, some, numeric, same⟩) _
  unfold splitRepeat
  rw [search]

/-! ## The round trip -/

/-- The key of a repeat is always read back. -/
theorem splitRepeat_repeat {conversationId : String} (plain : '\n' ∉ conversationId.toList)
    {repeatId : Nat} (repeats : repeatId ≠ 1) :
    splitRepeat (logicalId conversationId repeatId) = (conversationId, repeatId) := by
  have digits : (Nat.toDigits 10 repeatId).all Char.isDigit = true :=
    List.all_eq_true.mpr fun _ member =>
      Nat.isDigit_of_mem_toDigits (by decide) (by decide) member
  have same : (logicalId conversationId repeatId).toList =
      conversationId.toList ++ "__repeat_".toList ++ Nat.toDigits 10 repeatId := by
    unfold logicalId
    rw [if_neg repeats]
    simp [Nat.toString_eq_repr]
  rw [splitRepeat_suffix Nat.toDigits_ne_nil digits plain same]
  simp

/-- Every repeat of a conversation is read back exactly if its id does not end like that of
a repeat. -/
theorem splitRepeat_iff {conversationId : String} (accepted : acceptedId conversationId = true) :
    (∀ repeatId, 1 ≤ repeatId →
      splitRepeat (logicalId conversationId repeatId) = (conversationId, repeatId)) ↔
        ¬ EndsInRepeat conversationId := by
  have plain := not_newline_of_accepted accepted
  constructor
  · rintro reads ⟨base, digits, some, numeric, same⟩
    have first : splitRepeat conversationId = (conversationId, 1) := reads 1 (le_refl 1)
    have plainBase : '\n' ∉ base := fun member =>
      plain (same ▸ List.mem_append_left _ (List.mem_append_left _ member))
    rw [splitRepeat_suffix some numeric plainBase same] at first
    have equal : base = conversationId.toList := by
      have ids : String.ofList base = conversationId := congrArg Prod.fst first
      rw [← ids]
      simp
    have lengths := congrArg List.length same
    rw [← equal] at lengths
    simp at lengths
  · intro none_ repeatId _
    by_cases first : repeatId = 1
    · rw [first]
      exact splitRepeat_plain plain none_
    · exact splitRepeat_repeat plain first

end AgenticInferenceInlineScorer

namespace AgenticConfig

open AgenticInferenceInlineScorer

/-- Whatever the load generator writes as the id of a conversation, the scorer reads. -/
structure RoundTrips (config : AgenticConfig) : Prop where
  reads : ∀ sample ∈ config.metadata.samples, ∀ repeatId, 1 ≤ repeatId →
    splitRepeat (logicalId sample.conversationId repeatId) = (sample.conversationId, repeatId)
  distinct : ∀ first second one other, config.instanceAt? first = some one →
    config.instanceAt? second = some other → one.logicalId = other.logicalId → first = second
  scored : ∀ number drawn, config.instanceAt? number = some drawn →
    ∀ expectedKeys turn, turnKey expectedKeys drawn.logicalId turn =
      if (drawn.sourceId, turn) ∈ expectedKeys then some (drawn.sourceId, drawn.repeatId, turn)
      else none

theorem baseConvs_sample {config : AgenticConfig} {base : String × List ConversationTurn}
    (member : base ∈ config.metadata.baseConvs) :
    ∃ sample ∈ config.metadata.samples, sample.conversationId = base.1 := by
  have key : base.1 ∈ config.metadata.convSamples.keys := by
    rw [← baseConvs_keys]
    exact List.mem_map_of_mem member
  exact convSamples_keys config.metadata key

/-- The ids of a dataset that was accepted survive the round trip exactly if none of them
ends like that of a repeat. -/
theorem roundTrips_iff (config : AgenticConfig)
    (accepted : ∀ sample ∈ config.metadata.samples, acceptedId sample.conversationId = true) :
    config.RoundTrips ↔
      ∀ sample ∈ config.metadata.samples, ¬ EndsInRepeat sample.conversationId := by
  constructor
  · intro trips sample member
    exact (splitRepeat_iff (accepted sample member)).mp (trips.reads sample member)
  · intro none_
    have reads : ∀ sample ∈ config.metadata.samples, ∀ repeatId, 1 ≤ repeatId →
        splitRepeat (logicalId sample.conversationId repeatId) =
          (sample.conversationId, repeatId) :=
      fun sample member => (splitRepeat_iff (accepted sample member)).mpr (none_ sample member)
    have drawnReads : ∀ number drawn, config.instanceAt? number = some drawn →
        splitRepeat drawn.logicalId = (drawn.sourceId, drawn.repeatId) := by
      intro number drawn isDrawn
      obtain ⟨key, positive, base, member, sameId⟩ := instanceAt?_base isDrawn
      obtain ⟨sample, there, sameSample⟩ := baseConvs_sample member
      rw [key, ← sameId, ← sameSample]
      exact reads sample there drawn.repeatId positive
    refine ⟨reads, fun first second one other firstIs secondIs same => ?_,
      fun number drawn isDrawn expectedKeys turn => ?_⟩
    · have pairs : (one.sourceId, one.repeatId) = (other.sourceId, other.repeatId) := by
        rw [← drawnReads first one firstIs, same, drawnReads second other secondIs]
      exact instanceAt?_determined firstIs secondIs (congrArg Prod.fst pairs)
        (congrArg Prod.snd pairs)
    · unfold turnKey
      rw [drawnReads number drawn isDrawn]

end AgenticConfig

/-- Keys without the separator do not end in a suffix. -/
theorem not_endsInRepeat_of_plain {conversationId : String} (plain : PlainId conversationId) :
    ¬ EndsInRepeat conversationId :=
  fun ⟨base, digits, _, _, same⟩ => plain ⟨base, digits, same.symm⟩

namespace AgenticConfig

/-- Two conversations with ids that name nothing else. -/
def simulations : AgenticConfig where
  metadata := { samples := [⟨"sim_1", 1, 0⟩, ⟨"sim_2", 1, 1⟩] }

theorem roundTrips_simulations : simulations.RoundTrips := by
  refine (roundTrips_iff simulations (by decide)).mpr fun sample member => ?_
  have plain : simulations.PlainIds := by decide
  exact not_endsInRepeat_of_plain (plain sample member)

/-- A conversation whose id is that of the second instance of another one. -/
def ambiguous : AgenticConfig where
  metadata := { samples := [⟨"c__repeat_2", 1, 0⟩, ⟨"c", 1, 1⟩] }

/-- The second instance of one conversation has the key of the first of the other. -/
theorem ambiguous_merged :
    (∀ sample ∈ ambiguous.metadata.samples, acceptedId sample.conversationId = true) ∧
      ¬ ambiguous.RoundTrips := by
  refine ⟨by decide, fun trips => ?_⟩
  exact absurd (trips.distinct 0 3 _ _ rfl rfl (by decide)) (by decide)

end AgenticConfig

end InferenceEndpoint
