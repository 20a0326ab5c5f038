import Mathlib.Data.List.Infix

/-!
# Replacing words

`replaceAll` replaces a word everywhere in a text, from left to right.  What remains of the
text are the pieces between the occurrences.  If a word does not overlap what it is replaced
by, then replacing it in a text of pieces and replacements replaces it in the pieces; and two
words that nowhere overlap in a text can be replaced in either order.
-/

namespace LiteralReplace

variable {Symbol : Type*}

section

variable [DecidableEq Symbol]

/-- The pieces between the occurrences of a word; the given number of symbols belongs to an
occurrence that has begun. -/
def piecesFrom (word : List Symbol) : Nat → List Symbol → List (List Symbol)
  | _, [] => [[]]
  | begun + 1, _ :: rest => piecesFrom word begun rest
  | 0, head :: rest =>
      if word.isPrefixOf (head :: rest) then [] :: piecesFrom word (word.length - 1) rest
      else (piecesFrom word 0 rest).modifyHead (head :: ·)

def pieces (word text : List Symbol) : List (List Symbol) :=
  piecesFrom word 0 text

def replaceAll (word replacement text : List Symbol) : List Symbol :=
  replacement.intercalate (pieces word text)

end

/-- The second word begins inside the first, and they agree as far as both go. -/
def Meets (first second : List Symbol) : Prop :=
  ∃ shift < first.length, second <+: first.drop shift ∨ first.drop shift <+: second

/-- Two words that share some symbols in some text. -/
def Overlap (first second : List Symbol) : Prop :=
  Meets first second ∨ Meets second first

instance [DecidableEq Symbol] (first second : List Symbol) : Decidable (Meets first second) :=
  inferInstanceAs (Decidable (∃ shift < first.length, _))

instance [DecidableEq Symbol] (first second : List Symbol) : Decidable (Overlap first second) :=
  inferInstanceAs (Decidable (_ ∨ _))

/-- Occurrences of the two words share some symbols of the text. -/
def OverlapIn (text first second : List Symbol) : Prop :=
  ∃ place shift, shift < first.length ∧ first <+: text.drop place ∧
    second <+: text.drop (place + shift)

/-- The first occurrence of a word, between two parts of a text. -/
structure FirstAt (word before after text : List Symbol) : Prop where
  split : text = before ++ word ++ after
  first : ∀ place < before.length, ¬ word <+: text.drop place

/-! ## Occurrences -/

variable {word text before after replacement rest : List Symbol}

theorem infix_iff_drop : word <:+: text ↔ ∃ place, word <+: text.drop place := by
  constructor
  · rintro ⟨left, right, rfl⟩
    exact ⟨left.length, by simp [List.append_assoc]⟩
  · rintro ⟨place, isPrefix⟩
    exact isPrefix.isInfix.trans (List.drop_suffix place text).isInfix

theorem drop_append_of_le {place : Nat} (within : place ≤ before.length) :
    (before ++ rest).drop place = before.drop place ++ rest :=
  List.drop_append_of_le_length within

theorem drop_append_add (shift : Nat) :
    (before ++ rest).drop (before.length + shift) = rest.drop shift := by
  simp

theorem overlap_of_part (some_ : word ≠ []) (isPart : word <:+: replacement) :
    Overlap word replacement := by
  obtain ⟨place, here⟩ := infix_iff_drop.mp isPart
  have positive := List.length_pos_of_ne_nil some_
  have bound := here.length_le
  rw [List.length_drop] at bound
  exact .inr ⟨place, by omega, .inl here⟩

/-- A word that occurs has a first occurrence. -/
theorem exists_firstAt (occurs : word <:+: text) :
    ∃ before after, FirstAt word before after text := by
  induction text with
  | nil =>
      obtain rfl := List.infix_nil.mp occurs
      exact ⟨[], [], rfl, nofun⟩
  | cons head tail ih =>
      by_cases here : word <+: head :: tail
      · obtain ⟨after, split⟩ := here
        exact ⟨[], after, split.symm, nofun⟩
      · have later : word <:+: tail := (List.infix_cons_iff.mp occurs).resolve_left here
        obtain ⟨before, after, split, first⟩ := ih later
        refine ⟨head :: before, after, by rw [split]; rfl, ?_⟩
        intro place within
        cases place with
        | zero => exact here
        | succ place => exact first place (Nat.lt_of_succ_lt_succ within)

theorem prefix_append_cases (occurs : word <+: before ++ rest) :
    word <+: before ∨ ∃ more, more ≠ [] ∧ more <+: rest ∧ word = before ++ more := by
  rcases List.prefix_or_prefix_of_prefix occurs (List.prefix_append before rest) with
    inside | longer
  · exact .inl inside
  · obtain ⟨more, rfl⟩ := longer
    by_cases nothing : more = []
    · left
      rw [nothing, List.append_nil]
    · exact .inr ⟨more, nothing, (List.prefix_append_right_inj before).mp occurs, rfl⟩

/-- An occurrence next to a replacement that the word does not overlap lies on one side. -/
theorem prefix_drop_apart (apart : ¬ Overlap word replacement) {place : Nat}
    (occurs : word <+: (before ++ replacement ++ rest).drop place) :
    (place ≤ before.length ∧ word <+: before.drop place) ∨
      ∃ shift, place = before.length + replacement.length + shift ∧ word <+: rest.drop shift := by
  by_cases inBefore : place ≤ before.length
  · left
    refine ⟨inBefore, ?_⟩
    rw [List.append_assoc, drop_append_of_le inBefore] at occurs
    rcases prefix_append_cases occurs with inside | ⟨more, some_, goesOn, isWord⟩
    · exact inside
    · refine absurd (.inl ⟨(before.drop place).length, ?_, ?_⟩) apart
      · rw [isWord, List.length_append]
        have positive := List.length_pos_of_ne_nil some_
        omega
      · have remains : word.drop (before.drop place).length = more := by
          rw [isWord, List.drop_left]
        rw [remains]
        exact (List.prefix_or_prefix_of_prefix goesOn (List.prefix_append _ _)).symm
  · by_cases inside : place < before.length + replacement.length
    · obtain ⟨shift, rfl⟩ := Nat.exists_eq_add_of_le (Nat.le_of_not_le inBefore)
      rw [List.append_assoc, drop_append_add, drop_append_of_le (by omega)] at occurs
      exact absurd (.inr ⟨shift, by omega,
        List.prefix_or_prefix_of_prefix occurs (List.prefix_append _ _)⟩) apart
    · obtain ⟨shift, rfl⟩ := Nat.exists_eq_add_of_le (Nat.le_of_not_lt inside)
      refine .inr ⟨shift, rfl, ?_⟩
      rw [← List.length_append, drop_append_add] at occurs
      exact occurs

/-- A word that does not overlap the replacement occurs in one of the parts. -/
theorem infix_apart (apart : ¬ Overlap word replacement)
    (occurs : word <:+: before ++ replacement ++ rest) : word <:+: before ∨ word <:+: rest := by
  obtain ⟨place, here⟩ := infix_iff_drop.mp occurs
  rcases prefix_drop_apart apart here with ⟨-, inBefore⟩ | ⟨shift, -, inRest⟩
  · exact .inl (infix_iff_drop.mpr ⟨place, inBefore⟩)
  · exact .inr (infix_iff_drop.mpr ⟨shift, inRest⟩)

theorem mem_of_infix_intercalate (apart : ¬ Overlap word replacement) (some_ : word ≠ [])
    {parts : List (List Symbol)} (occurs : word <:+: replacement.intercalate parts) :
    ∃ part ∈ parts, word <:+: part := by
  induction parts with
  | nil =>
      rw [List.intercalate_nil] at occurs
      exact absurd (List.infix_nil.mp occurs) some_
  | cons part parts ih =>
      cases parts with
      | nil =>
          rw [List.intercalate_singleton] at occurs
          exact ⟨part, List.mem_cons_self, occurs⟩
      | cons next parts =>
          rw [List.intercalate_cons_cons] at occurs
          rcases infix_apart apart occurs with inFirst | inRest
          · exact ⟨part, List.mem_cons_self, inFirst⟩
          · obtain ⟨other, member, inOther⟩ := ih inRest
            exact ⟨other, List.mem_cons_of_mem part member, inOther⟩

/-! ## Pieces -/

section

variable [DecidableEq Symbol]

theorem piecesFrom_append (begun : List Symbol) :
    piecesFrom word begun.length (begun ++ text) = pieces word text := by
  induction begun with
  | nil => rfl
  | cons head begun ih =>
      rw [List.cons_append, List.length_cons, piecesFrom]
      exact ih

theorem pieces_nil : pieces word ([] : List Symbol) = [[]] :=
  rfl

theorem pieces_cons_elsewhere {head : Symbol} {tail : List Symbol}
    (elsewhere : ¬ word <+: head :: tail) :
    pieces word (head :: tail) = (pieces word tail).modifyHead (head :: ·) := by
  rw [pieces, piecesFrom, if_neg (by rwa [List.isPrefixOf_iff_prefix])]
  rfl

theorem pieces_ne_nil (word text : List Symbol) : pieces word text ≠ [] := by
  have all : ∀ begun, piecesFrom word begun text ≠ [] := by
    induction text with
    | nil => intro begun; simp [piecesFrom]
    | cons head tail ih =>
        intro begun
        cases begun with
        | zero =>
            rw [piecesFrom]
            split
            · simp
            · simpa using ih 0
        | succ begun => exact ih begun
  exact all 0

/-- A text in which the word does not occur is one piece. -/
theorem pieces_of_absent (absent : ¬ word <:+: text) : pieces word text = [text] := by
  induction text with
  | nil => rfl
  | cons head tail ih =>
      have elsewhere : ¬ word <+: head :: tail := fun here => absent here.isInfix
      have later : ¬ word <:+: tail := fun inTail =>
        absent (inTail.trans (List.suffix_cons head tail).isInfix)
      rw [pieces_cons_elsewhere elsewhere, ih later]
      rfl

/-- The pieces of a text are those from the first occurrence on, and the part before it. -/
theorem pieces_of_firstAt (some_ : word ≠ []) (found : FirstAt word before after text) :
    pieces word text = before :: pieces word after := by
  obtain ⟨rfl, first⟩ := found
  induction before with
  | nil =>
      cases word with
      | nil => exact absurd rfl some_
      | cons head tail =>
          have here : (head :: tail).isPrefixOf (head :: (tail ++ after)) = true :=
            List.isPrefixOf_iff_prefix.mpr (List.prefix_append (head :: tail) after)
          rw [List.nil_append, List.cons_append, pieces, piecesFrom, if_pos here,
            List.length_cons, Nat.add_sub_cancel]
          congr 1
          exact piecesFrom_append tail
  | cons head before ih =>
      have elsewhere : ¬ word <+: head :: (before ++ word ++ after) :=
        first 0 (Nat.zero_lt_succ _)
      rw [List.cons_append, List.cons_append, pieces_cons_elsewhere elsewhere, ih]
      · rfl
      · exact fun place within => first (place + 1) (Nat.succ_lt_succ within)

/-- Pieces are parts of the text without the word. -/
theorem pieces_spec (some_ : word ≠ []) (text : List Symbol) :
    ∀ piece ∈ pieces word text, piece <:+: text ∧ ¬ word <:+: piece := by
  induction sized : text.length using Nat.strongRecOn generalizing text with
  | _ size ih =>
      by_cases occurs : word <:+: text
      · obtain ⟨before, after, found⟩ := exists_firstAt occurs
        rw [pieces_of_firstAt some_ found]
        obtain ⟨rfl, first⟩ := found
        intro piece member
        rcases List.mem_cons.mp member with rfl | later
        · refine ⟨⟨[], word ++ after, by simp⟩, ?_⟩
          intro inside
          obtain ⟨place, here⟩ := infix_iff_drop.mp inside
          have positive := List.length_pos_of_ne_nil some_
          have bound := here.length_le
          rw [List.length_drop] at bound
          refine first place (by omega) ?_
          rw [List.append_assoc, drop_append_of_le (by omega)]
          exact here.trans (List.prefix_append _ _)
        · have shorter : after.length < size := by
            have positive := List.length_pos_of_ne_nil some_
            simp only [List.length_append] at sized
            omega
          obtain ⟨isPart, absent⟩ := ih after.length shorter after rfl piece later
          exact ⟨isPart.trans (List.suffix_append _ _).isInfix, absent⟩
      · rw [pieces_of_absent occurs]
        intro piece member
        obtain rfl := List.mem_singleton.mp member
        exact ⟨List.infix_refl piece, occurs⟩

/-! ## Replacing in pieces -/

omit [DecidableEq Symbol] in
theorem FirstAt.append_right (found : FirstAt word before after text) (more : List Symbol) :
    FirstAt word before (after ++ more) (text ++ more) := by
  obtain ⟨rfl, first⟩ := found
  refine ⟨by simp, ?_⟩
  intro place within occurs
  rw [drop_append_of_le (by simp only [List.length_append]; omega)] at occurs
  refine first place within (List.prefix_of_prefix_length_le occurs (List.prefix_append _ _) ?_)
  simp only [List.length_drop, List.length_append]
  omega

omit [DecidableEq Symbol] in
/-- Where a word first occurs does not depend on what follows. -/
theorem FirstAt.congr (found : FirstAt word before after text) (other : List Symbol) :
    FirstAt word before other (before ++ word ++ other) := by
  have alone : FirstAt word before [] (before ++ word) := by
    obtain ⟨rfl, first⟩ := found
    refine ⟨by simp, ?_⟩
    intro place within occurs
    have inside : place ≤ (before ++ word).length := by
      simp only [List.length_append]
      omega
    have longer : (before ++ word).drop place <+: (before ++ word ++ after).drop place := by
      rw [drop_append_of_le inside]
      exact List.prefix_append _ _
    exact first place within (occurs.trans longer)
  exact alone.append_right other

omit [DecidableEq Symbol] in
theorem FirstAt.append_left (apart : ¬ Overlap word replacement) {part : List Symbol}
    (absent : ¬ word <:+: part) (found : FirstAt word before after text) :
    FirstAt word (part ++ replacement ++ before) after (part ++ replacement ++ text) := by
  obtain ⟨rfl, first⟩ := found
  refine ⟨by simp [List.append_assoc], ?_⟩
  intro place within occurs
  rcases prefix_drop_apart apart occurs with ⟨-, inPart⟩ | ⟨shift, rfl, inText⟩
  · exact absent (infix_iff_drop.mpr ⟨place, inPart⟩)
  · simp only [List.length_append] at within
    exact first shift (by omega) inText

theorem replaceAll_of_firstAt (some_ : word ≠ []) (found : FirstAt word before after text) :
    replaceAll word replacement text =
      before ++ replacement ++ replaceAll word replacement after := by
  rw [replaceAll, pieces_of_firstAt some_ found,
    List.intercalate_cons_of_ne_nil (pieces_ne_nil word after)]
  rfl

theorem replaceAll_of_absent (absent : ¬ word <:+: text) :
    replaceAll word replacement text = text := by
  rw [replaceAll, pieces_of_absent absent, List.intercalate_singleton]

/-- Replacing goes on on both sides of a replacement that the word does not overlap. -/
theorem replaceAll_append (some_ : word ≠ []) (apart : ¬ Overlap word replacement)
    (part rest : List Symbol) :
    replaceAll word replacement (part ++ replacement ++ rest) =
      replaceAll word replacement part ++ replacement ++ replaceAll word replacement rest := by
  induction sized : part.length using Nat.strongRecOn generalizing part with
  | _ size ih =>
      by_cases inPart : word <:+: part
      · obtain ⟨before, after, found⟩ := exists_firstAt inPart
        have shorter : after.length < size := by
          have positive := List.length_pos_of_ne_nil some_
          rw [← sized, found.split]
          simp only [List.length_append]
          omega
        have whole := found.append_right (replacement ++ rest)
        rw [← List.append_assoc, ← List.append_assoc] at whole
        rw [replaceAll_of_firstAt some_ whole, ih after.length shorter after rfl,
          replaceAll_of_firstAt some_ found]
        simp only [List.append_assoc]
      · rw [replaceAll_of_absent inPart]
        by_cases inRest : word <:+: rest
        · obtain ⟨before, after, found⟩ := exists_firstAt inRest
          rw [replaceAll_of_firstAt some_ (found.append_left apart inPart),
            replaceAll_of_firstAt some_ found]
          simp only [List.append_assoc]
        · rw [replaceAll_of_absent inRest, replaceAll_of_absent]
          intro occurs
          rcases infix_apart apart occurs with here | there
          · exact inPart here
          · exact inRest there

omit [DecidableEq Symbol] in
theorem intercalate_append {parts others : List (List Symbol)} (first : parts ≠ [])
    (second : others ≠ []) :
    replacement.intercalate (parts ++ others) =
      replacement.intercalate parts ++ replacement ++ replacement.intercalate others := by
  induction parts with
  | nil => exact absurd rfl first
  | cons part parts ih =>
      cases parts with
      | nil =>
          rw [List.singleton_append, List.intercalate_cons_of_ne_nil second,
            List.intercalate_singleton]
      | cons next parts =>
          rw [List.cons_append, List.cons_append, List.intercalate_cons_cons,
            List.intercalate_cons_cons, ← List.cons_append, ih (List.cons_ne_nil next parts)]
          simp only [List.append_assoc]

/-- Replacing in a text of parts and replacements replaces in the parts. -/
theorem replaceAll_intercalate (some_ : word ≠ []) (apart : ¬ Overlap word replacement)
    (parts : List (List Symbol)) :
    replaceAll word replacement (replacement.intercalate parts) =
      replacement.intercalate (parts.flatMap (pieces word)) := by
  induction parts with
  | nil => rfl
  | cons part parts ih =>
      cases parts with
      | nil => rw [List.intercalate_singleton, List.flatMap_singleton, replaceAll]
      | cons next parts =>
          have later : (next :: parts).flatMap (pieces word) ≠ [] := by
            rw [List.flatMap_cons]
            exact List.append_ne_nil_of_left_ne_nil (pieces_ne_nil word next) _
          have split : (part :: next :: parts).flatMap (pieces word) =
              pieces word part ++ (next :: parts).flatMap (pieces word) := List.flatMap_cons
          rw [List.intercalate_cons_cons, replaceAll_append some_ apart, ih, split,
            intercalate_append (pieces_ne_nil word part) later, replaceAll]

/-- Replacing a word removes it, and lets no other word appear. -/
theorem not_infix_replaceAll (some_ : word ≠ []) (apart : ¬ Overlap word replacement) :
    ¬ word <:+: replaceAll word replacement text := by
  intro occurs
  obtain ⟨piece, member, inPiece⟩ := mem_of_infix_intercalate apart some_ occurs
  exact (pieces_spec some_ text piece member).2 inPiece

theorem not_infix_replaceAll_other {other : List Symbol} (some_ : word ≠ [])
    (apart : ¬ Overlap word replacement) (someOther : other ≠ []) (absent : ¬ word <:+: text) :
    ¬ word <:+: replaceAll other replacement text := by
  intro occurs
  obtain ⟨piece, member, inPiece⟩ := mem_of_infix_intercalate apart some_ occurs
  exact absent (inPiece.trans (pieces_spec someOther text piece member).1)

/-! ## Two words -/

omit [DecidableEq Symbol] in
theorem prefix_drop_inside {left right : List Symbol} {place : Nat}
    (occurs : word <+: text.drop place) :
    word <+: (left ++ text ++ right).drop (left.length + place) := by
  rw [List.append_assoc, drop_append_add]
  by_cases within : place ≤ text.length
  · rw [drop_append_of_le within]
    exact occurs.trans (List.prefix_append _ _)
  · rw [List.drop_eq_nil_of_le (by omega)] at occurs
    rw [List.prefix_nil.mp occurs]
    exact List.nil_prefix

omit [DecidableEq Symbol] in
/-- Words that overlap in a part of a text overlap in the text. -/
theorem OverlapIn.of_infix {part first second : List Symbol} (isPart : part <:+: text)
    (overlap : OverlapIn part first second) : OverlapIn text first second := by
  obtain ⟨left, right, rfl⟩ := isPart
  obtain ⟨place, shift, inside, firstHere, secondHere⟩ := overlap
  refine ⟨left.length + place, shift, inside, prefix_drop_inside firstHere, ?_⟩
  rw [Nat.add_assoc]
  exact prefix_drop_inside secondHere

omit [DecidableEq Symbol] in
theorem OverlapIn.overlap {first second : List Symbol} (overlap : OverlapIn text first second) :
    Overlap first second := by
  obtain ⟨place, shift, inside, firstHere, secondHere⟩ := overlap
  have rest : first.drop shift <+: text.drop (place + shift) := by
    rw [← List.drop_drop]
    exact firstHere.drop shift
  exact .inl ⟨shift, inside, List.prefix_or_prefix_of_prefix secondHere rest⟩

/-- The pieces of a text whose beginning no occurrence meets. -/
theorem pieces_append_of_late {start : List Symbol}
    (late : ∀ place < start.length, ¬ word <+: (start ++ text).drop place) :
    pieces word (start ++ text) = (pieces word text).modifyHead (start ++ ·) := by
  induction start with
  | nil =>
      rw [List.nil_append]
      cases pieces word text <;> rfl
  | cons head start ih =>
      have elsewhere : ¬ word <+: head :: (start ++ text) := late 0 (Nat.zero_lt_succ _)
      rw [List.cons_append, pieces_cons_elsewhere elsewhere,
        ih fun place within => late (place + 1) (Nat.succ_lt_succ within),
        List.modifyHead_modifyHead]
      rfl

section

variable {first second : List Symbol}

/-- If the first word occurs before the second, then it can be replaced first or last. -/
theorem pieces_comm_of_first (someFirst : first ≠ []) (someSecond : second ≠ [])
    (found : FirstAt first before after text)
    (late : ∀ place < (before ++ first).length, ¬ second <+: text.drop place)
    (rest : (pieces first after).flatMap (pieces second) =
      (pieces second after).flatMap (pieces first)) :
    (pieces first text).flatMap (pieces second) =
      (pieces second text).flatMap (pieces first) := by
  have alone : ¬ second <:+: before := by
    intro occurs
    obtain ⟨place, here⟩ := infix_iff_drop.mp occurs
    have bound := here.length_le
    rw [List.length_drop] at bound
    have positive := List.length_pos_of_ne_nil someSecond
    refine late place (by simp only [List.length_append]; omega) ?_
    have whole := @prefix_drop_inside _ second before [] (first ++ after) place here
    rw [found.split]
    simpa [List.append_assoc] using whole
  have starts : text = (before ++ first) ++ after := found.split
  have secondPieces : pieces second text =
      (pieces second after).modifyHead ((before ++ first) ++ ·) := by
    rw [starts] at late ⊢
    exact pieces_append_of_late late
  rw [pieces_of_firstAt someFirst found, List.flatMap_cons, pieces_of_absent alone, rest,
    secondPieces]
  cases split : pieces second after with
  | nil => exact absurd split (pieces_ne_nil second after)
  | cons piece others =>
      rw [List.modifyHead_cons, List.flatMap_cons, List.flatMap_cons,
        pieces_of_firstAt someFirst (found.congr piece)]
      rfl

/-- Two words that nowhere overlap in a text can be replaced in either order. -/
theorem pieces_comm (someFirst : first ≠ []) (someSecond : second ≠ []) {text : List Symbol}
    (apart : ¬ OverlapIn text first second) (apart' : ¬ OverlapIn text second first) :
    (pieces first text).flatMap (pieces second) =
      (pieces second text).flatMap (pieces first) := by
  induction sized : text.length using Nat.strongRecOn generalizing text first second with
  | _ size ih =>
      have positive := List.length_pos_of_ne_nil someFirst
      have positive' := List.length_pos_of_ne_nil someSecond
      have later : ∀ {word before after : List Symbol}, word ≠ [] →
          FirstAt word before after text →
            (pieces first after).flatMap (pieces second) =
              (pieces second after).flatMap (pieces first) := by
        intro word before after some_ found
        have isPart : after <:+: text := by
          rw [found.split]
          exact (List.suffix_append _ _).isInfix
        refine ih after.length ?_ someFirst someSecond
          (fun overlap => apart (overlap.of_infix isPart))
          (fun overlap => apart' (overlap.of_infix isPart)) rfl
        have positiveWord := List.length_pos_of_ne_nil some_
        rw [← sized, found.split]
        simp only [List.length_append]
        omega
      by_cases occursFirst : first <:+: text
      · obtain ⟨before, after, found⟩ := exists_firstAt occursFirst
        have firstHere : first <+: text.drop before.length := by
          rw [found.split, List.append_assoc, List.drop_left]
          exact List.prefix_append _ _
        by_cases occursSecond : second <:+: text
        · obtain ⟨before', after', found'⟩ := exists_firstAt occursSecond
          have secondHere : second <+: text.drop before'.length := by
            rw [found'.split, List.append_assoc, List.drop_left]
            exact List.prefix_append _ _
          -- No occurrence begins inside the other word, so one of the two comes first.
          by_cases order : before.length ≤ before'.length
          · refine pieces_comm_of_first someFirst someSecond found ?_ (later someFirst found)
            intro place within here
            rw [List.length_append] at within
            by_cases early : place < before'.length
            · exact found'.first place early here
            · obtain ⟨shift, rfl⟩ := Nat.exists_eq_add_of_le (show before.length ≤ place by omega)
              exact apart ⟨before.length, shift, by omega, firstHere, here⟩
          · refine (pieces_comm_of_first someSecond someFirst found' ?_
              (later someSecond found').symm).symm
            intro place within here
            rw [List.length_append] at within
            by_cases early : place < before.length
            · exact found.first place early here
            · obtain ⟨shift, rfl⟩ := Nat.exists_eq_add_of_le (show before'.length ≤ place by omega)
              exact apart' ⟨before'.length, shift, by omega, secondHere, here⟩
        · refine pieces_comm_of_first someFirst someSecond found ?_ (later someFirst found)
          exact fun place _ here => occursSecond (infix_iff_drop.mpr ⟨place, here⟩)
      · by_cases occursSecond : second <:+: text
        · obtain ⟨before', after', found'⟩ := exists_firstAt occursSecond
          refine (pieces_comm_of_first someSecond someFirst found' ?_
            (later someSecond found').symm).symm
          exact fun place _ here => occursFirst (infix_iff_drop.mpr ⟨place, here⟩)
        · rw [pieces_of_absent occursFirst, pieces_of_absent occursSecond,
            List.flatMap_singleton, List.flatMap_singleton, pieces_of_absent occursFirst,
            pieces_of_absent occursSecond]

end

/-! ## Many words -/

/-- Replace one word after the other. -/
def replaceEach (replacement : List Symbol) (words : List (List Symbol)) (text : List Symbol) :
    List Symbol :=
  words.foldl (fun text word => replaceAll word replacement text) text

def piecesEach (words parts : List (List Symbol)) : List (List Symbol) :=
  words.foldl (fun parts word => parts.flatMap (pieces word)) parts

variable {words others : List (List Symbol)}

theorem replaceEach_intercalate (some_ : ∀ word ∈ words, word ≠ [])
    (apart : ∀ word ∈ words, ¬ Overlap word replacement) (parts : List (List Symbol)) :
    replaceEach replacement words (replacement.intercalate parts) =
      replacement.intercalate (piecesEach words parts) := by
  induction words generalizing parts with
  | nil => rfl
  | cons word words ih =>
      have rest := ih (fun other member => some_ other (List.mem_cons_of_mem word member))
        (fun other member => apart other (List.mem_cons_of_mem word member))
        (parts.flatMap (pieces word))
      rw [replaceEach, List.foldl_cons, replaceAll_intercalate (some_ word List.mem_cons_self)
        (apart word List.mem_cons_self)]
      exact rest

theorem piecesEach_perm (perm : words.Perm others) (some_ : ∀ word ∈ words, word ≠ [])
    {parts : List (List Symbol)}
    (apart : ∀ first ∈ words, ∀ second ∈ words, first ≠ second → ∀ part ∈ parts,
      ¬ OverlapIn part first second) :
    piecesEach words parts = piecesEach others parts := by
  induction perm generalizing parts with
  | nil => rfl
  | cons word perm ih =>
      refine ih (fun other member => some_ other (List.mem_cons_of_mem word member)) ?_
      intro first isFirst second isSecond different piece member overlap
      obtain ⟨part, isPart, isPiece⟩ := List.mem_flatMap.mp member
      refine apart first (List.mem_cons_of_mem word isFirst) second
        (List.mem_cons_of_mem word isSecond) different part isPart (overlap.of_infix ?_)
      exact (pieces_spec (some_ word List.mem_cons_self) part piece isPiece).1
  | swap first second words =>
      have swapped : (parts.flatMap (pieces second)).flatMap (pieces first) =
          (parts.flatMap (pieces first)).flatMap (pieces second) := by
        rw [List.flatMap_assoc, List.flatMap_assoc]
        apply List.flatMap_congr
        intro part isPart
        by_cases same : first = second
        · rw [same]
        · exact pieces_comm (some_ second (by simp)) (some_ first (by simp))
            (apart second (by simp) first (by simp) (Ne.symm same) part isPart)
            (apart first (by simp) second (by simp) same part isPart)
      rw [piecesEach, List.foldl_cons, List.foldl_cons, swapped]
      rfl
  | trans perm _ ih ih' =>
      refine (ih some_ apart).trans (ih' ?_ ?_)
      · exact fun word member => some_ word (perm.mem_iff.mpr member)
      · exact fun first isFirst second isSecond =>
          apart first (perm.mem_iff.mpr isFirst) second (perm.mem_iff.mpr isSecond)

/-- Words that nowhere overlap in a text can be replaced in any order. -/
theorem replaceEach_perm (perm : words.Perm others) (some_ : ∀ word ∈ words, word ≠ [])
    (apart : ∀ word ∈ words, ¬ Overlap word replacement)
    (apartIn : ∀ first ∈ words, ∀ second ∈ words, first ≠ second →
      ¬ OverlapIn text first second) :
    replaceEach replacement words text = replaceEach replacement others text := by
  have one := replaceEach_intercalate some_ apart [text]
  have other := @replaceEach_intercalate _ replacement _ others
    (fun word member => some_ word (perm.mem_iff.mpr member))
    (fun word member => apart word (perm.mem_iff.mpr member)) [text]
  rw [List.intercalate_singleton] at one other
  rw [one, other, piecesEach_perm perm some_]
  intro first isFirst second isSecond different part member
  rw [List.mem_singleton.mp member]
  exact apartIn first isFirst second isSecond different

theorem not_infix_replaceEach_of_absent {word : List Symbol} (some_ : word ≠ [])
    (apart : ¬ Overlap word replacement) (someAll : ∀ other ∈ words, other ≠ [])
    (absent : ¬ word <:+: text) : ¬ word <:+: replaceEach replacement words text := by
  induction words generalizing text with
  | nil => exact absent
  | cons other words ih =>
      exact ih (fun next member => someAll next (List.mem_cons_of_mem other member))
        (not_infix_replaceAll_other some_ apart (someAll other List.mem_cons_self) absent)

/-- None of the words is left. -/
theorem not_infix_replaceEach (some_ : ∀ word ∈ words, word ≠ [])
    (apart : ∀ word ∈ words, ¬ Overlap word replacement) :
    ∀ word ∈ words, ¬ word <:+: replaceEach replacement words text := by
  induction words generalizing text with
  | nil => nofun
  | cons first words ih =>
      have someRest : ∀ word ∈ words, word ≠ [] :=
        fun word member => some_ word (List.mem_cons_of_mem first member)
      intro word member
      rcases List.mem_cons.mp member with rfl | later
      · change ¬ word <:+: replaceEach replacement words (replaceAll word replacement text)
        exact not_infix_replaceEach_of_absent (some_ word member) (apart word member) someRest
          (not_infix_replaceAll (some_ word member) (apart word member))
      · exact ih someRest (fun other inRest => apart other (List.mem_cons_of_mem first inRest))
          word later

end

end LiteralReplace
