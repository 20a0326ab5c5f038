import InferenceEndpoint.Library.DoubledEscapes
import InferenceEndpoint.Library.RegexReplace

/-!
# Environment variables in configurations

Strings of a configuration file refer to environment variables, with a default or without,
and escape a dollar by a second one.  References are replaced by one substitution with a
pattern, and the escapes are undone in its result.
-/

namespace InferenceEndpoint

namespace EnvironmentVariables

open Regex DoubledEscapes

/-- The environment: a name is set, or not. -/
abbrev Environ := List Char → Option (List Char)

/-- `[A-Za-z_]`. -/
def isNameStart (char : Char) : Bool :=
  char.isAlpha || char = '_'

section

variable (unicodeWord : Char → Bool)

/-- `\w`, with the given letters and digits beyond ASCII. -/
def isWord (char : Char) : Bool :=
  if char.toNat < 128 then char.isAlphanum || char = '_' else unicodeWord char

/-- `[A-Za-z_]\w*`. -/
def name : Regex :=
  .seq (.char isNameStart) (star (.char (isWord unicodeWord)))

/-- `:-(.*?)`. -/
def colonDefault : Regex :=
  .seq (.char (· = ':')) (.seq (.char (· = '-')) (.group 2 (lazyStar (.char (· ≠ '\n')))))

/-- What follows the name in braces. -/
def closing : Regex :=
  .seq (optional colonDefault) (.char (· = '}'))

def bracedReference : Regex :=
  .seq (notBehind (· = '$')) (.seq (.char (· = '$')) (.seq (.char (· = '{'))
    (.seq (.group 1 (name unicodeWord)) closing)))

def bareReference : Regex :=
  .seq (notBehind (· = '$')) (.seq (.char (· = '$')) (.group 3 (name unicodeWord)))

/-- `_ENV_VAR_PATTERN`. -/
def envVarPattern : Regex :=
  .alt (bracedReference unicodeWord) (bareReference unicodeWord)

end

def notSetNoDefault (var : List Char) : String :=
  "Environment variable $\x7b" ++ String.ofList var ++ "\x7d is not set and has no default"

def notSet (var : List Char) : String :=
  "Environment variable $" ++ String.ofList var ++ " is not set"

/-- `_replace`; an error is the text of the `ValueError`. -/
def replace (environ : Environ) (found : Match) : Except String (List Char) :=
  match found.last.captured 1 with
  | some var =>
      match environ var with
      | some value => .ok value
      | none =>
          match found.last.captured 2 with
          | some default => .ok default
          | none => .error (notSetNoDefault var)
  | none =>
      let var := found.group 3
      match environ var with
      | some value => .ok value
      | none => .error (notSet var)

def resolveEnvVarString (unicodeWord : Char → Bool) (environ : Environ) (text : String) :
    Except String String :=
  ((envVarPattern unicodeWord).sub (replace environ) text.toList).map fun result =>
    String.ofList (collapse '$' result)

/-! ## The documented reading -/

structure Reference where
  name : List Char
  default : Option (List Char) := none
  braced : Bool := false

inductive Token
  | escape
  | reference (reference : Reference)
  | char (symbol : Char)

section

variable (unicodeWord : Char → Bool)

/-- A name at the head of a text, and what follows it. -/
def nameAt : List Char → Option (List Char × List Char)
  | [] => none
  | head :: tail =>
      if isNameStart head then
        some (head :: tail.takeWhile (isWord unicodeWord), tail.dropWhile (isWord unicodeWord))
      else none

/-- Characters of a default, which ends at the first brace and stays on one line. -/
def inDefault (char : Char) : Bool :=
  char ≠ '\n' && !decide (char = '}')

/-- The closing brace with the default before it, if there is one. -/
def closingAt : List Char → Option (Option (List Char) × List Char)
  | [] => none
  | head :: tail =>
      if head = '}' then some (none, tail)
      else if head = ':' ∧ tail.head? = some '-' then
        match (tail.drop 1).dropWhile inDefault with
        | [] => none
        | close :: rest =>
            if close = '}' then some (some ((tail.drop 1).takeWhile inDefault), rest) else none
      else none

/-- A reference after its dollar. -/
def afterDollar? (text : List Char) : Option (Reference × List Char) :=
  if text.head? = some '{' then
    (nameAt unicodeWord (text.drop 1)).bind fun (name, rest) =>
      (closingAt rest).map fun (default, last) => (⟨name, default, true⟩, last)
  else (nameAt unicodeWord text).map fun (name, rest) => (⟨name, none, false⟩, rest)

/-- A reference at the head of a text, and what follows it. -/
def reference? : List Char → Option (Reference × List Char)
  | [] => none
  | head :: tail => if head = '$' then afterDollar? unicodeWord tail else none

/-- A text as the documentation reads it, from left to right. -/
def tokensFrom : Nat → List Char → List Token
  | 0, _ => []
  | _ + 1, [] => []
  | fuel + 1, head :: tail =>
      if head = '$' ∧ tail.head? = some '$' then .escape :: tokensFrom fuel (tail.drop 1)
      else
        match reference? unicodeWord (head :: tail) with
        | some (reference, rest) => .reference reference :: tokensFrom fuel rest
        | none => .char head :: tokensFrom fuel tail

def tokens (text : String) : List Token :=
  tokensFrom unicodeWord (text.toList.length + 1) text.toList

end

/-- The value of a variable, or else its default. -/
def Reference.value (environ : Environ) (reference : Reference) : Except String (List Char) :=
  match environ reference.name with
  | some value => .ok value
  | none =>
      match reference.default with
      | some default => .ok default
      | none =>
          .error (if reference.braced then notSetNoDefault reference.name
            else notSet reference.name)

def Token.read (environ : Environ) : Token → Except String (List Char)
  | .escape => .ok ['$']
  | .reference found => found.value environ
  | .char symbol => .ok [symbol]

def readAll (environ : Environ) : List Token → Except String (List Char)
  | [] => .ok []
  | token :: tokens =>
      (token.read environ).bind fun first => (readAll environ tokens).map (first ++ ·)

/-- What the documentation says: two dollars are one, values and defaults are inserted as
they are, and everything else is left alone. -/
def documented (unicodeWord : Char → Bool) (environ : Environ) (text : String) :
    Except String String :=
  (readAll environ (tokens unicodeWord text)).map String.ofList

/-- The result is the documented one, or both raise. -/
def Agrees (unicodeWord : Char → Bool) (environ : Environ) (text : String) : Prop :=
  (resolveEnvVarString unicodeWord environ text).toOption =
    (documented unicodeWord environ text).toOption

/-- A reference stands right after an escape. -/
def escapedReference : List Token → Bool
  | [] => false
  | .escape :: .reference _ :: _ => true
  | _ :: tokens => escapedReference tokens

/-- A character of the text after substitution. -/
def piece (char : Char) : Piece Char :=
  if char = '$' then .loose else .other char

def Token.pieces (environ : Environ) : Token → Except String (List (Piece Char))
  | .escape => .ok [.escape]
  | .reference found => (found.value environ).map fun value => value.map piece
  | .char symbol => .ok [piece symbol]

/-- The text after substitution, with its escapes. -/
def piecesAll (environ : Environ) : List Token → Except String (List (Piece Char))
  | [] => .ok []
  | token :: tokens =>
      (token.pieces environ).bind fun first => (piecesAll environ tokens).map (first ++ ·)

/-- A variable is missing, or every run of dollars after substitution has at most one that
does not come from an escape. -/
def FewDollars (unicodeWord : Char → Bool) (environ : Environ) (text : String) : Prop :=
  ∀ pieces, piecesAll environ (tokens unicodeWord text) = .ok pieces → Clear false pieces

instance (unicodeWord : Char → Bool) (environ : Environ) (text : String) :
    Decidable (FewDollars unicodeWord environ text) :=
  match found : piecesAll environ (tokens unicodeWord text) with
  | .ok pieces => decidable_of_iff (Clear false pieces) (by
      rw [FewDollars, found]
      simp)
  | .error _ => .isTrue (by
      rw [FewDollars, found]
      nofun)

/-! ## What the pattern matches -/

section

variable {unicodeWord : Char → Bool}

theorem isWord_dollar : isWord unicodeWord '$' = false :=
  rfl

theorem isWord_colon : isWord unicodeWord ':' = false :=
  rfl

theorem isWord_brace : isWord unicodeWord '}' = false :=
  rfl

theorem ne_dollar_of_isWord {char : Char} (word : isWord unicodeWord char = true) :
    char ≠ '$' := by
  rintro rfl
  cases word

theorem isWord_of_isNameStart {char : Char} (starts : isNameStart char = true) :
    isWord unicodeWord char = true := by
  have letter : char.isAlpha = true ∨ char = '_' := by simpa [isNameStart] using starts
  have ascii : char.toNat < 128 := by
    obtain isLetter | rfl := letter
    · have bounds : char.toNat ≤ 122 := by
        obtain isUpper | isLower := Bool.or_eq_true_iff.mp isLetter
        · have upper : char.val ≤ 90 := (of_decide_eq_true isUpper).2
          exact Nat.le_trans (UInt32.le_iff_toNat_le.mp upper) (by decide)
        · have lower : char.val ≤ 122 := of_decide_eq_true (Bool.and_eq_true_iff.mp isLower).2
          exact UInt32.le_iff_toNat_le.mp lower
      omega
    · decide
  rw [isWord, if_pos ascii]
  obtain isLetter | rfl := letter
  · simp [Char.isAlphanum, isLetter]
  · rfl

/-- A name and the rest of its text. -/
theorem nameAt_some {text var rest : List Char}
    (found : nameAt unicodeWord text = some (var, rest)) :
    text = var ++ rest ∧ var ≠ [] ∧ (∀ char ∈ var, isWord unicodeWord char = true) ∧
      rest = text.dropWhile (isWord unicodeWord) ∧
      rest.head?.any (isWord unicodeWord) = false := by
  cases text with
  | nil => cases found
  | cons head tail =>
      rw [nameAt] at found
      split at found
      · next starts =>
          obtain ⟨rfl, rfl⟩ := Prod.mk.inj (Option.some.inj found)
          have isFirst : isWord unicodeWord head = true := isWord_of_isNameStart starts
          refine ⟨?_, by simp, ?_, ?_, ?_⟩
          · rw [List.cons_append, List.takeWhile_append_dropWhile]
          · intro char member
            obtain rfl | later := List.mem_cons.mp member
            · exact isFirst
            · exact List.all_eq_true.mp List.all_takeWhile char later
          · rw [List.dropWhile_cons_of_pos isFirst]
          · cases rest : tail.dropWhile (isWord unicodeWord) with
            | nil => rfl
            | cons next rest' =>
                have stops := List.head?_dropWhile_not (isWord unicodeWord) tail
                rw [rest] at stops
                simpa using stops
      · cases found

/-- How the name of the pattern ends: the longest name first, and all others in front of a
word character. -/
theorem ends_name (place : Place) :
    match nameAt unicodeWord place.after with
    | none => (name unicodeWord).ends place = []
    | some (var, _) => ∃ shorter,
        (name unicodeWord).ends place = place.skip var.length :: shorter ∧
          ∀ other ∈ shorter, other.after.head?.any (isWord unicodeWord) = true := by
  have parts : (name unicodeWord).ends place =
      ((Regex.char isNameStart).ends place).flatMap
        (star (.char (isWord unicodeWord))).ends := rfl
  cases after : place.after with
  | nil =>
      rw [parts, ends_char_rejected (by simp [after])]
      rfl
  | cons head tail =>
      rw [nameAt, parts]
      by_cases starts : isNameStart head = true
      · rw [if_pos starts, ends_char_accepted after starts, List.flatMap_singleton]
        obtain ⟨shorter, isEnds, others⟩ := ends_star_char (isWord unicodeWord)
          { place with before := head :: place.before, after := tail }
        refine ⟨shorter, ?_, others⟩
        rw [isEnds, skip_succ after, List.length_cons]
      · rw [if_neg starts, ends_char_rejected (by simpa [after] using starts)]
        rfl

/-- A default is found up to the first brace of its line. -/
theorem ends_default (place : Place) :
    (((Regex.group 2 (lazyStar (.char (· ≠ '\n')))).ends place).flatMap
        (Regex.char (· = '}')).ends).head? =
      match place.after.dropWhile inDefault with
      | [] => none
      | close :: rest =>
          if close = '}' then
            some
              { before := '}' :: ((place.after.takeWhile inDefault).reverse ++ place.before)
                after := rest
                groups := (2, place.after.takeWhile inDefault) :: place.groups }
          else none := by
  have flat : ((Regex.group 2 (lazyStar (.char (· ≠ '\n')))).ends place).flatMap
        (Regex.char (· = '}')).ends =
      ((lazyStar (.char (· ≠ '\n'))).ends place).flatMap fun last =>
        (Regex.char (· = '}')).ends { last with groups :=
          (2, place.after.take (place.after.length - last.after.length)) :: last.groups } := by
    rw [Regex.ends, List.flatMap_map]
  have opens : ∀ last : Place, (Regex.char (· = '}')).ends { last with groups :=
          (2, place.after.take (place.after.length - last.after.length)) :: last.groups } = [] ↔
        last.after.head?.any (· = '}') = false := by
    rintro ⟨before, rest, groups⟩
    cases rest with
    | nil => simp [Regex.ends]
    | cons next rest => by_cases isBrace : next = '}' <;> simp [Regex.ends, isBrace]
  have found := @rounds_char_lazy (· ≠ '\n') (· = '}') _ opens (place.after.length + 0 + 1) place
    (Nat.lt_succ_self _)
  have text : place.after.take (place.after.takeWhile inDefault).length =
      place.after.takeWhile inDefault :=
    (List.prefix_iff_eq_take.mp (List.takeWhile_prefix _)).symm
  have rest : place.after.drop (place.after.takeWhile inDefault).length =
      place.after.dropWhile inDefault := by
    have both := List.take_append_drop (place.after.takeWhile inDefault).length place.after
    rw [text] at both
    exact List.append_cancel_left
      (both.trans (List.takeWhile_append_dropWhile).symm)
  rw [flat]
  refine found.trans ?_
  have count : (place.after.takeWhile fun char =>
      decide (char ≠ '\n') && !decide (char = '}')).length =
        (place.after.takeWhile inDefault).length := rfl
  simp only [count, take_skip, text]
  simp only [Regex.ends, Place.skip, rest, text]
  cases place.after.dropWhile inDefault with
  | nil => rfl
  | cons close rest => by_cases isBrace : close = '}' <;> simp [isBrace]

/-- A default, a brace or both are found where `closingAt` finds them. -/
theorem ends_closing (place : Place) :
    match closingAt place.after with
    | none => closing.ends place = []
    | some (default, rest) => ∃ last, (closing.ends place).head? = some last ∧
        last.after = rest ∧ last.before.head? = some '}' ∧
        last.groups = default.toList.map (2, ·) ++ place.groups := by
  have parts : closing.ends place =
      (colonDefault.ends place).flatMap (Regex.char (· = '}')).ends ++
        (Regex.char (· = '}')).ends place := by
    have unfolded : closing.ends place =
        ((Regex.optional colonDefault).ends place).flatMap (Regex.char (· = '}')).ends := rfl
    rw [unfolded, ends_optional (by decide), List.flatMap_append, List.flatMap_singleton]
  have colonParts : colonDefault.ends place =
      ((Regex.char (· = ':')).ends place).flatMap fun next =>
        ((Regex.char (· = '-')).ends next).flatMap
          (Regex.group 2 (lazyStar (.char (· ≠ '\n')))).ends := rfl
  cases after : place.after with
  | nil =>
      rw [closingAt, parts, colonParts, ends_char_rejected (by simp [after]),
        ends_char_rejected (by simp [after])]
      rfl
  | cons head tail =>
      rw [closingAt]
      by_cases brace : head = '}'
      · subst brace
        rw [if_pos rfl, parts, colonParts, ends_char_rejected (by simp [after]),
          ends_char_accepted after (by simp)]
        exact ⟨_, rfl, rfl, rfl, rfl⟩
      have noBrace : (Regex.char (· = '}')).ends place = [] :=
        ends_char_rejected (by simpa [after] using brace)
      rw [if_neg brace, parts, noBrace, List.append_nil]
      by_cases colon : head = ':'
      case neg =>
        rw [if_neg (fun both => colon both.1), colonParts,
          ends_char_rejected (by simpa [after] using colon)]
        rfl
      subst colon
      rw [colonParts, ends_char_accepted after (by simp), List.flatMap_singleton]
      cases dashes : tail with
      | nil =>
          rw [if_neg (by simp), ends_char_rejected (by simp)]
          rfl
      | cons second body =>
          by_cases dash : second = '-'
          case neg =>
            rw [if_neg (by simpa using dash), ends_char_rejected (by simpa using dash)]
            rfl
          subst dash
          rw [if_pos ⟨rfl, rfl⟩, ends_char_accepted rfl (by simp), List.flatMap_singleton]
          have found := ends_default
            { before := '-' :: ':' :: place.before, after := body, groups := place.groups }
          rw [List.drop_one, List.tail_cons]
          simp only at found
          split
          · next none_ =>
              split at none_
              · next empty =>
                  rw [empty] at found
                  exact List.head?_eq_none_iff.mp found
              · next close rest isRest =>
                  split at none_
                  · cases none_
                  · next noClose =>
                      rw [isRest] at found
                      simp only [if_neg noClose] at found
                      exact List.head?_eq_none_iff.mp found
          · next default rest some_ =>
              split at some_
              · cases some_
              · next close after_ isRest =>
                  split at some_
                  · next isBrace =>
                      obtain ⟨rfl, rfl⟩ := Prod.mk.inj (Option.some.inj some_)
                      rw [isRest] at found
                      simp only [if_pos isBrace] at found
                      exact ⟨_, found, rfl, rfl, rfl⟩
                  · cases some_

/-- In front of a word character, nothing closes. -/
theorem ends_closing_word {place : Place}
    (word : place.after.head?.any (isWord unicodeWord) = true) : closing.ends place = [] := by
  have found := ends_closing place
  have nothing_ : closingAt place.after = none := by
    cases after : place.after with
    | nil => rfl
    | cons head tail =>
        have isHead : isWord unicodeWord head = true := by simpa [after] using word
        have notBrace : head ≠ '}' := by
          rintro rfl
          cases isHead
        have notColon : head ≠ ':' := by
          rintro rfl
          cases isHead
        simp [closingAt, notBrace, notColon]
  rw [nothing_] at found
  exact found

/-- A match that ends at `last` has captured the reference. -/
structure Captures (reference : Reference) (rest : List Char) (last : Place) : Prop where
  after : last.after = rest
  before : last.before.head? ≠ some '$'
  braced : last.captured 1 = if reference.braced then some reference.name else none
  default : last.captured 2 = reference.default
  bare : reference.braced = false → last.captured 3 = some reference.name

/-- The groups around a name. -/
theorem ends_group_name (index : Nat) (place : Place) :
    match nameAt unicodeWord place.after with
    | none => (Regex.group index (name unicodeWord)).ends place = []
    | some (var, rest) => ∃ last shorter,
        (Regex.group index (name unicodeWord)).ends place = last :: shorter ∧
        last.after = rest ∧ last.before.head? ≠ some '$' ∧
        last.groups = (index, var) :: place.groups ∧
        ∀ other ∈ shorter, other.after.head?.any (isWord unicodeWord) = true := by
  have names := @ends_name unicodeWord place
  cases found : nameAt unicodeWord place.after with
  | none =>
      rw [found] at names
      simp only at names
      simp [Regex.ends, names]
  | some parts =>
      obtain ⟨var, rest⟩ := parts
      rw [found] at names
      obtain ⟨shorter, isEnds, others⟩ := names
      obtain ⟨text, some_, words, -, -⟩ := nameAt_some found
      have captured : place.after.take var.length = var := by rw [text]; exact List.take_left
      refine ⟨{ place.skip var.length with groups := (index, var) :: place.groups },
        shorter.map fun last => { last with groups :=
          (index, place.after.take (place.after.length - last.after.length)) :: last.groups },
        ?_, ?_, ?_, rfl, ?_⟩
      · rw [Regex.ends, isEnds, List.map_cons, take_skip, captured]
        rfl
      · rw [Place.skip, text]
        exact List.drop_left
      · have last : (var.reverse ++ place.before).head? = var.getLast? := by
          rw [List.head?_append_of_ne_nil _ (by simpa using some_), List.head?_reverse]
        rw [Place.skip, captured]
        simp only [last]
        intro isDollar
        exact ne_dollar_of_isWord (words '$' (List.mem_of_getLast? isDollar)) rfl
      · intro other member
        obtain ⟨before, isOther, rfl⟩ := List.mem_map.mp member
        exact others before isOther

/-- A name in braces, after the opening one. -/
theorem ends_braced {place : Place} (noGroups : place.groups = []) :
    match (nameAt unicodeWord place.after).bind fun (name, rest) =>
      (closingAt rest).map fun (default, last) =>
        ((⟨name, default, true⟩, last) : Reference × List Char) with
    | none => ((Regex.group 1 (name unicodeWord)).ends place).flatMap closing.ends = []
    | some (reference, rest) => ∃ last,
        (((Regex.group 1 (name unicodeWord)).ends place).flatMap closing.ends).head? =
          some last ∧ Captures reference rest last := by
  have names := @ends_group_name unicodeWord 1 place
  cases found : nameAt unicodeWord place.after with
  | none =>
      rw [found] at names
      simp only at names
      simp [names]
  | some parts =>
      obtain ⟨var, rest⟩ := parts
      rw [found] at names
      obtain ⟨last, shorter, isEnds, isRest, -, groups, others⟩ := names
      have noMore : shorter.flatMap closing.ends = [] := by
        rw [List.flatMap_eq_nil_iff]
        exact fun other member => ends_closing_word (others other member)
      have closes := ends_closing last
      rw [isRest] at closes
      rw [isEnds, List.flatMap_cons, noMore, List.append_nil]
      simp only [Option.bind_some]
      cases isClosing : closingAt rest with
      | none =>
          rw [isClosing] at closes
          exact closes
      | some parts =>
          obtain ⟨default, after⟩ := parts
          rw [isClosing] at closes
          obtain ⟨final, isFirst, isAfter, brace, allGroups⟩ := closes
          refine ⟨final, isFirst, isAfter, by simp [brace], ?_, ?_, nofun⟩
          · rw [Place.captured, allGroups, groups]
            cases default <;> rfl
          · rw [Place.captured, allGroups, groups, noGroups]
            cases default <;> rfl

theorem ends_bare {place : Place} (noGroups : place.groups = []) :
    match (nameAt unicodeWord place.after).map fun (name, rest) =>
        ((⟨name, none, false⟩, rest) : Reference × List Char) with
    | none => (Regex.group 3 (name unicodeWord)).ends place = []
    | some (reference, rest) => ∃ last,
        ((Regex.group 3 (name unicodeWord)).ends place).head? = some last ∧
          Captures reference rest last := by
  have names := @ends_group_name unicodeWord 3 place
  cases found : nameAt unicodeWord place.after with
  | none =>
      rw [found] at names
      exact names
  | some parts =>
      obtain ⟨var, rest⟩ := parts
      rw [found] at names
      obtain ⟨last, shorter, isEnds, isRest, before, groups, -⟩ := names
      refine ⟨last, by rw [isEnds]; rfl, isRest, before, ?_, ?_, fun _ => ?_⟩
      · rw [Place.captured, groups, noGroups]
        rfl
      · rw [Place.captured, groups, noGroups]
        rfl
      · rw [Place.captured, groups]
        rfl

/-- The pattern at a dollar that follows no dollar. -/
theorem ends_pattern {place : Place} {tail : List Char} (after : place.after = '$' :: tail)
    (before : place.before.head? ≠ some '$') (noGroups : place.groups = []) :
    match afterDollar? unicodeWord tail with
    | none => (envVarPattern unicodeWord).ends place = []
    | some (reference, rest) => ∃ last, ((envVarPattern unicodeWord).ends place).head? =
        some last ∧ Captures reference rest last := by
  have looks : (notBehind (· = '$')).ends place = [place] := by
    have holds : (!place.before.head?.any (· = '$')) = true := by
      cases isHead : place.before.head? with
      | none => rfl
      | some char =>
          have different : char ≠ '$' := by
            rintro rfl
            exact before isHead
          simp [different]
    simp [notBehind, Regex.ends, holds]
  have dollar := @ends_char_accepted (· = '$') place '$' tail after (by simp)
  have parts : (envVarPattern unicodeWord).ends place =
      (((Regex.char (· = '{')).ends
          { place with before := '$' :: place.before, after := tail }).flatMap fun next =>
        ((Regex.group 1 (name unicodeWord)).ends next).flatMap closing.ends) ++
      (Regex.group 3 (name unicodeWord)).ends
        { place with before := '$' :: place.before, after := tail } := by
    have unfolded : (envVarPattern unicodeWord).ends place =
        ((notBehind (· = '$')).ends place).flatMap (fun next =>
          ((Regex.char (· = '$')).ends next).flatMap fun next =>
            ((Regex.char (· = '{')).ends next).flatMap fun next =>
              ((Regex.group 1 (name unicodeWord)).ends next).flatMap closing.ends) ++
        ((notBehind (· = '$')).ends place).flatMap (fun next =>
          ((Regex.char (· = '$')).ends next).flatMap
            (Regex.group 3 (name unicodeWord)).ends) := rfl
    rw [unfolded, looks, List.flatMap_singleton, List.flatMap_singleton, dollar,
      List.flatMap_singleton, List.flatMap_singleton]
  have bare := @ends_bare unicodeWord
    { place with before := '$' :: place.before, after := tail } noGroups
  rw [parts, afterDollar?]
  by_cases isBraced : tail.head? = some '{'
  · obtain ⟨text, rfl⟩ : ∃ text, tail = '{' :: text := by
      cases tail with
      | nil => cases isBraced
      | cons head text => exact ⟨text, by rw [Option.some.inj isBraced]⟩
    have noName : nameAt unicodeWord ('{' :: text) = none := rfl
    simp only [noName, Option.map_none] at bare
    have braced := @ends_braced unicodeWord
      { place with before := '{' :: '$' :: place.before, after := text } noGroups
    rw [if_pos isBraced, bare, List.append_nil, ends_char_accepted rfl (by simp),
      List.flatMap_singleton]
    exact braced
  · have noBrace : (Regex.char (· = '{')).ends
        { place with before := '$' :: place.before, after := tail } = [] := by
      apply ends_char_rejected
      cases tail with
      | nil => rfl
      | cons head text => simpa using isBraced
    rw [if_neg isBraced, noBrace, List.flatMap_nil, List.nil_append]
    exact bare

theorem ends_pattern_behind {place : Place} (behind : place.before.head? = some '$') :
    (envVarPattern unicodeWord).ends place = [] := by
  have blocked : (notBehind (· = '$')).ends place = [] := by simp [notBehind, Regex.ends, behind]
  simp [envVarPattern, bracedReference, bareReference, Regex.ends, blocked]

theorem ends_pattern_other {place : Place} (other : place.after.head? ≠ some '$') :
    (envVarPattern unicodeWord).ends place = [] := by
  have dollar : ∀ next ∈ (notBehind (· = '$')).ends place,
      (Regex.char (· = '$')).ends next = [] := by
    intro next member
    obtain rfl : next = place := by
      simp only [notBehind, Regex.ends] at member
      split at member
      · exact List.mem_singleton.mp member
      · cases member
    apply ends_char_rejected
    cases isHead : next.after.head? with
    | none => rfl
    | some char =>
        have different : char ≠ '$' := by
          rintro rfl
          exact other isHead
        simpa using different
  simp only [envVarPattern, bracedReference, bareReference, Regex.ends, List.append_eq_nil_iff,
    List.flatMap_eq_nil_iff] at dollar ⊢
  refine ⟨fun next member after inside => ?_, fun next member after inside => ?_⟩
  · rw [dollar next member] at inside
    cases inside
  · rw [dollar next member] at inside
    cases inside

theorem replace_of_captures {environ : Environ} {reference : Reference} {rest : List Char}
    {first last : Place} (captures : Captures reference rest last)
    (bareDefault : reference.braced = false → reference.default = none) :
    replace environ ⟨first, last⟩ = reference.value environ := by
  rw [replace, Reference.value, captures.braced, captures.default]
  cases isBraced : reference.braced with
  | true =>
      simp only [if_true]
  | false =>
      have third : Match.group ⟨first, last⟩ 3 = reference.name := by
        rw [Match.group, captures.bare isBraced]
        rfl
      simp only [Bool.false_eq_true, if_false, third, bareDefault isBraced]

theorem default_of_bare {text rest : List Char} {reference : Reference}
    (found : afterDollar? unicodeWord text = some (reference, rest))
    (bare : reference.braced = false) : reference.default = none := by
  rw [afterDollar?] at found
  split at found
  · obtain ⟨parts, -, inner⟩ := Option.bind_eq_some_iff.mp found
    obtain ⟨closes, -, same⟩ := Option.map_eq_some_iff.mp inner
    cases same
    cases bare
  · obtain ⟨parts, -, same⟩ := Option.map_eq_some_iff.mp found
    cases same
    rfl

/-- The substitution as a scan; `afterDollar` tells if the character before is a dollar. -/
def scan (unicodeWord : Char → Bool) (environ : Environ) : Nat → Bool → List Char →
    Except String (List Char)
  | 0, _, _ => .ok []
  | _ + 1, _, [] => .ok []
  | fuel + 1, afterDollar, head :: tail =>
      match if afterDollar then none else reference? unicodeWord (head :: tail) with
      | some (reference, rest) =>
          (reference.value environ).bind fun value =>
            (scan unicodeWord environ fuel false rest).map (value ++ ·)
      | none => (scan unicodeWord environ fuel (head = '$') tail).map (head :: ·)

theorem matchAt_pattern (place : Place) (noGroups : place.groups = []) :
    match if place.before.head? = some '$' then none else reference? unicodeWord place.after with
    | none => (envVarPattern unicodeWord).matchAt place = none
    | some (reference, rest) => ∃ last,
        (envVarPattern unicodeWord).matchAt place = some ⟨place, last⟩ ∧
          Captures reference rest last ∧
          (reference.braced = false → reference.default = none) := by
  by_cases behind : place.before.head? = some '$'
  · rw [if_pos behind, matchAt, ends_pattern_behind behind]
    rfl
  rw [if_neg behind]
  by_cases dollar : place.after.head? = some '$'
  · obtain ⟨tail, after⟩ : ∃ tail, place.after = '$' :: tail := by
      cases isAfter : place.after with
      | nil => simp [isAfter] at dollar
      | cons head tail => exact ⟨tail, by rw [isAfter] at dollar; rw [Option.some.inj dollar]⟩
    have pattern := @ends_pattern unicodeWord place tail after behind noGroups
    have isReference : reference? unicodeWord place.after = afterDollar? unicodeWord tail := by
      rw [after]
      rfl
    rw [isReference]
    cases found : afterDollar? unicodeWord tail with
    | none =>
        rw [found] at pattern
        simp only at pattern
        simp [matchAt, pattern]
    | some parts =>
        obtain ⟨reference, rest⟩ := parts
        rw [found] at pattern
        obtain ⟨last, isFirst, captures⟩ := pattern
        exact ⟨last, by rw [matchAt, isFirst]; rfl, captures, default_of_bare found⟩
  · have noReference : reference? unicodeWord place.after = none := by
      cases isAfter : place.after with
      | nil => rfl
      | cons head tail =>
          have different : head ≠ '$' := by simpa [isAfter] using dollar
          exact if_neg different
    rw [noReference, matchAt, ends_pattern_other dollar]
    rfl

theorem subFrom_eq_scan (environ : Environ) (fuel : Nat) (place : Place)
    (noGroups : place.groups = []) :
    (envVarPattern unicodeWord).subFrom (replace environ) fuel place =
      scan unicodeWord environ fuel (place.before.head? = some '$') place.after := by
  induction fuel generalizing place with
  | zero => rfl
  | succ fuel ih =>
      have matches_ := @matchAt_pattern unicodeWord place noGroups
      rw [subFrom]
      cases after : place.after with
      | nil =>
          have noMatch : (envVarPattern unicodeWord).matchAt place = none := by
            rw [matchAt, ends_pattern_other (by simp [after])]
            rfl
          rw [noMatch, scan]
      | cons head tail =>
          rw [scan]
          simp only [decide_eq_true_eq]
          rw [after] at matches_
          cases found : if place.before.head? = some '$' then none
              else reference? unicodeWord (head :: tail) with
          | none =>
              rw [found] at matches_
              simp only at matches_
              rw [matches_]
              have later := ih { before := head :: place.before, after := tail } rfl
              simp only at later ⊢
              rw [later]
              simp
          | some parts =>
              obtain ⟨reference, rest⟩ := parts
              rw [found] at matches_
              obtain ⟨last, isMatch, captures, bareDefault⟩ := matches_
              have later := ih { last with groups := [] } rfl
              have notDollar : decide (last.before.head? = some '$') = false :=
                decide_eq_false captures.before
              simp only [notDollar, captures.after] at later
              rw [isMatch]
              simp only [replace_of_captures captures bareDefault, captures.after]
              rw [later]

theorem resolve_eq (environ : Environ) (text : String) :
    resolveEnvVarString unicodeWord environ text =
      (scan unicodeWord environ (text.toList.length + 1) false text.toList).map fun result =>
        String.ofList (collapse '$' result) := by
  rw [resolveEnvVarString, sub, subFrom_eq_scan environ _ _ rfl]
  rfl

/-! ## Texts without a reference after an escape -/

theorem closingAt_shorter {text rest : List Char} {default : Option (List Char)}
    (found : closingAt text = some (default, rest)) : rest.length < text.length := by
  cases text with
  | nil => cases found
  | cons head tail =>
      rw [closingAt] at found
      split at found
      · cases found
        exact Nat.lt_succ_self _
      · split at found
        · split at found
          · cases found
          · next close after isRest =>
              split at found
              · cases found
                have dropped := (List.dropWhile_suffix inDefault (l := tail.drop 1)).length_le
                rw [isRest, List.length_cons, List.length_drop] at dropped
                rw [List.length_cons]
                omega
              · cases found
        · cases found

theorem afterDollar_shorter {text rest : List Char} {reference : Reference}
    (found : afterDollar? unicodeWord text = some (reference, rest)) :
    rest.length < text.length := by
  rw [afterDollar?] at found
  split at found
  · obtain ⟨⟨var, after⟩, isName, inner⟩ := Option.bind_eq_some_iff.mp found
    obtain ⟨⟨default, last⟩, closes, same⟩ := Option.map_eq_some_iff.mp inner
    obtain ⟨-, rfl⟩ := Prod.mk.inj same
    obtain ⟨isText, -⟩ := nameAt_some isName
    have first := congrArg List.length isText
    have second := closingAt_shorter closes
    rw [List.length_append, List.length_drop] at first
    omega
  · obtain ⟨⟨var, after⟩, isName, same⟩ := Option.map_eq_some_iff.mp found
    obtain ⟨-, rfl⟩ := Prod.mk.inj same
    obtain ⟨rfl, some_, -⟩ := nameAt_some isName
    have positive := List.length_pos_of_ne_nil some_
    rw [List.length_append]
    omega

theorem reference_shorter {text rest : List Char} {reference : Reference}
    (found : reference? unicodeWord text = some (reference, rest)) :
    rest.length < text.length := by
  cases text with
  | nil => cases found
  | cons head tail =>
      rw [reference?] at found
      split at found
      · exact Nat.lt_succ_of_lt (afterDollar_shorter found)
      · cases found

theorem reference_of_escape (rest : List Char) :
    reference? unicodeWord ('$' :: '$' :: rest) = none :=
  rfl

theorem reference_of_other {head : Char} (other : head ≠ '$') (tail : List Char) :
    reference? unicodeWord (head :: tail) = none :=
  if_neg other

theorem escapedReference_rest {token : Token} {tokens : List Token}
    (none_ : escapedReference (token :: tokens) = false) : escapedReference tokens = false := by
  cases token with
  | escape =>
      cases tokens with
      | nil => rfl
      | cons next rest =>
          cases next with
          | reference reference => cases none_
          | escape => exact none_
          | char symbol => exact none_
  | reference reference => exact none_
  | char symbol => exact none_

/-- A text that does not begin with a dollar does not begin with a reference. -/
theorem escapedReference_of_other (fuel : Nat) {text : List Char} (other : text.head? ≠ some '$') :
    escapedReference (.escape :: tokensFrom unicodeWord fuel text) =
      escapedReference (tokensFrom unicodeWord fuel text) := by
  cases fuel with
  | zero => rfl
  | succ fuel =>
      cases text with
      | nil => rfl
      | cons head tail =>
          have different : head ≠ '$' := by simpa using other
          rw [tokensFrom, if_neg (fun both => different both.1), reference_of_other different]
          rfl

theorem written_append (first second : List (Piece Char)) :
    written '$' (first ++ second) = written '$' first ++ written '$' second := by
  induction first with
  | nil => rfl
  | cons piece first ih => cases piece <;> simp [written, ih]

theorem meant_append (first second : List (Piece Char)) :
    meant '$' (first ++ second) = meant '$' first ++ meant '$' second := by
  induction first with
  | nil => rfl
  | cons piece first ih => cases piece <;> simp [meant, ih]

theorem written_pieces (value : List Char) : written '$' (value.map piece) = value := by
  induction value with
  | nil => rfl
  | cons head tail ih =>
      by_cases dollar : head = '$' <;> simp [piece, dollar, written, ih]

theorem meant_pieces (value : List Char) : meant '$' (value.map piece) = value := by
  induction value with
  | nil => rfl
  | cons head tail ih =>
      by_cases dollar : head = '$' <;> simp [piece, dollar, meant, ih]

/-- A token followed by others, in an exception monad: the texts of the pieces are joined. -/
theorem map_bind_append {Item : Type*} (text : List Item → List Char)
    (joins : ∀ first second, text (first ++ second) = text first ++ text second)
    (first rest : Except String (List Item)) :
    (first.bind fun first => rest.map (first ++ ·)).map text =
      (first.map text).bind fun first => (rest.map text).map (first ++ ·) := by
  cases first with
  | error message => rfl
  | ok first =>
      cases rest with
      | error message => rfl
      | ok rest => exact congrArg Except.ok (joins first rest)

theorem meant_piecesAll (environ : Environ) (tokens : List Token) :
    (piecesAll environ tokens).map (meant '$') = readAll environ tokens := by
  induction tokens with
  | nil => rfl
  | cons token tokens ih =>
      have one : (token.pieces environ).map (meant '$') = token.read environ := by
        cases token with
        | escape => rfl
        | reference reference =>
            rw [Token.pieces, Token.read]
            cases reference.value environ with
            | error message => rfl
            | ok value => exact congrArg Except.ok (meant_pieces value)
        | char symbol => exact congrArg Except.ok (meant_pieces [symbol])
      rw [piecesAll, readAll, map_bind_append _ meant_append, one, ih]

theorem proper_piecesAll {environ : Environ} {tokens : List Token} {pieces : List (Piece Char)}
    (found : piecesAll environ tokens = .ok pieces) : Proper '$' pieces := by
  have ofValue : ∀ value : List Char, Proper '$' (value.map piece) := by
    intro value symbol member
    obtain ⟨char, -, isPiece⟩ := List.mem_map.mp member
    rw [piece] at isPiece
    split at isPiece
    · cases isPiece
    · next different =>
        cases isPiece
        exact different
  induction tokens generalizing pieces with
  | nil =>
      obtain rfl := Except.ok.inj found
      exact fun symbol member => absurd member List.not_mem_nil
  | cons token tokens ih =>
      rw [piecesAll] at found
      cases isFirst : token.pieces environ with
      | error message =>
          rw [isFirst] at found
          cases found
      | ok first =>
          cases isRest : piecesAll environ tokens with
          | error message =>
              rw [isFirst, isRest] at found
              cases found
          | ok rest =>
              rw [isFirst, isRest] at found
              obtain rfl := Except.ok.inj found
              have properFirst : Proper '$' first := by
                cases token with
                | escape =>
                    obtain rfl := Except.ok.inj isFirst
                    intro symbol member
                    cases List.mem_singleton.mp member
                | reference reference =>
                    rw [Token.pieces] at isFirst
                    cases isValue : reference.value environ with
                    | error message =>
                        rw [isValue] at isFirst
                        cases isFirst
                    | ok value =>
                        rw [isValue] at isFirst
                        obtain rfl := Except.ok.inj isFirst
                        exact ofValue value
                | char symbol =>
                    obtain rfl := Except.ok.inj isFirst
                    exact ofValue [symbol]
              intro symbol member
              obtain early | late := List.mem_append.mp member
              · exact properFirst symbol early
              · exact ih isRest symbol late

/-- Where no reference follows an escape, the scan substitutes what the documentation
reads, and leaves the escapes; by induction on the tokens. -/
theorem scan_eq (environ : Environ) (tokenFuel : Nat) {text : List Char} {scanFuel : Nat}
    {afterDollar : Bool} (tokensEnough : text.length < tokenFuel)
    (scanEnough : text.length < scanFuel)
    (none_ : escapedReference (tokensFrom unicodeWord tokenFuel text) = false)
    (noneNow : afterDollar = true →
      escapedReference (.escape :: tokensFrom unicodeWord tokenFuel text) = false) :
    scan unicodeWord environ scanFuel afterDollar text =
      (piecesAll environ (tokensFrom unicodeWord tokenFuel text)).map (written '$') := by
  induction tokenFuel generalizing text scanFuel afterDollar with
  | zero => exact absurd tokensEnough (Nat.not_lt_zero _)
  | succ tokenFuel ih =>
      obtain ⟨scanFuel, rfl⟩ : ∃ fuel, scanFuel = fuel + 1 := ⟨scanFuel - 1, by omega⟩
      cases text with
      | nil => rfl
      | cons head tail =>
          simp only [List.length_cons] at tokensEnough scanEnough
          rw [tokensFrom] at none_ noneNow ⊢
          by_cases escape : head = '$' ∧ tail.head? = some '$'
          · obtain ⟨rfl, second⟩ := escape
            obtain ⟨rest, rfl⟩ : ∃ rest, tail = '$' :: rest := by
              cases tail with
              | nil => cases second
              | cons next rest => exact ⟨rest, by rw [Option.some.inj second]⟩
            rw [if_pos ⟨rfl, rfl⟩] at none_ ⊢
            simp only [List.length_cons] at tokensEnough scanEnough
            obtain ⟨scanFuel, rfl⟩ : ∃ fuel, scanFuel = fuel + 1 := ⟨scanFuel - 1, by omega⟩
            have later := @ih rest scanFuel true (by omega) (by omega)
              (escapedReference_rest none_) (fun _ => none_)
            have first : (if afterDollar then none
                else reference? unicodeWord ('$' :: '$' :: rest)) = none := by
              cases afterDollar <;> rfl
            rw [scan, first]
            simp only [decide_true]
            rw [scan]
            simp only [if_true, decide_true]
            rw [later, List.drop_one, List.tail_cons, piecesAll, map_bind_append _ written_append]
            cases piecesAll environ (tokensFrom unicodeWord tokenFuel rest) <;> rfl
          rw [if_neg escape] at none_ noneNow ⊢
          cases found : reference? unicodeWord (head :: tail) with
          | some parts =>
              obtain ⟨reference, rest⟩ := parts
              rw [found] at none_ noneNow
              have notAfter : afterDollar = false := by
                cases afterDollar with
                | false => rfl
                | true => cases noneNow rfl
              subst notAfter
              have shorter := reference_shorter found
              simp only [List.length_cons] at shorter
              have later := @ih rest scanFuel false (by omega) (by omega)
                (escapedReference_rest none_) nofun
              rw [scan]
              simp only [Bool.false_eq_true, if_false, found]
              rw [later, piecesAll, map_bind_append _ written_append, Token.pieces]
              cases reference.value environ with
              | error message => rfl
              | ok value =>
                  simp only [Except.map, Except.bind, written_pieces]
          | none =>
              rw [found] at none_ noneNow
              have noReference : (if afterDollar then none
                  else reference? unicodeWord (head :: tail)) = none := by
                cases afterDollar <;> simp [found]
              have later := @ih tail scanFuel (head = '$') (by omega) (by omega)
                (escapedReference_rest none_) (fun dollar => by
                  rw [escapedReference_of_other]
                  · exact escapedReference_rest none_
                  · exact fun next => escape ⟨of_decide_eq_true dollar, next⟩)
              rw [scan, noReference]
              simp only
              rw [later, piecesAll, map_bind_append _ written_append, Token.pieces]
              have one : written '$' [piece head] = [head] := written_pieces [head]
              simp only [Except.map, Except.bind, one]
              cases piecesAll environ (tokensFrom unicodeWord tokenFuel tail) <;> rfl

/-! ## Texts with a reference after an escape -/

/-- An environment in which every variable is empty. -/
def blank : Environ :=
  fun _ => some []

theorem scan_copy (environ : Environ) {part rest : List Char}
    (noDollar : ∀ char ∈ part, char ≠ '$') (some_ : part ≠ []) (fuel : Nat)
    (afterDollar : Bool) :
    scan unicodeWord environ (fuel + part.length) afterDollar (part ++ rest) =
      (scan unicodeWord environ fuel false rest).map (part ++ ·) := by
  induction part generalizing afterDollar with
  | nil => exact absurd rfl some_
  | cons head tail ih =>
      have different := noDollar head List.mem_cons_self
      have noReference : (if afterDollar then none
          else reference? unicodeWord (head :: (tail ++ rest))) = none := by
        cases afterDollar
        · exact reference_of_other different _
        · rfl
      rw [List.length_cons, ← Nat.add_assoc, List.cons_append, scan, noReference]
      simp only [different, decide_false]
      cases tail with
      | nil => simp
      | cons next tail =>
          rw [ih (fun char member => noDollar char (List.mem_cons_of_mem _ member)) (by simp)]
          cases scan unicodeWord environ fuel false rest <;> rfl

theorem dropWhile_brace {accepts : Char → Bool} (stops : accepts '}' = false)
    (part rest : List Char) :
    (part ++ '}' :: rest).dropWhile accepts = part.dropWhile accepts ++ '}' :: rest := by
  induction part with
  | nil => simp [stops]
  | cons head tail ih => by_cases accepted : accepts head <;> simp [accepted, ih]

/-- A part without a brace, up to the brace after it: the default that closes there ends in
front of the rest. -/
theorem closingAt_inside {part rest last : List Char} {default : Option (List Char)}
    (noBrace : '}' ∉ part) (found : closingAt (part ++ '}' :: rest) = some (default, last)) :
    last = rest := by
  cases part with
  | nil =>
      rw [List.nil_append, closingAt, if_pos rfl] at found
      cases found
      rfl
  | cons head tail =>
      have notBrace : head ≠ '}' := by
        rintro rfl
        exact noBrace List.mem_cons_self
      rw [List.cons_append, closingAt, if_neg notBrace] at found
      split at found
      · next dashes =>
          cases tail with
          | nil => exact absurd dashes.2 (by simp)
          | cons second body =>
              rw [List.cons_append, List.drop_one, List.tail_cons,
                dropWhile_brace (by rfl)] at found
              cases isBody : body.dropWhile inDefault with
              | nil =>
                  rw [isBody, List.nil_append] at found
                  simp only [if_true] at found
                  cases found
                  rfl
              | cons close after =>
                  have member : close ∈ body :=
                    (List.dropWhile_suffix inDefault).subset (isBody ▸ List.mem_cons_self)
                  have notClose : close ≠ '}' := by
                    rintro rfl
                    exact noBrace (by simp [member])
                  rw [isBody, List.cons_append] at found
                  simp only [if_neg notClose] at found
                  cases found
      · cases found

/-- A reference that begins in such a part ends in it, or with the brace. -/
theorem reference_inside {part rest last : List Char} {reference : Reference}
    (noBrace : '}' ∉ part)
    (found : reference? unicodeWord (part ++ '}' :: rest) = some (reference, last)) :
    last = rest ∨ ∃ shorter, last = shorter ++ '}' :: rest ∧ shorter.length < part.length ∧
      '}' ∉ shorter := by
  cases part with
  | nil => cases found
  | cons head tail =>
      rw [List.cons_append, reference?] at found
      split at found
      · have noBraceTail : '}' ∉ tail := fun member => noBrace (List.mem_cons_of_mem _ member)
        rw [afterDollar?] at found
        split at found
        · next braced =>
            cases tail with
            | nil => cases braced
            | cons next inner =>
                have noBraceInner : '}' ∉ inner.dropWhile (isWord unicodeWord) :=
                  fun member => noBraceTail (List.mem_cons_of_mem _
                    ((List.dropWhile_suffix _).subset member))
                obtain ⟨⟨var, after⟩, isName, closes⟩ := Option.bind_eq_some_iff.mp found
                obtain ⟨⟨default, _⟩, isClosing, same⟩ := Option.map_eq_some_iff.mp closes
                obtain ⟨-, rfl⟩ := Prod.mk.inj same
                rw [List.cons_append, List.drop_one, List.tail_cons] at isName
                obtain ⟨-, -, -, isAfter, -⟩ := nameAt_some isName
                rw [dropWhile_brace isWord_brace] at isAfter
                simp only [isAfter] at isClosing
                exact .inl (closingAt_inside noBraceInner isClosing)
        · obtain ⟨⟨var, after⟩, isName, same⟩ := Option.map_eq_some_iff.mp found
          obtain ⟨-, rfl⟩ := Prod.mk.inj same
          obtain ⟨-, -, -, isAfter, -⟩ := nameAt_some isName
          rw [dropWhile_brace isWord_brace] at isAfter
          refine .inr ⟨tail.dropWhile (isWord unicodeWord), isAfter, ?_, ?_⟩
          · exact Nat.lt_succ_of_le (List.dropWhile_suffix _).length_le
          · exact fun member => noBraceTail ((List.dropWhile_suffix _).subset member)
      · cases found

theorem map_append_append (first second : List Char) (rest : Except String (List Char)) :
    (rest.map (second ++ ·)).map (first ++ ·) = rest.map ((first ++ second) ++ ·) := by
  cases rest with
  | error message => rfl
  | ok rest => exact congrArg Except.ok (List.append_assoc first second rest).symm

/-- Whatever the scan finds in a part without a brace, it comes to the rest behind the
brace. -/
theorem scan_inside {part rest : List Char} {scanFuel : Nat} (afterDollar : Bool)
    (noBrace : '}' ∉ part) (enough : (part ++ '}' :: rest).length < scanFuel) :
    ∃ fuel out, rest.length < fuel ∧
      scan unicodeWord blank scanFuel afterDollar (part ++ '}' :: rest) =
        (scan unicodeWord blank fuel false rest).map (out ++ ·) := by
  induction size : part.length using Nat.strongRecOn
    generalizing part scanFuel afterDollar with
  | _ size ih =>
      obtain ⟨scanFuel, rfl⟩ : ∃ fuel, scanFuel = fuel + 1 := ⟨scanFuel - 1, by omega⟩
      simp only [List.length_append, List.length_cons] at enough
      cases part with
      | nil =>
          have noReference : (if afterDollar then none
              else reference? unicodeWord ('}' :: rest)) = none := by
            cases afterDollar <;> rfl
          refine ⟨scanFuel, ['}'], by omega, ?_⟩
          rw [List.nil_append, scan, noReference]
          rfl
      | cons head tail =>
          simp only [List.length_cons] at size enough
          have noBraceTail : '}' ∉ tail := fun member => noBrace (List.mem_cons_of_mem _ member)
          rw [List.cons_append, scan]
          cases found : (if afterDollar then none
              else reference? unicodeWord (head :: (tail ++ '}' :: rest))) with
          | none =>
              obtain ⟨fuel, out, fuelEnough, scanned⟩ := @ih tail.length (by omega) tail
                scanFuel (head = '$') noBraceTail
                (by simp only [List.length_append, List.length_cons]; omega) rfl
              refine ⟨fuel, head :: out, fuelEnough, ?_⟩
              simp only [scanned]
              exact map_append_append [head] out _
          | some parts =>
              obtain ⟨reference, last⟩ := parts
              have isReference : reference? unicodeWord (head :: tail ++ '}' :: rest) =
                  some (reference, last) := by
                cases afterDollar with
                | true => cases found
                | false => exact found
              have value : reference.value blank = .ok [] := rfl
              simp only [value, Except.bind]
              obtain rfl | ⟨shorter, rfl, fewer, noBraceShorter⟩ :=
                reference_inside noBrace isReference
              · exact ⟨scanFuel, [], by omega, rfl⟩
              · simp only [List.length_cons] at fewer
                obtain ⟨fuel, out, fuelEnough, scanned⟩ := @ih shorter.length (by omega) shorter
                  scanFuel false noBraceShorter
                  (by simp only [List.length_append, List.length_cons]; omega) rfl
                refine ⟨fuel, out, fuelEnough, ?_⟩
                rw [scanned]
                exact map_append_append [] out _

theorem closingAt_splits {text rest : List Char} {default : Option (List Char)}
    (found : closingAt text = some (default, rest)) :
    ∃ body, text = body ++ '}' :: rest ∧ '}' ∉ body := by
  cases text with
  | nil => cases found
  | cons head tail =>
      rw [closingAt] at found
      split at found
      · next brace =>
          cases found
          exact ⟨[], by rw [brace]; rfl, List.not_mem_nil⟩
      · next notBrace =>
          split at found
          · next dashes =>
              obtain ⟨isColon, isDash⟩ := dashes
              obtain ⟨inner, rfl⟩ : ∃ inner, tail = '-' :: inner := by
                cases tail with
                | nil => cases isDash
                | cons second inner => exact ⟨inner, by rw [Option.some.inj isDash]⟩
              rw [List.drop_one, List.tail_cons] at found
              split at found
              · cases found
              · next close after isRest =>
                  split at found
                  · next isBrace =>
                      subst isBrace
                      cases found
                      refine ⟨head :: '-' :: inner.takeWhile inDefault, ?_, ?_⟩
                      · rw [List.cons_append, List.cons_append, ← isRest,
                          List.takeWhile_append_dropWhile]
                      · simp only [List.mem_cons, not_or]
                        refine ⟨Ne.symm notBrace, by decide, fun member => ?_⟩
                        have inside := List.all_eq_true.mp List.all_takeWhile _ member
                        cases inside
                  · cases found
          · cases found

/-- A reference after an escape is left in the text, at least in part. -/
theorem scan_skips {text rest : List Char} {reference : Reference} {scanFuel : Nat}
    (found : reference? unicodeWord text = some (reference, rest))
    (enough : text.length < scanFuel) :
    ∃ fuel out, rest.length < fuel ∧ 1 ≤ others '$' out ∧
      scan unicodeWord blank scanFuel true text =
        (scan unicodeWord blank fuel false rest).map (out ++ ·) := by
  obtain ⟨scanFuel, rfl⟩ : ∃ fuel, scanFuel = fuel + 1 := ⟨scanFuel - 1, by omega⟩
  cases text with
  | nil => cases found
  | cons head tail =>
      rw [reference?] at found
      split at found
      case isFalse => cases found
      rename_i isDollar
      subst isDollar
      simp only [List.length_cons] at enough
      have copied : scan unicodeWord blank (scanFuel + 1) true ('$' :: tail) =
          (scan unicodeWord blank scanFuel true tail).map (['$'] ++ ·) := rfl
      rw [copied]
      rw [afterDollar?] at found
      split at found
      · next braced =>
          obtain ⟨text, rfl⟩ : ∃ text, tail = '{' :: text := by
            cases tail with
            | nil => cases braced
            | cons next text => exact ⟨text, by rw [Option.some.inj braced]⟩
          obtain ⟨⟨var, after⟩, isName, closes⟩ := Option.bind_eq_some_iff.mp found
          obtain ⟨⟨default, _⟩, isClosing, same⟩ := Option.map_eq_some_iff.mp closes
          obtain ⟨-, rfl⟩ := Prod.mk.inj same
          obtain ⟨isText, -, words, -, -⟩ := nameAt_some isName
          obtain ⟨body, rfl, noBrace⟩ := closingAt_splits isClosing
          rw [List.drop_one, List.tail_cons, ← List.append_assoc] at isText
          have noBraceAll : '}' ∉ var ++ body := by
            intro member
            obtain inName | inBody := List.mem_append.mp member
            · have word := words '}' inName
              cases word
            · exact noBrace inBody
          simp only [List.length_cons] at enough
          obtain ⟨scanFuel, rfl⟩ : ∃ fuel, scanFuel = fuel + 1 := ⟨scanFuel - 1, by omega⟩
          obtain ⟨fuel, out, fuelEnough, scanned⟩ := @scan_inside unicodeWord _ _ scanFuel
            false noBraceAll (by rw [← isText]; omega)
          have opened : scan unicodeWord blank (scanFuel + 1) true ('{' :: text) =
              (scan unicodeWord blank scanFuel false text).map (['{'] ++ ·) := rfl
          refine ⟨fuel, ['$'] ++ (['{'] ++ out), fuelEnough, ?_, ?_⟩
          · have brace : others '$' ['{'] = 1 := rfl
            rw [others_append, others_append, brace]
            omega
          · rw [opened, isText, scanned, map_append_append, map_append_append, List.append_assoc]
      · obtain ⟨⟨var, after⟩, isName, same⟩ := Option.map_eq_some_iff.mp found
        obtain ⟨-, rfl⟩ := Prod.mk.inj same
        obtain ⟨rfl, some_, words, -, -⟩ := nameAt_some isName
        rw [List.length_append] at enough
        have name := @scan_copy unicodeWord blank var after
          (fun char member => ne_dollar_of_isWord (words char member)) some_
          (scanFuel - var.length) true
        rw [Nat.sub_add_cancel (by omega)] at name
        refine ⟨scanFuel - var.length, ['$'] ++ var, by omega, ?_, ?_⟩
        · obtain ⟨first, others_, rfl⟩ := List.exists_cons_of_ne_nil some_
          have different := ne_dollar_of_isWord (words first List.mem_cons_self)
          rw [others_append, others_cons different]
          omega
        · rw [name]
          exact map_append_append ['$'] var _

/-- With every variable empty, the substitution leaves no fewer other characters than the
documentation reads, and more of them where a reference follows an escape. -/
theorem others_scan (tokenFuel : Nat) {text : List Char} {scanFuel : Nat} {afterDollar : Bool}
    (tokensEnough : text.length < tokenFuel) (scanEnough : text.length < scanFuel) :
    ∃ out read, scan unicodeWord blank scanFuel afterDollar text = .ok out ∧
      readAll blank (tokensFrom unicodeWord tokenFuel text) = .ok read ∧
      others '$' read + (escapedReference (if afterDollar then
        .escape :: tokensFrom unicodeWord tokenFuel text
        else tokensFrom unicodeWord tokenFuel text)).toNat ≤ others '$' out := by
  induction tokenFuel generalizing text scanFuel afterDollar with
  | zero => exact absurd tokensEnough (Nat.not_lt_zero _)
  | succ tokenFuel ih =>
      obtain ⟨scanFuel, rfl⟩ : ∃ fuel, scanFuel = fuel + 1 := ⟨scanFuel - 1, by omega⟩
      cases text with
      | nil => cases afterDollar <;> exact ⟨[], [], rfl, rfl, Nat.le_refl _⟩
      | cons head tail =>
          simp only [List.length_cons] at tokensEnough scanEnough
          rw [tokensFrom]
          by_cases escape : head = '$' ∧ tail.head? = some '$'
          · obtain ⟨rfl, second⟩ := escape
            obtain ⟨rest, rfl⟩ : ∃ rest, tail = '$' :: rest := by
              cases tail with
              | nil => cases second
              | cons next rest => exact ⟨rest, by rw [Option.some.inj second]⟩
            rw [if_pos ⟨rfl, rfl⟩, List.drop_one, List.tail_cons]
            simp only [List.length_cons] at tokensEnough scanEnough
            obtain ⟨scanFuel, rfl⟩ : ∃ fuel, scanFuel = fuel + 1 := ⟨scanFuel - 1, by omega⟩
            obtain ⟨out, read, scanned, isRead, fewer⟩ := @ih rest scanFuel true (by omega)
              (by omega)
            refine ⟨'$' :: '$' :: out, '$' :: read, ?_, ?_, ?_⟩
            · have first : (if afterDollar then none
                  else reference? unicodeWord ('$' :: '$' :: rest)) = none := by
                cases afterDollar <;> rfl
              rw [scan, first]
              simp only [decide_true]
              rw [scan]
              simp only [if_true, decide_true]
              rw [scanned]
              rfl
            · rw [readAll, isRead]
              rfl
            · rw [if_pos rfl] at fewer
              have same : escapedReference (if afterDollar then
                  .escape :: .escape :: tokensFrom unicodeWord tokenFuel rest
                  else .escape :: tokensFrom unicodeWord tokenFuel rest) =
                escapedReference (.escape :: tokensFrom unicodeWord tokenFuel rest) := by
                cases afterDollar <;> rfl
              rw [same, others_mark_cons, others_mark_cons, others_mark_cons]
              exact fewer
          rw [if_neg escape]
          cases found : reference? unicodeWord (head :: tail) with
          | some parts =>
              obtain ⟨reference, rest⟩ := parts
              have shorter := reference_shorter found
              simp only [List.length_cons] at shorter
              have value : reference.value blank = .ok [] := rfl
              cases afterDollar with
              | false =>
                  obtain ⟨out, read, scanned, isRead, fewer⟩ := @ih rest scanFuel false
                    (by omega) (by omega)
                  refine ⟨out, read, ?_, ?_, fewer⟩
                  · rw [scan]
                    simp only [Bool.false_eq_true, if_false, found, value, Except.bind, scanned]
                    rfl
                  · rw [readAll, isRead]
                    rfl
              | true =>
                  -- The scan passes over the reference.
                  obtain ⟨fuel, skipped, fuelEnough, some_, scans⟩ := @scan_skips unicodeWord _
                    _ _ (scanFuel + 1) found (by simp only [List.length_cons]; omega)
                  obtain ⟨out, read, scanned, isRead, fewer⟩ := @ih rest fuel false
                    (by omega) fuelEnough
                  refine ⟨skipped ++ out, read, ?_, ?_, ?_⟩
                  · rw [scans, scanned]
                    rfl
                  · rw [readAll, isRead]
                    rfl
                  · have one : (escapedReference (if true then
                        .escape :: .reference reference ::
                          tokensFrom unicodeWord tokenFuel rest
                        else .reference reference ::
                          tokensFrom unicodeWord tokenFuel rest)).toNat = 1 := rfl
                    rw [others_append, one]
                    omega
          | none =>
              obtain ⟨out, read, scanned, isRead, fewer⟩ := @ih tail scanFuel (head = '$')
                (by omega) (by omega)
              refine ⟨head :: out, head :: read, ?_, ?_, ?_⟩
              · have noReference : (if afterDollar then none
                    else reference? unicodeWord (head :: tail)) = none := by
                  cases afterDollar <;> simp [found]
                rw [scan, noReference]
                simp only [scanned]
                rfl
              · rw [readAll, isRead]
                rfl
              · have same : escapedReference (if afterDollar then
                    .escape :: .char head :: tokensFrom unicodeWord tokenFuel tail
                    else .char head :: tokensFrom unicodeWord tokenFuel tail) =
                  escapedReference (tokensFrom unicodeWord tokenFuel tail) := by
                  cases afterDollar <;> rfl
                rw [same]
                by_cases dollar : head = '$'
                · subst dollar
                  simp only [decide_true, if_true] at fewer
                  rw [escapedReference_of_other] at fewer
                  · rw [others_mark_cons, others_mark_cons]
                    exact fewer
                  · exact fun next => escape ⟨rfl, next⟩
                · simp only [dollar, decide_false, Bool.false_eq_true, if_false] at fewer
                  rw [others_cons dollar, others_cons dollar]
                  omega

end

/-! ## When interpolation follows its documentation -/

theorem textsAgree_iff {unicodeWord : Char → Bool} {text : String}
    (none_ : escapedReference (tokens unicodeWord text) = false) (environ : Environ) :
    Agrees unicodeWord environ text ↔ FewDollars unicodeWord environ text := by
  have scanned := @scan_eq unicodeWord environ (text.toList.length + 1) text.toList
    (text.toList.length + 1) false (Nat.lt_succ_self _) (Nat.lt_succ_self _) none_ nofun
  have read := meant_piecesAll environ (tokens unicodeWord text)
  rw [Agrees, FewDollars, resolve_eq, scanned, documented, ← read]
  change ((Except.map _ (Except.map _ (piecesAll environ (tokens unicodeWord text)))).toOption =
    _) ↔ _
  cases found : piecesAll environ (tokens unicodeWord text) with
  | error message => simp [Except.map, Except.toOption]
  | ok pieces =>
      have clear := collapse_eq_meant_iff (proper_piecesAll found)
      simp only [Except.map, Except.toOption, Option.some.injEq, String.ofList_inj,
        Except.ok.injEq, forall_eq', clear]

theorem disagrees_of_escapedReference {unicodeWord : Char → Bool} {text : String}
    (some_ : escapedReference (tokens unicodeWord text) = true) :
    ¬ Agrees unicodeWord blank text := by
  intro agrees
  obtain ⟨out, read, scanned, isRead, fewer⟩ := @others_scan unicodeWord
    (text.toList.length + 1) text.toList (text.toList.length + 1) false (Nat.lt_succ_self _)
    (Nat.lt_succ_self _)
  have isRead' : readAll blank (tokens unicodeWord text) = .ok read := isRead
  have more : escapedReference (tokensFrom unicodeWord (text.toList.length + 1) text.toList) =
      true := some_
  rw [Agrees, resolve_eq, scanned, documented, isRead'] at agrees
  simp only [Except.map, Except.toOption, Option.some.injEq, String.ofList_inj] at agrees
  rw [if_neg (by simp), more, ← agrees, others_collapse] at fewer
  exact Nat.not_succ_le_self _ fewer

/-- A host without letters beyond ASCII, and a password with two dollars. -/
def asciiOnly : Char → Bool :=
  fun _ => false

def password : Environ :=
  fun name => if name = "PASSWORD".toList then some "a$$b".toList else none

end EnvironmentVariables

end InferenceEndpoint
