import InferenceEndpoint.Library.Json
import Mathlib.Data.List.Nodup
import Mathlib.Data.List.TakeDrop
import Mathlib.Tactic.SplitIfs

/-!
# What is written is read back

The decoder takes every text of the encoder back to the value that was written, up to the
way in which its floats are printed.  Numbers need to see where they end, so each part of
the text is read in front of a rest that closes it.
-/

namespace Json

/-! ## Characters -/

/-- What is tested on every one of some characters. -/
theorem forall_mem_of_all {test : Char → Prop} [DecidablePred test] {chars : List Char}
    (all : (chars.all fun char => test char) = true) : ∀ char ∈ chars, test char :=
  fun char member => of_decide_eq_true (List.all_eq_true.mp all char member)

theorem hexDigit?_hexChar {digit : Nat} (small : digit < 16) :
    hexDigit? (hexChar digit) = some digit := by
  have all : ∀ digit : Fin 16, hexDigit? (hexChar digit) = some digit.val := by decide
  exact all ⟨digit, small⟩

/-- The four digits of a code unit are read back. -/
theorem codeUnit?_unitEscape {unit : Nat} (small : unit < 65536) (rest : List Char) :
    codeUnit? (hexChar (unit / 4096 % 16) :: hexChar (unit / 256 % 16) ::
      hexChar (unit / 16 % 16) :: hexChar (unit % 16) :: rest) = some (unit, rest) := by
  have digits : hexNumber? [hexChar (unit / 4096 % 16), hexChar (unit / 256 % 16),
      hexChar (unit / 16 % 16), hexChar (unit % 16)] = some unit := by
    have below : ∀ number, number % 16 < 16 := fun number => Nat.mod_lt _ (by decide)
    simp only [hexNumber?, List.foldl_cons, List.foldl_nil, hexDigit?_hexChar (below _),
      Option.bind_some, Option.map_some, Option.some_inj]
    omega
  simp [codeUnit?, digits]

theorem valid_code (char : Char) :
    char.toNat < 0xD800 ∨ 0xDFFF < char.toNat ∧ char.toNat < 0x110000 := by
  exact char.valid

/-- A code unit that is a character of its own. -/
theorem unicodeEscape_single {char : Char} (small : char.toNat < 0x10000) (rest : List Char) :
    unicodeEscape ((unitEscape char.toNat).drop 2 ++ rest) = some (char, rest) := by
  have noSurrogate : ¬ (0xD800 ≤ char.toNat ∧ char.toNat < 0xDC00) := by
    have valid := valid_code char
    omega
  simp only [unitEscape, List.drop_succ_cons, List.drop_zero, List.cons_append, List.nil_append,
    unicodeEscape, codeUnit?_unitEscape small, Option.bind_some, if_neg noSurrogate,
    Char.ofNat_toNat]

/-- Two code units that form a surrogate pair. -/
theorem unicodeEscape_surrogates {high low : Nat} (isHigh : 0xD800 ≤ high ∧ high < 0xDC00)
    (isLow : 0xDC00 ≤ low ∧ low < 0xE000) (rest : List Char) :
    unicodeEscape ((unitEscape high).drop 2 ++ (unitEscape low ++ rest)) =
      some (Char.ofNat (0x10000 + (high - 0xD800) * 0x400 + (low - 0xDC00)), rest) := by
  have first := codeUnit?_unitEscape (show high < 65536 by omega) (unitEscape low ++ rest)
  have second := codeUnit?_unitEscape (show low < 65536 by omega) rest
  unfold unicodeEscape
  rw [show (unitEscape high).drop 2 ++ (unitEscape low ++ rest) =
    hexChar (high / 4096 % 16) :: hexChar (high / 256 % 16) :: hexChar (high / 16 % 16) ::
      hexChar (high % 16) :: (unitEscape low ++ rest) from rfl, first, Option.bind_some]
  dsimp only
  rw [if_pos isHigh]
  simp only [unitEscape, List.cons_append, List.nil_append, second, Option.map_some]
  rw [if_pos isLow]

/-- A character beyond the code units is written as two of them. -/
theorem unicodeEscape_pair {char : Char} (large : 0x10000 ≤ char.toNat) (rest : List Char) :
    unicodeEscape ((unitEscape (0xD800 + (char.toNat - 0x10000) / 0x400)).drop 2 ++
      (unitEscape (0xDC00 + (char.toNat - 0x10000) % 0x400) ++ rest)) = some (char, rest) := by
  have valid := valid_code char
  rw [unicodeEscape_surrogates (by omega) (by omega)]
  have code : 0x10000 + (0xD800 + (char.toNat - 0x10000) / 0x400 - 0xD800) * 0x400 +
      (0xDC00 + (char.toNat - 0x10000) % 0x400 - 0xDC00) = char.toNat := by omega
  rw [code, Char.ofNat_toNat]

theorem decodeString_escape (fuel : Nat) {escape char : Char} (other : escape ≠ 'u')
    (isChar : escaped? escape = some char) (rest : List Char) :
    decodeString (fuel + 1) ('\\' :: escape :: rest) =
      (decodeString fuel rest).map fun (chars, last) => (char :: chars, last) := by
  rw [decodeString]
  · rw [isChar, Option.bind_some]
  · exact other

theorem decodeString_unicode (fuel : Nat) {char : Char} {escape rest : List Char}
    (isChar : unicodeEscape escape = some (char, rest)) :
    decodeString (fuel + 1) ('\\' :: 'u' :: escape) =
      (decodeString fuel rest).map fun (chars, last) => (char :: chars, last) := by
  rw [decodeString, isChar, Option.bind_some]

theorem decodeString_plain (fuel : Nat) {char : Char} (printable : 32 ≤ char.toNat)
    (noQuote : char ≠ '"') (noEscape : char ≠ '\\') (rest : List Char) :
    decodeString (fuel + 1) (char :: rest) =
      (decodeString fuel rest).map fun (chars, last) => (char :: chars, last) := by
  rw [decodeString]
  · rw [if_neg (by simp [noEscape]; omega)]
  · exact fun same => noQuote same
  · exact fun _ same => absurd same noEscape
  · exact fun _ _ same => absurd same noEscape

theorem char_eq_ofNat {char : Char} {code : Nat} (isCode : char.toNat = code) :
    char = Char.ofNat code := by
  rw [← isCode, Char.ofNat_toNat]

/-- One character is read back. -/
theorem decodeString_encodeChar (fuel : Nat) (char : Char) (rest : List Char) :
    decodeString (fuel + 1) (encodeChar char ++ rest) =
      (decodeString fuel rest).map fun (chars, last) => (char :: chars, last) := by
  unfold encodeChar
  split
  · exact decodeString_escape fuel (by decide) rfl rest
  · exact decodeString_escape fuel (by decide) rfl rest
  · exact decodeString_escape fuel (by decide) rfl rest
  · exact decodeString_escape fuel (by decide) rfl rest
  · exact decodeString_escape fuel (by decide) rfl rest
  · rename_i noQuote noEscape _ _ _
    dsimp only
    by_cases backspace : char.toNat = 8
    · rw [if_pos backspace, char_eq_ofNat backspace]
      exact decodeString_escape fuel (by decide) rfl rest
    rw [if_neg backspace]
    by_cases formFeed : char.toNat = 12
    · rw [if_pos formFeed, char_eq_ofNat formFeed]
      exact decodeString_escape fuel (by decide) rfl rest
    rw [if_neg formFeed]
    by_cases printable : 32 ≤ char.toNat ∧ char.toNat < 127
    · rw [if_pos printable]
      exact decodeString_plain fuel printable.1 noQuote noEscape rest
    rw [if_neg printable]
    by_cases small : char.toNat < 0x10000
    · rw [if_pos small]
      exact decodeString_unicode fuel (unicodeEscape_single small rest)
    · rw [if_neg small, List.append_assoc]
      exact decodeString_unicode fuel (unicodeEscape_pair (by omega) rest)

/-- A text is read back up to its closing quote. -/
theorem decodeString_text (chars rest : List Char) {fuel : Nat} (enough : chars.length < fuel) :
    decodeString fuel (chars.flatMap encodeChar ++ '"' :: rest) = some (chars, rest) := by
  induction chars generalizing fuel with
  | nil =>
      cases fuel with
      | zero => cases enough
      | succ fuel => rfl
  | cons char chars ih =>
      cases fuel with
      | zero => cases enough
      | succ fuel =>
          rw [List.flatMap_cons, List.append_assoc, decodeString_encodeChar,
            ih (by simpa using enough)]
          rfl

theorem length_encodeChar_pos (char : Char) : 0 < (encodeChar char).length := by
  unfold encodeChar
  split
  case h_6 =>
    dsimp only
    split_ifs <;> simp [unitEscape]
  all_goals decide

theorem length_le_flatMap_encodeChar (chars : List Char) :
    chars.length ≤ (chars.flatMap encodeChar).length := by
  induction chars with
  | nil => exact Nat.le_refl _
  | cons char chars ih =>
      have pos := length_encodeChar_pos char
      simp only [List.length_cons, List.flatMap_cons, List.length_append]
      omega

/-! ## Numbers -/

/-- What may follow a value in a text of the encoder. -/
def Closes (rest : List Char) : Prop :=
  ∀ head ∈ rest.head?, head = ',' ∨ head = ']' ∨ head = '\x7d'

theorem isDigit_eq (char : Char) : isDigit char = char.isDigit := by
  simp only [isDigit, Char.isDigit, ge_iff_le]
  rfl

theorem natural_eq (digits : List Char) : natural digits = Nat.ofDigitChars 10 digits 0 := by
  rw [natural, Nat.ofDigitChars_eq_foldl]
  congr 1
  funext number digit
  rw [Nat.mul_comm]
  rfl

theorem all_isDigit_toDigits (number : Nat) : ∀ digit ∈ Nat.toDigits 10 number,
    isDigit digit = true := by
  intro digit member
  rw [isDigit_eq]
  exact Nat.isDigit_of_mem_toDigits (by decide) (by decide) member

/-- Only zero begins with a zero. -/
theorem head_toDigits {number : Nat} (pos : 0 < number) :
    ∃ head tail, Nat.toDigits 10 number = head :: tail ∧ head ≠ '0' := by
  induction number using Nat.strongRecOn with
  | ind number ih =>
      by_cases small : number < 10
      · rw [Nat.toDigits_of_lt_base small]
        refine ⟨number.digitChar, [], rfl, ?_⟩
        have all : ∀ digit : Fin 10, 0 < digit.val → digit.val.digitChar ≠ '0' := by decide
        exact all ⟨number, small⟩ pos
      · have large : 10 ≤ number := Nat.le_of_not_lt small
        obtain ⟨head, tail, isHead, nonzero⟩ := ih (number / 10) (by omega) (by omega)
        rw [Nat.toDigits_of_base_le (by decide) large, isHead]
        exact ⟨head, _, rfl, nonzero⟩

theorem not_isDigit_of_closes {rest : List Char} (closes : Closes rest) :
    ∀ head ∈ rest.head?, isDigit head = false := by
  intro head isHead
  rcases closes head isHead with rfl | rfl | rfl <;> decide

theorem takeWhile_isDigit {digits rest : List Char} (all : ∀ digit ∈ digits, isDigit digit = true)
    (closes : Closes rest) :
    (digits ++ rest).takeWhile isDigit = digits ∧ (digits ++ rest).dropWhile isDigit = rest := by
  have stops : rest.takeWhile isDigit = [] ∧ rest.dropWhile isDigit = rest := by
    cases rest with
    | nil => exact ⟨rfl, rfl⟩
    | cons head tail =>
        have stop := not_isDigit_of_closes closes head (by simp)
        simp [stop]
  constructor
  · rw [List.takeWhile_append_of_pos all, stops.1, List.append_nil]
  · rw [List.dropWhile_append_of_pos all, stops.2]

theorem integerPart?_toDigits (number : Nat) {rest : List Char} (closes : Closes rest) :
    integerPart? (Nat.toDigits 10 number ++ rest) = some (Nat.toDigits 10 number, rest) := by
  rcases Nat.eq_zero_or_pos number with rfl | pos
  · rw [Nat.toDigits_zero]
    rfl
  · obtain ⟨head, tail, isHead, nonzero⟩ := head_toDigits pos
    have all := all_isDigit_toDigits number
    have spanned := takeWhile_isDigit all closes
    rw [isHead] at all spanned
    rw [isHead, List.cons_append, integerPart?]
    · rw [if_pos (all head (by simp)), List.span_eq_takeWhile_dropWhile]
      rw [List.cons_append] at spanned
      rw [spanned.1, spanned.2]
    · exact nonzero

theorem fractionPart_closes {rest : List Char} (closes : Closes rest) :
    fractionPart rest = ([], rest) := by
  cases rest with
  | nil => rfl
  | cons head tail =>
      rcases closes head (by simp) with rfl | rfl | rfl <;> rfl

theorem exponentPart_closes {rest : List Char} (closes : Closes rest) :
    exponentPart rest = ([], rest) := by
  cases rest with
  | nil => rfl
  | cons head tail =>
      rcases closes head (by simp) with rfl | rfl | rfl <;> rfl

theorem decodeNumber?_digits (number : Nat) {rest : List Char} (closes : Closes rest) :
    decodeNumber? (Nat.toDigits 10 number ++ rest) = some (.int number, rest) := by
  have noSign : ∀ tail, Nat.toDigits 10 number ++ rest ≠ '-' :: tail := by
    intro tail same
    cases isDigits : Nat.toDigits 10 number with
    | nil => exact Nat.toDigits_ne_nil isDigits
    | cons head digits =>
        have digit := all_isDigit_toDigits number head (by simp [isDigits])
        rw [isDigits] at same
        rw [(List.cons.inj same).1] at digit
        exact absurd digit (by decide)
  unfold decodeNumber?
  split
  rename_i sign unsigned isSplit
  split at isSplit
  · rename_i tail same
    exact absurd same (noSign tail)
  · cases isSplit
    rw [integerPart?_toDigits number closes, Option.map_some]
    simp only [fractionPart_closes closes, exponentPart_closes closes]
    rw [natural_eq, Nat.ofDigitChars_ten_toDigits]
    rfl

theorem decodeNumber?_minus (number : Nat) {rest : List Char} (closes : Closes rest) :
    decodeNumber? ('-' :: (Nat.toDigits 10 number ++ rest)) = some (.int (-number), rest) := by
  simp only [decodeNumber?, integerPart?_toDigits number closes, Option.map_some,
    fractionPart_closes closes, exponentPart_closes closes]
  rw [natural_eq, Nat.ofDigitChars_ten_toDigits]
  rfl

theorem toList_toString_nat (number : Nat) :
    (toString (number : Int)).toList = Nat.toDigits 10 number := by
  rw [← Nat.toList_repr]
  rfl

theorem toList_toString_neg (number : Nat) :
    (toString (Int.negSucc number)).toList = '-' :: Nat.toDigits 10 (number + 1) := by
  rw [← Nat.toList_repr]
  rw [show toString (Int.negSucc number) = "-" ++ (number + 1).repr from rfl]
  simp

/-- A text that no constant begins with. -/
theorem constant?_none {head : Char} {rest : List Char}
    (other : head ≠ 'n' ∧ head ≠ 't' ∧ head ≠ 'f' ∧ head ≠ 'N' ∧ head ≠ 'I')
    (noInfinity : head = '-' → ∀ tail, rest ≠ 'I' :: tail) :
    constant? (head :: rest) = none := by
  obtain ⟨n, t, f, capitalN, capitalI⟩ := other
  have mismatch : ∀ {first : Char} {expected : List Char}, head ≠ first →
      (first :: expected).isPrefixOf (head :: rest) = false := by
    intro first expected different
    simp [List.isPrefixOf, Ne.symm different]
  have infinity : "-Infinity".toList.isPrefixOf (head :: rest) = false := by
    by_cases minus : head = '-'
    · cases rest with
      | nil => subst minus; rfl
      | cons second tail =>
          have different : second ≠ 'I' := fun same => noInfinity minus tail (by rw [same])
          simp [List.isPrefixOf, Ne.symm different]
    · exact mismatch minus
  unfold constant? word?
  simp only [List.findSome?_cons, List.findSome?_nil]
  rw [show "null".toList = 'n' :: ['u', 'l', 'l'] from rfl, mismatch n,
    show "true".toList = 't' :: ['r', 'u', 'e'] from rfl, mismatch t,
    show "false".toList = 'f' :: ['a', 'l', 's', 'e'] from rfl, mismatch f,
    show "NaN".toList = 'N' :: ['a', 'N'] from rfl, mismatch capitalN,
    show "Infinity".toList = 'I' :: ['n', 'f', 'i', 'n', 'i', 't', 'y'] from rfl,
    mismatch capitalI, infinity]
  rfl

/-- A printed float begins like a number or a constant and is read back as it is. -/
structure ReadsBack (text : String) : Prop where
  starts : ∃ head tail, text.toList = head :: tail ∧ head ∈ "-0123456789NI".toList
  reads : ∀ rest, Closes rest →
    (constant? (text.toList ++ rest)).or (decodeNumber? (text.toList ++ rest)) =
      some (.float text, rest)

/-! ## Values -/

section

variable (floatRepr : String → String)

mutual

/-- The value with its floats as they are printed. -/
def normal : Json → Json
  | float literal => float (floatRepr literal)
  | array items => array (normalItems items)
  | object members => object (normalMembers members)
  | null => null
  | bool value => bool value
  | int value => int value
  | string text => string text

def normalItems : List Json → List Json
  | [] => []
  | item :: items => normal item :: normalItems items

def normalMembers : List (String × Json) → List (String × Json)
  | [] => []
  | (key, value) :: members => (key, normal value) :: normalMembers members

end

mutual

/-- No object has a key twice, and every float is printed so that it can be read. -/
def Clean : Json → Prop
  | float literal => ReadsBack (floatRepr literal)
  | array items => CleanItems items
  | object members => (members.map (·.1)).Nodup ∧ CleanMembers members
  | null | bool _ | int _ | string _ => True

def CleanItems : List Json → Prop
  | [] => True
  | item :: items => Clean item ∧ CleanItems items

def CleanMembers : List (String × Json) → Prop
  | [] => True
  | (_, value) :: members => Clean value ∧ CleanMembers members

end

mutual

/-- Every float is printed so that it can be read. -/
def Readable : Json → Prop
  | float literal => ReadsBack (floatRepr literal)
  | array items => ReadableItems items
  | object members => ReadableMembers members
  | null | bool _ | int _ | string _ => True

def ReadableItems : List Json → Prop
  | [] => True
  | item :: items => Readable item ∧ ReadableItems items

def ReadableMembers : List (String × Json) → Prop
  | [] => True
  | (_, value) :: members => Readable value ∧ ReadableMembers members

end

mutual

/-- What is read from the written value: of equal keys the last one counts. -/
def merged : Json → Json
  | float literal => float (floatRepr literal)
  | array items => array (mergedItems items)
  | object members => object (mergedMembers [] members)
  | null => null
  | bool value => bool value
  | int value => int value
  | string text => string text

def mergedItems : List Json → List Json
  | [] => []
  | item :: items => merged item :: mergedItems items

def mergedMembers (before : List (String × Json)) :
    List (String × Json) → List (String × Json)
  | [] => before
  | (key, value) :: members => mergedMembers (assign before key (merged value)) members

end

end

variable {floatRepr : String → String}

/-- Every value begins with a character that is no blank and closes nothing. -/
theorem dumps_starts {value : Json} (readable : Readable floatRepr value) :
    ∃ head tail, (dumps floatRepr value).toList = head :: tail ∧
      " \t\n\r".toList.contains head = false ∧ head ≠ ']' := by
  cases value with
  | null => exact ⟨'n', "ull".toList, by rw [dumps]; rfl, by decide, by decide⟩
  | bool value =>
      cases value with
      | true => exact ⟨'t', "rue".toList, by rw [dumps]; rfl, by decide, by decide⟩
      | false => exact ⟨'f', "alse".toList, by rw [dumps]; rfl, by decide, by decide⟩
  | int value =>
      cases value with
      | ofNat number =>
          obtain ⟨head, digits, isDigits⟩ := List.exists_cons_of_ne_nil
            (Nat.toDigits_ne_nil (n := number) (b := 10))
          have digit := all_isDigit_toDigits number head (by simp [isDigits])
          refine ⟨head, digits, (toList_toString_nat number).trans isDigits, ?_, ?_⟩
          · by_contra blank
            simp only [Bool.not_eq_false, List.contains_iff_mem] at blank
            have all : ∀ blank ∈ " \t\n\r".toList, isDigit blank = false :=
              forall_mem_of_all (by decide)
            rw [all head blank] at digit
            cases digit
          · rintro rfl
            exact absurd digit (by decide)
      | negSucc number => exact ⟨_, _, toList_toString_neg number, by decide, by decide⟩
  | float literal =>
      obtain ⟨head, tail, isText, isHead⟩ := readable.starts
      refine ⟨head, tail, isText, ?_, ?_⟩
      · have all : ∀ head ∈ "-0123456789NI".toList, " \t\n\r".toList.contains head = false :=
          forall_mem_of_all (by decide)
        exact all head isHead
      · rintro rfl
        exact absurd isHead (by decide)
  | string text => exact ⟨'"', _, by rw [dumps, encodeString]; simp; rfl, by decide, by decide⟩
  | array items => exact ⟨'[', _, by rw [dumps]; simp; rfl, by decide, by decide⟩
  | object members => exact ⟨'\x7b', _, by rw [dumps]; simp; rfl, by decide, by decide⟩

theorem skipBlanks_of_starts {head : Char} {tail : List Char}
    (solid : " \t\n\r".toList.contains head = false) :
    skipBlanks (head :: tail) = head :: tail := by
  rw [skipBlanks, solid]
  rfl

/-! ## The decoder -/

theorem decodeValue_scalar (fuel : Nat) {head : Char} {tail : List Char}
    (isScalar : head ≠ '"' ∧ head ≠ '[' ∧ head ≠ '\x7b') :
    decodeValue (fuel + 1) (head :: tail) =
      (constant? (head :: tail)).or (decodeNumber? (head :: tail)) := by
  rw [decodeValue]
  · exact fun _ same => isScalar.1 (List.cons.inj same).1
  · exact fun _ same => isScalar.2.1 (List.cons.inj same).1
  · exact fun _ same => isScalar.2.2 (List.cons.inj same).1

theorem decodeValue_int (fuel : Nat) (value : Int) {rest : List Char} (closes : Closes rest) :
    decodeValue (fuel + 1) ((toString value).toList ++ rest) = some (.int value, rest) := by
  have notScalar : ∀ digit : Char, isDigit digit = true →
      digit ≠ '"' ∧ digit ≠ '[' ∧ digit ≠ '\x7b' ∧ digit ≠ 'n' ∧ digit ≠ 't' ∧ digit ≠ 'f' ∧
        digit ≠ 'N' ∧ digit ≠ 'I' ∧ digit ≠ '-' := by
    intro digit isDigit
    refine ⟨?_, ?_, ?_, ?_, ?_, ?_, ?_, ?_, ?_⟩ <;> rintro rfl <;> exact absurd isDigit (by decide)
  cases value with
  | ofNat number =>
      obtain ⟨head, digits, isDigits⟩ := List.exists_cons_of_ne_nil
        (Nat.toDigits_ne_nil (n := number) (b := 10))
      obtain ⟨quote, bracket, brace, n, t, f, capitalN, capitalI, minus⟩ :=
        notScalar head (all_isDigit_toDigits number head (by simp [isDigits]))
      have isNumber := decodeNumber?_digits number closes
      rw [show (toString (Int.ofNat number)).toList = Nat.toDigits 10 number from
        toList_toString_nat number]
      rw [isDigits] at isNumber ⊢
      rw [List.cons_append] at isNumber ⊢
      rw [decodeValue_scalar fuel ⟨quote, bracket, brace⟩,
        constant?_none ⟨n, t, f, capitalN, capitalI⟩ fun isMinus => absurd isMinus minus,
        isNumber]
      rfl
  | negSucc number =>
      have isNumber := decodeNumber?_minus (number + 1) closes
      obtain ⟨head, digits, isDigits⟩ := List.exists_cons_of_ne_nil
        (Nat.toDigits_ne_nil (n := number + 1) (b := 10))
      have digit := all_isDigit_toDigits (number + 1) head (by simp [isDigits])
      have notI := (notScalar head digit).2.2.2.2.2.2.2.1
      rw [toList_toString_neg, List.cons_append, decodeValue_scalar fuel (by decide),
        constant?_none (by decide), isNumber]
      · rfl
      · intro _ tail same
        rw [isDigits, List.cons_append] at same
        exact notI (List.cons.inj same).1

theorem decodeValue_float (fuel : Nat) {text : String} (readsBack : ReadsBack text)
    {rest : List Char} (closes : Closes rest) :
    decodeValue (fuel + 1) (text.toList ++ rest) = some (.float text, rest) := by
  obtain ⟨head, tail, isText, isHead⟩ := readsBack.starts
  have isScalar : ∀ head ∈ "-0123456789NI".toList, head ≠ '"' ∧ head ≠ '[' ∧ head ≠ '\x7b' :=
    forall_mem_of_all (by decide)
  have reads := readsBack.reads rest closes
  rw [isText, List.cons_append] at reads ⊢
  rw [decodeValue_scalar fuel (isScalar head isHead), reads]

theorem toList_encodeString (text : String) :
    (encodeString text).toList = '"' :: (text.toList.flatMap encodeChar ++ ['"']) := by
  simp [encodeString]

theorem decodeValue_string (text : String) {fuel : Nat} (rest : List Char)
    (enough : (encodeString text).toList.length ≤ fuel) :
    decodeValue (fuel + 1) ((encodeString text).toList ++ rest) = some (.string text, rest) := by
  have bound := length_le_flatMap_encodeChar text.toList
  rw [toList_encodeString] at enough ⊢
  simp only [List.length_cons, List.length_append, List.length_nil] at enough
  rw [List.cons_append, List.append_assoc, decodeValue, List.singleton_append,
    decodeString_text _ _ (by omega), Option.map_some]
  dsimp only
  rw [String.ofList_toList]

/-! ## Values inside values -/

theorem toList_dumps_array (items : List Json) :
    (dumps floatRepr (.array items)).toList =
      '[' :: ((dumpItems floatRepr items).toList ++ [']']) := by
  rw [dumps]
  simp

theorem toList_dumps_object (members : List (String × Json)) :
    (dumps floatRepr (.object members)).toList =
      '\x7b' :: ((dumpMembers floatRepr members).toList ++ ['\x7d']) := by
  rw [dumps]
  simp

/-- The text of the items behind the first one. -/
def moreItems (floatRepr : String → String) : List Json → List Char
  | [] => []
  | item :: items => ',' :: ' ' :: (dumpItems floatRepr (item :: items)).toList

theorem toList_dumpItems (item : Json) (items : List Json) :
    (dumpItems floatRepr (item :: items)).toList =
      (dumps floatRepr item).toList ++ moreItems floatRepr items := by
  cases items with
  | nil => rw [dumpItems, moreItems, List.append_nil]
  | cons next items =>
      rw [dumpItems, moreItems]
      · simp
      · simp

def moreMembers (floatRepr : String → String) : List (String × Json) → List Char
  | [] => []
  | member :: members => ',' :: ' ' :: (dumpMembers floatRepr (member :: members)).toList

theorem toList_dumpMembers (key : String) (value : Json) (members : List (String × Json)) :
    (dumpMembers floatRepr ((key, value) :: members)).toList =
      (encodeString key).toList ++
        (':' :: ' ' :: ((dumps floatRepr value).toList ++ moreMembers floatRepr members)) := by
  cases members with
  | nil =>
      rw [dumpMembers, moreMembers, List.append_nil]
      simp
  | cons next members =>
      rw [dumpMembers, moreMembers]
      · simp
      · simp

theorem skipBlanks_space (text : List Char) : skipBlanks (' ' :: text) = skipBlanks text := by
  rw [skipBlanks]
  rfl

theorem skipBlanks_closes {rest : List Char} (closes : Closes rest) : skipBlanks rest = rest := by
  cases rest with
  | nil => rfl
  | cons head tail =>
      rcases closes head (by simp) with rfl | rfl | rfl <;> rfl

theorem closes_moreItems (items : List Json) (rest : List Char) :
    Closes (moreItems floatRepr items ++ ']' :: rest) := by
  intro head isHead
  cases items with
  | nil =>
      cases isHead
      exact .inr (.inl rfl)
  | cons item items =>
      cases isHead
      exact .inl rfl

theorem closes_moreMembers (members : List (String × Json)) (rest : List Char) :
    Closes (moreMembers floatRepr members ++ '\x7d' :: rest) := by
  intro head isHead
  cases members with
  | nil =>
      cases isHead
      exact .inr (.inr rfl)
  | cons member members =>
      cases isHead
      exact .inl rfl

theorem skipBlanks_dumps {value : Json} (readable : Readable floatRepr value) (rest : List Char) :
    skipBlanks ((dumps floatRepr value).toList ++ rest) = (dumps floatRepr value).toList ++ rest := by
  obtain ⟨head, tail, isText, solid, -⟩ := dumps_starts readable
  rw [isText, List.cons_append, skipBlanks_of_starts solid]

theorem skipBlanks_dumpItems {item : Json} {items : List Json} (readable : Readable floatRepr item)
    (rest : List Char) :
    skipBlanks ((dumpItems floatRepr (item :: items)).toList ++ rest) =
      (dumpItems floatRepr (item :: items)).toList ++ rest := by
  rw [toList_dumpItems, List.append_assoc, skipBlanks_dumps readable]

theorem skipBlanks_dumpMembers (member : String × Json) (members : List (String × Json))
    (rest : List Char) :
    skipBlanks ((dumpMembers floatRepr (member :: members)).toList ++ rest) =
      (dumpMembers floatRepr (member :: members)).toList ++ rest := by
  rw [toList_dumpMembers, toList_encodeString]
  rfl

theorem assign_new {members : List (String × Json)} {key : String}
    (absent : key ∉ members.map (·.1)) (value : Json) :
    assign members key value = members ++ [(key, value)] := by
  rw [assign, if_neg]
  intro present
  obtain ⟨member, isMember, same⟩ := List.any_eq_true.mp present
  exact absent (List.mem_map.mpr ⟨member, isMember, of_decide_eq_true same⟩)

mutual

/-- A written value is read back in front of what closes it. -/
theorem decodeValue_dumps : ∀ (value : Json), Readable floatRepr value → ∀ (fuel : Nat)
    (rest : List Char), 2 * (dumps floatRepr value).toList.length ≤ fuel → Closes rest →
    decodeValue fuel ((dumps floatRepr value).toList ++ rest) =
      some (merged floatRepr value, rest)
  | value, readable, 0, rest, enough, _ => by
      obtain ⟨head, tail, isText, -⟩ := dumps_starts readable
      rw [isText, List.length_cons] at enough
      omega
  | .null, _, fuel + 1, rest, _, _ => by
      rw [dumps, merged]
      exact decodeValue_scalar fuel (by decide)
  | .bool true, _, fuel + 1, rest, _, _ => by
      rw [dumps, merged]
      exact decodeValue_scalar fuel (by decide)
  | .bool false, _, fuel + 1, rest, _, _ => by
      rw [dumps, merged]
      exact decodeValue_scalar fuel (by decide)
  | .int value, _, fuel + 1, rest, _, closes => by
      rw [dumps, merged]
      exact decodeValue_int fuel value closes
  | .float literal, readable, fuel + 1, rest, _, closes => by
      rw [dumps, merged]
      exact decodeValue_float fuel readable closes
  | .string text, _, fuel + 1, rest, enough, _ => by
      rw [dumps] at enough
      rw [dumps, merged]
      exact decodeValue_string text rest (by omega)
  | .array items, readable, fuel + 1, rest, enough, _ => by
      rw [toList_dumps_array] at enough ⊢
      simp only [List.length_cons, List.length_append, List.length_nil] at enough
      rw [List.cons_append, List.append_assoc, List.singleton_append, merged]
      cases items with
      | nil =>
          rw [dumpItems, mergedItems]
          rfl
      | cons item items =>
          obtain ⟨head, tail, isText, solid, noBracket⟩ := @dumps_starts floatRepr item readable.1
          have items := decodeItems_dumps item items readable fuel rest (by omega)
          rw [decodeValue, skipBlanks_dumpItems readable.1]
          rw [toList_dumpItems, isText, List.append_assoc, List.cons_append] at items ⊢
          split
          · rename_i last same
            exact absurd (List.cons.inj same).1 noBracket
          · rw [items]
            rfl
  | .object members, readable, fuel + 1, rest, enough, _ => by
      rw [toList_dumps_object] at enough ⊢
      simp only [List.length_cons, List.length_append, List.length_nil] at enough
      rw [List.cons_append, List.append_assoc, List.singleton_append, merged]
      cases members with
      | nil =>
          rw [dumpMembers, mergedMembers]
          rfl
      | cons member members =>
          have members := decodeMembers_dumps member members readable [] fuel rest (by omega)
          rw [decodeValue, skipBlanks_dumpMembers]
          rw [toList_dumpMembers, toList_encodeString] at members ⊢
          simp only [List.cons_append] at members ⊢
          split
          · rename_i last same
            exact absurd (List.cons.inj same).1 (by decide)
          · rw [members]
            rfl

theorem decodeItems_dumps : ∀ (item : Json) (items : List Json),
    ReadableItems floatRepr (item :: items) → ∀ (fuel : Nat) (rest : List Char),
    2 * (dumpItems floatRepr (item :: items)).toList.length + 1 ≤ fuel →
    decodeItems fuel ((dumpItems floatRepr (item :: items)).toList ++ ']' :: rest) =
      some (mergedItems floatRepr (item :: items), rest)
  | _, _, _, 0, _, enough => by omega
  | item, items, readable, fuel + 1, rest, enough => by
      rw [toList_dumpItems] at enough ⊢
      simp only [List.length_append] at enough
      rw [decodeItems, List.append_assoc,
        decodeValue_dumps item readable.1 fuel _ (by omega) (closes_moreItems items rest),
        Option.bind_some]
      dsimp only
      rw [skipBlanks_closes (closes_moreItems items rest)]
      cases items with
      | nil => rfl
      | cons next items =>
          have more := decodeItems_dumps next items readable.2 fuel rest (by
            simp only [moreItems, List.length_cons] at enough
            omega)
          simp only [moreItems, List.cons_append, skipBlanks_space,
            skipBlanks_dumpItems readable.2.1, more]
          rfl

theorem decodeMembers_dumps : ∀ (member : String × Json) (members : List (String × Json)),
    ReadableMembers floatRepr (member :: members) → ∀ (before : List (String × Json))
    (fuel : Nat) (rest : List Char),
    2 * (dumpMembers floatRepr (member :: members)).toList.length + 1 ≤ fuel →
    decodeMembers fuel before
        ((dumpMembers floatRepr (member :: members)).toList ++ '\x7d' :: rest) =
      some (mergedMembers floatRepr before (member :: members), rest)
  | _, _, _, _, 0, _, enough => by omega
  | (key, value), members, readable, before, fuel + 1, rest, enough => by
      have bound := length_le_flatMap_encodeChar key.toList
      rw [toList_dumpMembers, toList_encodeString] at enough ⊢
      simp only [List.length_append, List.length_cons, List.length_nil] at enough
      rw [List.append_assoc, List.cons_append, List.append_assoc, List.singleton_append,
        decodeMembers, decodeString_text _ _ (by omega), Option.bind_some]
      simp only [List.cons_append]
      rw [show skipBlanks (':' :: ' ' :: ((dumps floatRepr value).toList ++
        moreMembers floatRepr members ++ '\x7d' :: rest)) = ':' :: ' ' ::
          ((dumps floatRepr value).toList ++ moreMembers floatRepr members ++ '\x7d' :: rest)
        from rfl]
      simp only [skipBlanks_space, List.append_assoc]
      rw [skipBlanks_dumps readable.1,
        decodeValue_dumps value readable.1 fuel _ (by omega) (closes_moreMembers members rest),
        Option.bind_some]
      simp only [skipBlanks_closes (closes_moreMembers members rest), String.ofList_toList]
      cases members with
      | nil => simp [moreMembers, mergedMembers]
      | cons next members =>
          have more := decodeMembers_dumps next members readable.2
            (assign before key (merged floatRepr value)) fuel rest (by
              simp only [moreMembers, List.length_cons] at enough
              omega)
          simp only [moreMembers, List.cons_append, skipBlanks_space, skipBlanks_dumpMembers,
            more]
          simp only [mergedMembers]

end

/-- What was written is read back, but for keys that are there twice. -/
theorem loads_dumps_merged {value : Json} (readable : Readable floatRepr value) :
    loads (dumps floatRepr value) = some (merged floatRepr value) := by
  have closes : Closes [] := by
    intro head isHead
    cases isHead
  have skipped := skipBlanks_dumps readable []
  have decoded := decodeValue_dumps value readable
    (2 * (dumps floatRepr value).toList.length + 2) [] (by omega) closes
  rw [List.append_nil] at skipped decoded
  rw [loads, skipped]
  simp only [decoded]
  rfl

mutual

theorem Clean.readable : ∀ {value : Json}, Clean floatRepr value → Readable floatRepr value
  | .null, _ | .bool _, _ | .int _, _ | .string _, _ => trivial
  | .float _, clean => clean
  | .array _, clean => CleanItems.readable clean
  | .object _, clean => CleanMembers.readable clean.2

theorem CleanItems.readable : ∀ {items : List Json}, CleanItems floatRepr items →
    ReadableItems floatRepr items
  | [], _ => trivial
  | _ :: _, clean => ⟨clean.1.readable, CleanItems.readable clean.2⟩

theorem CleanMembers.readable : ∀ {members : List (String × Json)},
    CleanMembers floatRepr members → ReadableMembers floatRepr members
  | [], _ => trivial
  | (_, _) :: _, clean => ⟨clean.1.readable, CleanMembers.readable clean.2⟩

end

mutual

theorem merged_clean : ∀ {value : Json}, Clean floatRepr value →
    merged floatRepr value = normal floatRepr value
  | .null, _ | .bool _, _ | .int _, _ | .string _, _ | .float _, _ => by rw [merged, normal]
  | .array items, clean => by rw [merged, normal, mergedItems_clean clean]
  | .object members, clean => by
      rw [merged, normal, mergedMembers_clean clean.2 [] (by simpa using clean.1)]
      rfl

theorem mergedItems_clean : ∀ {items : List Json}, CleanItems floatRepr items →
    mergedItems floatRepr items = normalItems floatRepr items
  | [], _ => by rw [mergedItems, normalItems]
  | item :: items, clean => by
      rw [mergedItems, normalItems, merged_clean clean.1, mergedItems_clean clean.2]

theorem mergedMembers_clean : ∀ {members : List (String × Json)},
    CleanMembers floatRepr members → ∀ before : List (String × Json),
    (before.map (·.1) ++ members.map (·.1)).Nodup →
    mergedMembers floatRepr before members = before ++ normalMembers floatRepr members
  | [], _, before, _ => by rw [mergedMembers, normalMembers, List.append_nil]
  | (key, value) :: members, clean, before, distinct => by
      have absent : key ∉ before.map (·.1) := by
        intro present
        exact (List.nodup_append.mp distinct).2.2 key present key (by simp) rfl
      have distinctMore : ((before ++ [(key, normal floatRepr value)]).map (·.1) ++
          members.map (·.1)).Nodup := by
        simpa using distinct
      rw [mergedMembers, normalMembers, merged_clean clean.1, assign_new absent,
        mergedMembers_clean clean.2 _ distinctMore, List.append_assoc, List.singleton_append]

end

/-- What was written is read back. -/
theorem loads_dumps {value : Json} (clean : Clean floatRepr value) :
    loads (dumps floatRepr value) = some (normal floatRepr value) := by
  rw [loads_dumps_merged clean.readable, merged_clean clean]

/-! ## Writing again -/

theorem dumpItems_cons_cons (item next : Json) (items : List Json) :
    dumpItems floatRepr (item :: next :: items) =
      dumps floatRepr item ++ ", " ++ dumpItems floatRepr (next :: items) := by
  rw [dumpItems]
  simp

theorem dumpMembers_cons_cons (key : String) (value : Json) (next : String × Json)
    (members : List (String × Json)) :
    dumpMembers floatRepr ((key, value) :: next :: members) =
      encodeString key ++ ": " ++ dumps floatRepr value ++ ", " ++
        dumpMembers floatRepr (next :: members) := by
  rw [dumpMembers]
  simp

mutual

/-- A value read back is written as it was, if the text of a float is printed as it is. -/
theorem dumps_normal (stable : ∀ literal, floatRepr (floatRepr literal) = floatRepr literal) :
    ∀ value : Json, dumps floatRepr (normal floatRepr value) = dumps floatRepr value
  | .null | .bool true | .bool false | .int _ | .string _ => by rw [normal]
  | .float literal => by rw [normal, dumps, dumps, stable]
  | .array items => by rw [normal, dumps, dumps, dumpItems_normal stable items]
  | .object members => by rw [normal, dumps, dumps, dumpMembers_normal stable members]

theorem dumpItems_normal (stable : ∀ literal, floatRepr (floatRepr literal) = floatRepr literal) :
    ∀ items : List Json,
      dumpItems floatRepr (normalItems floatRepr items) = dumpItems floatRepr items
  | [] => by rw [normalItems]
  | [item] => by
      rw [normalItems, normalItems, dumpItems, dumpItems, dumps_normal stable item]
  | item :: next :: items => by
      have more := dumpItems_normal stable (next :: items)
      rw [normalItems] at more
      rw [normalItems, normalItems, dumpItems_cons_cons, dumpItems_cons_cons,
        dumps_normal stable item, more]

theorem dumpMembers_normal
    (stable : ∀ literal, floatRepr (floatRepr literal) = floatRepr literal) :
    ∀ members : List (String × Json),
      dumpMembers floatRepr (normalMembers floatRepr members) = dumpMembers floatRepr members
  | [] => by rw [normalMembers]
  | [(key, value)] => by
      rw [normalMembers, normalMembers, dumpMembers, dumpMembers, dumps_normal stable value]
  | (key, value) :: (nextKey, next) :: members => by
      have more := dumpMembers_normal stable ((nextKey, next) :: members)
      rw [normalMembers] at more
      rw [normalMembers, normalMembers, dumpMembers_cons_cons, dumpMembers_cons_cons,
        dumps_normal stable value, more]

end

/-! ## What is read can be written -/

theorem cleanItems_iff {items : List Json} :
    CleanItems floatRepr items ↔ ∀ item ∈ items, Clean floatRepr item := by
  induction items with
  | nil => simp [CleanItems]
  | cons item items ih => simp [CleanItems, ih]

theorem cleanMembers_iff {members : List (String × Json)} :
    CleanMembers floatRepr members ↔ ∀ member ∈ members, Clean floatRepr member.2 := by
  induction members with
  | nil => simp [CleanMembers]
  | cons member members ih => simp [CleanMembers, ih]

theorem map_fst_assign (members : List (String × Json)) (key : String) (value : Json) :
    (assign members key value).map (·.1) =
      if key ∈ members.map (·.1) then members.map (·.1) else members.map (·.1) ++ [key] := by
  by_cases present : key ∈ members.map (·.1)
  · have any : members.any (·.1 = key) = true := by
      obtain ⟨member, isMember, same⟩ := List.mem_map.mp present
      exact List.any_eq_true.mpr ⟨member, isMember, decide_eq_true same⟩
    rw [if_pos present, assign, if_pos any, List.map_map]
    apply List.map_congr_left
    intro member _
    by_cases same : member.1 = key <;> simp [same]
  · rw [if_neg present, assign_new present, List.map_append]
    rfl

theorem nodup_assign {members : List (String × Json)} (distinct : (members.map (·.1)).Nodup)
    (key : String) (value : Json) : ((assign members key value).map (·.1)).Nodup := by
  rw [map_fst_assign]
  split
  · exact distinct
  · rename_i absent
    exact List.nodup_append.mpr ⟨distinct, by simp, by
      intro first firstMem second secondMem same
      rw [List.mem_singleton.mp secondMem] at same
      exact absent (same ▸ firstMem)⟩

theorem mem_assign {members : List (String × Json)} {key : String} {value : Json}
    {member : String × Json} (isMember : member ∈ assign members key value) :
    member ∈ members ∨ member = (key, value) := by
  unfold assign at isMember
  split at isMember
  · obtain ⟨before, beforeMem, rfl⟩ := List.mem_map.mp isMember
    by_cases same : before.1 = key
    · exact .inr (if_pos same)
    · rw [if_neg same]
      exact .inl beforeMem
  · rcases List.mem_append.mp isMember with before | last
    · exact .inl before
    · exact .inr (List.mem_singleton.mp last)

section

variable (readsBack : ∀ literal, ReadsBack (floatRepr literal))

include readsBack

theorem clean_scalar {text rest : List Char} {value : Json}
    (decoded : (constant? text).or (decodeNumber? text) = some (value, rest)) :
    Clean floatRepr value := by
  rcases Option.or_eq_some_iff.mp decoded with isConstant | ⟨-, isNumber⟩
  · unfold constant? at isConstant
    obtain ⟨pair, member, isWord⟩ := List.exists_of_findSome?_eq_some isConstant
    obtain ⟨last, -, same⟩ := Option.map_eq_some_iff.mp isWord
    cases same
    simp only [List.mem_cons, List.not_mem_nil, or_false] at member
    rcases member with rfl | rfl | rfl | rfl | rfl | rfl
    · trivial
    · trivial
    · trivial
    · exact readsBack _
    · exact readsBack _
    · exact readsBack _
  · unfold decodeNumber? at isNumber
    dsimp only at isNumber
    obtain ⟨parts, -, isValue⟩ := Option.map_eq_some_iff.mp isNumber
    split at isValue
    · cases isValue
      trivial
    · cases isValue
      exact readsBack _

/-- Values read from a text have no key twice. -/
theorem clean_decode (fuel : Nat) :
    (∀ text value rest, decodeValue fuel text = some (value, rest) → Clean floatRepr value) ∧
      (∀ text items rest, decodeItems fuel text = some (items, rest) →
        CleanItems floatRepr items) ∧
      ∀ before text members rest, (before.map (·.1)).Nodup → CleanMembers floatRepr before →
        decodeMembers fuel before text = some (members, rest) →
        (members.map (·.1)).Nodup ∧ CleanMembers floatRepr members := by
  induction fuel with
  | zero =>
      refine ⟨?_, ?_, ?_⟩
      · intro text value rest decoded
        rw [decodeValue] at decoded
        cases decoded
      · intro text items rest decoded
        rw [decodeItems] at decoded
        cases decoded
      · intro before text members rest _ _ decoded
        rw [decodeMembers] at decoded
        cases decoded
  | succ fuel ih =>
      obtain ⟨cleanValue, cleanItems, cleanMembers⟩ := ih
      refine ⟨?_, ?_, ?_⟩
      · intro text value rest decoded
        rcases text with - | ⟨head, tail⟩
        · rw [decodeValue] at decoded
          · exact clean_scalar readsBack decoded
          all_goals exact fun _ same => absurd same (by simp)
        by_cases isScalar : head ≠ '"' ∧ head ≠ '[' ∧ head ≠ '\x7b'
        · rw [decodeValue_scalar fuel isScalar] at decoded
          exact clean_scalar readsBack decoded
        have opens : head = '"' ∨ head = '[' ∨ head = '\x7b' := by
          by_contra none_
          simp only [not_or] at none_
          exact isScalar none_
        rcases opens with rfl | rfl | rfl
        · rw [decodeValue] at decoded
          obtain ⟨parts, -, isValue⟩ := Option.map_eq_some_iff.mp decoded
          cases isValue
          trivial
        · rw [decodeValue] at decoded
          split at decoded
          · cases decoded
            trivial
          · obtain ⟨parts, isItems, isValue⟩ := Option.map_eq_some_iff.mp decoded
            cases isValue
            exact cleanItems _ parts.1 parts.2 isItems
        · rw [decodeValue] at decoded
          split at decoded
          · cases decoded
            exact ⟨List.nodup_nil, trivial⟩
          · obtain ⟨parts, isMembers, isValue⟩ := Option.map_eq_some_iff.mp decoded
            cases isValue
            exact cleanMembers [] _ parts.1 parts.2 List.nodup_nil trivial isMembers
      · intro text items rest decoded
        rw [decodeItems] at decoded
        obtain ⟨first, isFirst, decoded⟩ := Option.bind_eq_some_iff.mp decoded
        have firstClean := cleanValue _ first.1 first.2 isFirst
        dsimp only at decoded
        split at decoded
        · obtain ⟨parts, isMore, same⟩ := Option.map_eq_some_iff.mp decoded
          cases same
          exact ⟨firstClean, cleanItems _ parts.1 parts.2 isMore⟩
        · cases decoded
          exact ⟨firstClean, trivial⟩
        · cases decoded
      · intro before text members rest distinct cleanBefore decoded
        by_cases isKey : ∃ tail, text = '"' :: tail
        · obtain ⟨tail, rfl⟩ := isKey
          rw [decodeMembers] at decoded
          obtain ⟨⟨key, afterKey⟩, -, decoded⟩ := Option.bind_eq_some_iff.mp decoded
          dsimp only at decoded
          split at decoded
          · obtain ⟨⟨value, afterValue⟩, isValue, decoded⟩ := Option.bind_eq_some_iff.mp decoded
            dsimp only at decoded
            have assigned : CleanMembers floatRepr (assign before (String.ofList key) value) := by
              rw [cleanMembers_iff] at cleanBefore ⊢
              intro member isMember
              rcases mem_assign isMember with old | rfl
              · exact cleanBefore member old
              · exact cleanValue _ value afterValue isValue
            split at decoded
            · exact cleanMembers _ _ members rest (nodup_assign distinct _ _) assigned decoded
            · cases decoded
              exact ⟨nodup_assign distinct _ _, assigned⟩
            · cases decoded
          · cases decoded
        · rw [decodeMembers] at decoded
          · cases decoded
          · exact fun tail same => isKey ⟨tail, same⟩

theorem clean_loads {text : String} {value : Json} (loaded : loads text = some value) :
    Clean floatRepr value := by
  rw [loads] at loaded
  split at loaded
  · rename_i decoded isDecoded
    split at loaded
    · cases loaded
      exact (clean_decode readsBack _).1 _ _ _ isDecoded
    · cases loaded
  · cases loaded

end

end Json
