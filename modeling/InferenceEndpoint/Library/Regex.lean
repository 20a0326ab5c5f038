import Mathlib.Data.List.Basic

/-!
# Backtracking regular expressions

Regular expressions with numbered groups, greedy and lazy repetition and
assertions about the surrounding text.  A match is found by backtracking: `ends`
lists the places where a match can end, the preferred one first.  Every match
is at least as long as the expression's width, so an expression of positive
width finds nothing in an empty text.
-/

namespace Regex

/-- A place in a text; the characters before it are in reverse order. -/
structure Place where
  before : List Char
  after : List Char
  /-- The captured groups, the latest first. -/
  groups : List (Nat × List Char) := []
  deriving DecidableEq, Repr

namespace Place

def start (text : List Char) : Place where
  before := []
  after := text

def captured (place : Place) (index : Nat) : Option (List Char) :=
  place.groups.lookup index

/-- Pass over one character. -/
def next? (place : Place) : Option Place :=
  match place.after with
  | [] => none
  | head :: tail => some { place with before := head :: place.before, after := tail }

end Place

end Regex

open Regex in
/-- The syntax; `check` looks at the text before and after a place. -/
inductive Regex
  | char (accepts : Char → Bool)
  | check (holds : Place → Bool)
  | seq (parts : Regex) (rest : Regex)
  | alt (first second : Regex)
  | group (index : Nat) (body : Regex)
  | repeat_ (least : Nat) (most : Option Nat) (greedy : Bool) (body : Regex)

namespace Regex

/-- Repeat a step between the two bounds.  An optional round must consume
something, and `fuel` bounds the rounds. -/
def rounds (step : Place → List Place) (greedy : Bool) :
    Nat → Nat → Option Nat → Place → List Place
  | 0, least, _, place => if least = 0 then [place] else []
  | fuel + 1, least + 1, most, place =>
      (step place).flatMap (rounds step greedy fuel least (most.map (· - 1)))
  | fuel + 1, 0, most, place =>
      if most = some 0 then [place]
      else
        let more := ((step place).filter fun next =>
            next.after.length < place.after.length).flatMap
          (rounds step greedy fuel 0 (most.map (· - 1)))
        if greedy then more ++ [place] else place :: more

/-- The places where a match that begins at the given place can end. -/
def ends : Regex → Place → List Place
  | char accepts, place =>
      match place.after with
      | [] => []
      | head :: tail =>
          if accepts head then [{ place with before := head :: place.before, after := tail }]
          else []
  | check holds, place => if holds place then [place] else []
  | seq first second, place => (first.ends place).flatMap second.ends
  | alt first second, place => first.ends place ++ second.ends place
  | group index body, place =>
      (body.ends place).map fun last =>
        { last with groups :=
            (index, place.after.take (place.after.length - last.after.length)) :: last.groups }
  | repeat_ least most greedy body, place =>
      rounds body.ends greedy (place.after.length + least + 1) least most place

/-- The least number of characters that a match has. -/
def width : Regex → Nat
  | char _ => 1
  | check _ => 0
  | seq first second => first.width + second.width
  | alt first second => min first.width second.width
  | group _ body => body.width
  | repeat_ least _ _ body => least * body.width

theorem width_rounds {step : Place → List Place} {greedy : Bool} {width : Nat}
    (wide : ∀ place last, last ∈ step place → last.after.length + width ≤ place.after.length)
    (fuel least : Nat) (most : Option Nat) (place last : Place)
    (member : last ∈ rounds step greedy fuel least most place) :
    last.after.length + least * width ≤ place.after.length := by
  induction fuel generalizing least most place last with
  | zero =>
      simp only [rounds] at member
      split at member
      · rename_i none_
        obtain rfl : last = place := by simpa using member
        simp [none_]
      · simp at member
  | succ fuel induction =>
      cases least with
      | succ least =>
          simp only [rounds, List.mem_flatMap] at member
          obtain ⟨middle, stepped, rest⟩ := member
          have first := wide place middle stepped
          have others := induction least _ middle last rest
          rw [Nat.succ_mul]
          omega
      | zero =>
          rw [Nat.zero_mul]
          have later : ∀ next ∈ ((step place).filter fun next =>
              next.after.length < place.after.length).flatMap
                (rounds step greedy fuel 0 (most.map (· - 1))),
              next.after.length ≤ place.after.length := by
            intro next found
            obtain ⟨middle, stepped, rest⟩ := List.mem_flatMap.mp found
            have first := wide place middle (List.mem_of_mem_filter stepped)
            have others := induction 0 _ middle next rest
            omega
          simp only [rounds] at member
          split at member
          · obtain rfl : last = place := by simpa using member
            omega
          · split at member
            · rcases List.mem_append.mp member with found | same
              · exact later last found
              · obtain rfl : last = place := by simpa using same
                omega
            · rcases List.mem_cons.mp member with rfl | found
              · omega
              · exact later last found

/-- A match consumes at least the width of the expression. -/
theorem width_le (regex : Regex) (place last : Place) (member : last ∈ regex.ends place) :
    last.after.length + regex.width ≤ place.after.length := by
  induction regex generalizing place last with
  | char accepts =>
      simp only [ends] at member
      split at member
      · simp at member
      · rename_i head tail text
        split at member
        · obtain rfl := List.mem_singleton.mp member
          simp [text, width]
        · simp at member
  | check holds =>
      simp only [ends] at member
      split at member
      · obtain rfl := List.mem_singleton.mp member
        simp [width]
      · simp at member
  | seq first second left right =>
      obtain ⟨middle, before, after⟩ := List.mem_flatMap.mp member
      have one := left place middle before
      have two := right middle last after
      simp only [width]
      omega
  | alt first second left right =>
      simp only [width]
      rcases List.mem_append.mp member with found | found
      · have one := left place last found
        omega
      · have two := right place last found
        omega
  | group index body inside =>
      obtain ⟨found, there, rfl⟩ := List.mem_map.mp member
      exact inside place found there
  | repeat_ least most greedy body inside =>
      exact width_rounds inside _ _ _ _ _ member

/-- Nothing of positive width ends in an empty rest. -/
theorem ends_nil {regex : Regex} (wide : 0 < regex.width) {place : Place}
    (empty : place.after = []) : regex.ends place = [] := by
  rw [List.eq_nil_iff_forall_not_mem]
  intro last member
  have consumed := regex.width_le place last member
  rw [empty] at consumed
  simp only [List.length_nil] at consumed
  omega

/-- A match: the place where it begins and the place where it ends. -/
structure Match where
  first : Place
  last : Place
  deriving DecidableEq, Repr

namespace Match

/-- `group(0)`. -/
def text (found : Match) : List Char :=
  found.first.after.take (found.first.after.length - found.last.after.length)

/-- `group(index)`; a group that took no part is empty. -/
def group (found : Match) (index : Nat) : List Char :=
  (found.last.captured index).getD []

def start (found : Match) : Nat :=
  found.first.before.length

def stop (found : Match) : Nat :=
  found.last.before.length

end Match

/-- `match`: only at the place itself. -/
def matchAt (regex : Regex) (place : Place) : Option Match :=
  (regex.ends place).head?.map fun last => ⟨place, last⟩

/-- The leftmost match at one of the given number of places. -/
def searchFrom (regex : Regex) : Nat → Place → Option Match
  | 0, _ => none
  | fuel + 1, place =>
      match regex.matchAt place with
      | some found => some found
      | none => place.next?.bind (regex.searchFrom fuel)

def search (regex : Regex) (text : List Char) : Option Match :=
  regex.searchFrom (text.length + 1) (.start text)

/-- The matches of `finditer`, from left to right, without overlaps. -/
def findFrom (regex : Regex) : Nat → Place → List Match
  | 0, _ => []
  | fuel + 1, place =>
      match regex.searchFrom (place.after.length + 1) place with
      | none => []
      | some found =>
          let next := { found.last with groups := [] }
          if found.last.after.length < found.first.after.length then
            found :: regex.findFrom fuel next
          else
            match next.next? with
            | none => [found]
            | some later => found :: regex.findFrom fuel later

def findIter (regex : Regex) (text : List Char) : List Match :=
  regex.findFrom (text.length + 1) (.start text)

theorem searchFrom_nil {regex : Regex} (wide : 0 < regex.width) (fuel : Nat) {place : Place}
    (empty : place.after = []) : regex.searchFrom fuel place = none := by
  cases fuel with
  | zero => rfl
  | succ fuel => simp [searchFrom, matchAt, ends_nil wide empty, Place.next?, empty]

@[simp]
theorem search_nil {regex : Regex} (wide : 0 < regex.width) : regex.search [] = none :=
  searchFrom_nil wide _ rfl

@[simp]
theorem findIter_nil {regex : Regex} (wide : 0 < regex.width) : regex.findIter [] = [] := by
  have none_ : regex.searchFrom 1 (.start []) = none := searchFrom_nil wide 1 rfl
  simp only [findIter, findFrom, Place.start, List.length_nil] at none_ ⊢
  rw [none_]

/-! ## Notation -/

/-- Nothing to match. -/
def nothing : Regex :=
  check fun _ => true

/-- One after the other. -/
def sequence : List Regex → Regex
  | [] => nothing
  | part :: parts => seq part (sequence parts)

def anyOf (chars : String) : Regex :=
  char fun char => chars.toList.contains char

def noneOf (chars : String) : Regex :=
  char fun char => !chars.toList.contains char

def literal (text : String) : Regex :=
  sequence (text.toList.map fun expected => char (· = expected))

def optional (body : Regex) : Regex :=
  repeat_ 0 (some 1) true body

def star (body : Regex) : Regex :=
  repeat_ 0 none true body

def lazyStar (body : Regex) : Regex :=
  repeat_ 0 none false body

def plus (body : Regex) : Regex :=
  repeat_ 1 none true body

def lazyPlus (body : Regex) : Regex :=
  repeat_ 1 none false body

/-- `(?<![…])`. -/
def notBehind (excluded : Char → Bool) : Regex :=
  check fun place => !place.before.head?.any excluded

/-- `(?![…])`. -/
def notAhead (excluded : Char → Bool) : Regex :=
  check fun place => !place.after.head?.any excluded

/-- `\b` for the given word characters. -/
def boundary (isWord : Char → Bool) : Regex :=
  check fun place => place.before.head?.any isWord != place.after.head?.any isWord

/-- `^` in a multi-line pattern. -/
def lineStart : Regex :=
  check fun place => place.before.head?.all (· = '\n')

/-- `$` in a multi-line pattern. -/
def lineEnd : Regex :=
  check fun place => place.after.head?.all (· = '\n')

end Regex
