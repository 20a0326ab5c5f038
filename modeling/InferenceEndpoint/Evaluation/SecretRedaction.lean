import InferenceEndpoint.Evaluation.BFCLv4Scorer
import InferenceEndpoint.Library.RegexGroups

/-!
# Secret redaction

Before the SWE-bench service publishes a status or a request, it replaces the secrets of the
run in every string, one after the other in the order in which the set is iterated, and
then what three patterns find.  The values of secret keys are dropped, and keys are kept.
-/

namespace InferenceEndpoint.SecretRedaction

open Regex LiteralReplace
open BFCLv4Scorer (asciiPython)

def placeholder : List Char :=
  "<redacted>".toList

/-- `SECRET_KEY_NAMES`. -/
def secretKeyNames : List String :=
  ["api-key", "api_key", "authorization", "access-token", "access_token", "endpoint-api-key",
    "endpoint_api_key", "password", "secret", "secret-key", "secret_key", "token", "x-api-key",
    "x_api_key"]

section

variable (py : Python) (lower : List Char → List Char)

/-- `_is_secret_key`; `lower` is `str.lower`. -/
def isSecretKey (key : String) : Bool :=
  let normalized := lower (py.strip key.toList)
  if secretKeyNames.any (·.toList = normalized) then true
  else
    let compact := replaceAll ['-'] ['_'] normalized
    decide ("_key".toList <:+ compact) || decide ("_token".toList <:+ compact) ||
      decide ("api_key".toList <:+: compact) || decide ("access_token".toList <:+: compact) ||
      decide ("secret".toList <:+: compact) || decide ("password".toList <:+: compact)

/-- `authorization:\s*(?:bearer|basic)\s+`. -/
def authorization : Regex :=
  sequence [py.word "authorization:", py.spaces, alt (py.word "bearer") (py.word "basic"),
    plus (char py.isSpace)]

/-- `(?:api[_-]?key|access[_-]?token|token|password)=`. -/
def assignment : Regex :=
  sequence [alt (sequence [py.word "api", optional (anyOf "_-"), py.word "key"])
      (alt (sequence [py.word "access", optional (anyOf "_-"), py.word "token"])
        (alt (py.word "token") (py.word "password"))),
    literal "="]

/-- `://[^:/\s]+:`. -/
def userName : Regex :=
  sequence [literal "://", plus (char fun char => !":/".toList.contains char && !py.isSpace char),
    literal ":"]

/-- `SECRET_TEXT_PATTERNS`, each with its replacement. -/
def secretTextPatterns : List (Regex × (Match → List Char)) :=
  [(seq (group 1 (authorization py))
      (plus (char fun char => !py.isSpace char && !",;".toList.contains char)),
      fun found => found.group 1 ++ placeholder),
    (seq (group 1 (assignment py)) (plus (char fun char => char ≠ '&' && !py.isSpace char)),
      fun found => found.group 1 ++ placeholder),
    (seq (group 1 (userName py))
      (seq (plus (char fun char => !"@/".toList.contains char && !py.isSpace char))
        (group 2 (literal "@"))),
      fun found => found.group 1 ++ placeholder ++ found.group 2)]

/-- `redact_text`; the secrets are in the order in which the set is iterated. -/
def redactText (secretValues : List (List Char)) (text : List Char) : List Char :=
  (secretTextPatterns py).foldl (fun redacted pattern => pattern.1.substitute pattern.2 redacted)
    (replaceEach placeholder (secretValues.filter (· ≠ [])) text)

mutual

/-- `redact_secrets`. -/
def redactSecrets (secretValues : List (List Char)) : Json → Json
  | .object members => .object (redactMembers secretValues members)
  | .array items => .array (redactItems secretValues items)
  | .string text => .string (String.ofList (redactText py secretValues text.toList))
  | .null => .null
  | .bool value => .bool value
  | .int value => .int value
  | .float literal => .float literal

def redactItems (secretValues : List (List Char)) : List Json → List Json
  | [] => []
  | item :: items => redactSecrets secretValues item :: redactItems secretValues items

def redactMembers (secretValues : List (List Char)) :
    List (String × Json) → List (String × Json)
  | [] => []
  | (key, value) :: members =>
      (key, if isSecretKey py lower key then .string "<redacted>"
        else redactSecrets secretValues value) :: redactMembers secretValues members

end

end

/-! ## What a reader sees -/

mutual

/-- The strings of a value, the keys of its objects included. -/
def texts : Json → List (List Char)
  | .object members => memberTexts members
  | .array items => itemTexts items
  | .string text => [text.toList]
  | .null | .bool _ | .int _ | .float _ => []

def itemTexts : List Json → List (List Char)
  | [] => []
  | item :: items => texts item ++ itemTexts items

def memberTexts : List (String × Json) → List (List Char)
  | [] => []
  | (key, value) :: members => key.toList :: texts value ++ memberTexts members

end

/-- No secret is left in any string of the value. -/
def Clean (secrets : List (List Char)) (value : Json) : Prop :=
  ∀ text ∈ texts value, ∀ secret ∈ secrets, ¬ secret <:+: text

section

variable (py : Python) (lower : List Char → List Char)

mutual

/-- The keys outside of the values of secret keys. -/
def shownKeys : Json → List (List Char)
  | .object members => memberKeys members
  | .array items => itemKeys items
  | .string _ | .null | .bool _ | .int _ | .float _ => []

def itemKeys : List Json → List (List Char)
  | [] => []
  | item :: items => shownKeys item ++ itemKeys items

def memberKeys : List (String × Json) → List (List Char)
  | [] => []
  | (key, value) :: members =>
      key.toList :: (if isSecretKey py lower key then [] else shownKeys value) ++
        memberKeys members

end

mutual

/-- The string values outside of the values of secret keys. -/
def shownTexts : Json → List (List Char)
  | .object members => memberShown members
  | .array items => itemShown items
  | .string text => [text.toList]
  | .null | .bool _ | .int _ | .float _ => []

def itemShown : List Json → List (List Char)
  | [] => []
  | item :: items => shownTexts item ++ itemShown items

def memberShown : List (String × Json) → List (List Char)
  | [] => []
  | (key, value) :: members =>
      (if isSecretKey py lower key then [] else shownTexts value) ++ memberShown members

end

/-- Whatever the order of the secrets, none is left and the value is the same. -/
def Redacted (secrets : List (List Char)) (value : Json) : Prop :=
  ∀ order : List (List Char), order.Perm secrets →
    Clean secrets (redactSecrets py lower order value) ∧
      redactSecrets py lower order value = redactSecrets py lower secrets value

end

/-! ## The patterns -/

section

variable {py : Python} {lower : List Char → List Char}

theorem groupFree_word (text : String) : (py.word text).GroupFree := by
  apply groupFree_sequence
  intro part member
  obtain ⟨expected, -, rfl⟩ := List.mem_map.mp member
  trivial

theorem groupFree_authorization : (authorization py).GroupFree :=
  ⟨groupFree_word _, trivial, ⟨groupFree_word _, groupFree_word _⟩, trivial, trivial⟩

theorem groupFree_assignment : (assignment py).GroupFree :=
  ⟨⟨⟨groupFree_word _, trivial, groupFree_word _, trivial⟩,
      ⟨groupFree_word _, trivial, groupFree_word _, trivial⟩, groupFree_word _,
      groupFree_word _⟩,
    groupFree_literal _, trivial⟩

theorem groupFree_userName : (userName py).GroupFree :=
  ⟨groupFree_literal _, trivial, groupFree_literal _, trivial⟩

/-- Every pattern keeps the two ends of what it matches. -/
theorem secretTextPatterns_frame :
    ∀ pattern ∈ secretTextPatterns py, Frames pattern.1 placeholder pattern.2 := by
  intro pattern member
  simp only [secretTextPatterns, List.mem_cons, List.not_mem_nil, or_false] at member
  rcases member with rfl | rfl | rfl
  · exact frames_first placeholder groupFree_authorization trivial
  · exact frames_first placeholder groupFree_assignment trivial
  · exact frames_both placeholder groupFree_userName trivial (groupFree_literal "@")

theorem patterns_absent {secret : List Char} (some_ : secret ≠ [])
    (apart : ¬ Overlap secret placeholder) {patterns : List (Regex × (Match → List Char))}
    (frames : ∀ pattern ∈ patterns, Frames pattern.1 placeholder pattern.2) {text : List Char}
    (absent : ¬ secret <:+: text) :
    ¬ secret <:+: patterns.foldl
      (fun redacted pattern => pattern.1.substitute pattern.2 redacted) text := by
  induction patterns generalizing text with
  | nil => exact absent
  | cons pattern patterns ih =>
      rw [List.foldl_cons]
      exact ih (fun other member => frames other (List.mem_cons_of_mem pattern member))
        (not_infix_substitute (frames pattern List.mem_cons_self) some_ apart absent)

/-! ## One text -/

variable {secrets order : List (List Char)}

/-- No secret is left in a text, whatever their order. -/
theorem redactText_absent (some_ : ∀ secret ∈ secrets, secret ≠ [])
    (apart : ∀ secret ∈ secrets, ¬ Overlap secret placeholder) (perm : order.Perm secrets)
    (text : List Char) : ∀ secret ∈ secrets, ¬ secret <:+: redactText py order text := by
  intro secret member
  have someOrder : ∀ word ∈ order.filter (· ≠ []), word ≠ [] := by
    intro word inOrder
    exact some_ word (perm.mem_iff.mp (List.mem_of_mem_filter inOrder))
  have apartOrder : ∀ word ∈ order.filter (· ≠ []), ¬ Overlap word placeholder := by
    intro word inOrder
    exact apart word (perm.mem_iff.mp (List.mem_of_mem_filter inOrder))
  have inFilter : secret ∈ order.filter (· ≠ []) :=
    List.mem_filter.mpr ⟨perm.mem_iff.mpr member, decide_eq_true (some_ secret member)⟩
  have replaced : ¬ secret <:+: replaceEach placeholder (order.filter (· ≠ [])) text :=
    not_infix_replaceEach someOrder apartOrder secret inFilter
  exact patterns_absent (some_ secret member) (apart secret member) secretTextPatterns_frame
    replaced

/-- Where no two secrets overlap in a text, their order does not matter. -/
theorem redactText_perm (some_ : ∀ secret ∈ secrets, secret ≠ [])
    (apart : ∀ secret ∈ secrets, ¬ Overlap secret placeholder) (perm : order.Perm secrets)
    {text : List Char} (apartIn : ∀ first ∈ secrets, ∀ second ∈ secrets, first ≠ second →
      ¬ OverlapIn text first second) :
    redactText py order text = redactText py secrets text := by
  have isSecret : ∀ {word}, word ∈ order.filter (· ≠ []) → word ∈ secrets :=
    fun member => perm.mem_iff.mp (List.mem_of_mem_filter member)
  have same : replaceEach placeholder (order.filter (· ≠ [])) text =
      replaceEach placeholder (secrets.filter (· ≠ [])) text := by
    apply replaceEach_perm (perm.filter _)
    · exact fun word member => some_ word (isSecret member)
    · exact fun word member => apart word (isSecret member)
    · exact fun first isFirst second isSecond =>
        apartIn first (isSecret isFirst) second (isSecret isSecond)
  rw [redactText, same, redactText]

/-! ## Nested values -/

mutual

/-- What the strings of a redacted value are. -/
theorem texts_redacted (secretValues : List (List Char)) :
    ∀ value, ∀ text ∈ texts (redactSecrets py lower secretValues value),
      text ∈ shownKeys py lower value ∨ text = placeholder ∨
        ∃ shown ∈ shownTexts py lower value, text = redactText py secretValues shown
  | .object members => memberTexts_redacted secretValues members
  | .array items => itemTexts_redacted secretValues items
  | .string shown => by
      intro text member
      rw [redactSecrets, texts, List.mem_singleton, String.toList_ofList] at member
      exact .inr (.inr ⟨shown.toList, List.mem_singleton_self _, member⟩)
  | .null | .bool _ | .int _ | .float _ => nofun

theorem itemTexts_redacted (secretValues : List (List Char)) :
    ∀ items, ∀ text ∈ itemTexts (redactItems py lower secretValues items),
      text ∈ itemKeys py lower items ∨ text = placeholder ∨
        ∃ shown ∈ itemShown py lower items, text = redactText py secretValues shown
  | [] => nofun
  | item :: items => by
      intro text member
      rw [redactItems, itemTexts, List.mem_append] at member
      rw [itemKeys, itemShown]
      rcases member with here | later
      · rcases texts_redacted secretValues item text here with isKey | isPlaceholder | isShown
        · exact .inl (List.mem_append_left _ isKey)
        · exact .inr (.inl isPlaceholder)
        · obtain ⟨shown, inItem, same⟩ := isShown
          exact .inr (.inr ⟨shown, List.mem_append_left _ inItem, same⟩)
      · rcases itemTexts_redacted secretValues items text later with
          isKey | isPlaceholder | isShown
        · exact .inl (List.mem_append_right _ isKey)
        · exact .inr (.inl isPlaceholder)
        · obtain ⟨shown, inItems, same⟩ := isShown
          exact .inr (.inr ⟨shown, List.mem_append_right _ inItems, same⟩)

theorem memberTexts_redacted (secretValues : List (List Char)) :
    ∀ members, ∀ text ∈ memberTexts (redactMembers py lower secretValues members),
      text ∈ memberKeys py lower members ∨ text = placeholder ∨
        ∃ shown ∈ memberShown py lower members, text = redactText py secretValues shown
  | [] => nofun
  | (key, value) :: members => by
      intro text member
      rw [redactMembers, memberTexts, List.cons_append, List.mem_cons, List.mem_append] at member
      rw [memberKeys, memberShown, List.cons_append]
      rcases member with rfl | here | later
      · exact .inl List.mem_cons_self
      · by_cases secretKey : isSecretKey py lower key = true
        · rw [if_pos secretKey, texts, List.mem_singleton] at here
          exact .inr (.inl here)
        · rw [if_neg secretKey] at here
          rw [if_neg secretKey, if_neg secretKey]
          rcases texts_redacted secretValues value text here with isKey | isPlaceholder | isShown
          · exact .inl (List.mem_cons_of_mem _ (List.mem_append_left _ isKey))
          · exact .inr (.inl isPlaceholder)
          · obtain ⟨shown, inValue, same⟩ := isShown
            exact .inr (.inr ⟨shown, List.mem_append_left _ inValue, same⟩)
      · rcases memberTexts_redacted secretValues members text later with
          isKey | isPlaceholder | isShown
        · exact .inl (List.mem_cons_of_mem _ (List.mem_append_right _ isKey))
        · exact .inr (.inl isPlaceholder)
        · obtain ⟨shown, inMembers, same⟩ := isShown
          exact .inr (.inr ⟨shown, List.mem_append_right _ inMembers, same⟩)

end

mutual

/-- Keys are kept. -/
theorem shownKeys_kept (secretValues : List (List Char)) :
    ∀ value, ∀ key ∈ shownKeys py lower value,
      key ∈ texts (redactSecrets py lower secretValues value)
  | .object members => memberKeys_kept secretValues members
  | .array items => itemKeys_kept secretValues items
  | .string _ | .null | .bool _ | .int _ | .float _ => nofun

theorem itemKeys_kept (secretValues : List (List Char)) :
    ∀ items, ∀ key ∈ itemKeys py lower items,
      key ∈ itemTexts (redactItems py lower secretValues items)
  | [] => nofun
  | item :: items => by
      intro key member
      rw [redactItems, itemTexts]
      rcases List.mem_append.mp member with here | later
      · exact List.mem_append_left _ (shownKeys_kept secretValues item key here)
      · exact List.mem_append_right _ (itemKeys_kept secretValues items key later)

theorem memberKeys_kept (secretValues : List (List Char)) :
    ∀ members, ∀ key ∈ memberKeys py lower members,
      key ∈ memberTexts (redactMembers py lower secretValues members)
  | [] => nofun
  | (name, value) :: members => by
      intro key member
      rw [memberKeys, List.cons_append] at member
      rw [redactMembers, memberTexts, List.cons_append]
      rcases List.mem_cons.mp member with rfl | within
      · exact List.mem_cons_self
      apply List.mem_cons_of_mem
      rcases List.mem_append.mp within with here | later
      · apply List.mem_append_left
        by_cases secretKey : isSecretKey py lower name = true
        · rw [if_pos secretKey] at here
          exact absurd here List.not_mem_nil
        · rw [if_neg secretKey] at here ⊢
          exact shownKeys_kept secretValues value key here
      · exact List.mem_append_right _ (memberKeys_kept secretValues members key later)

end

mutual

/-- Only the strings that are shown count for the result. -/
theorem redactSecrets_congr {secretValues others : List (List Char)} :
    ∀ value, (∀ text ∈ shownTexts py lower value,
        redactText py secretValues text = redactText py others text) →
      redactSecrets py lower secretValues value = redactSecrets py lower others value
  | .object members => fun same => congrArg Json.object (redactMembers_congr members same)
  | .array items => fun same => congrArg Json.array (redactItems_congr items same)
  | .string text => fun same => by
      rw [redactSecrets, same text.toList (List.mem_singleton_self _), redactSecrets]
  | .null | .bool _ | .int _ | .float _ => fun _ => rfl

theorem redactItems_congr {secretValues others : List (List Char)} :
    ∀ items, (∀ text ∈ itemShown py lower items,
        redactText py secretValues text = redactText py others text) →
      redactItems py lower secretValues items = redactItems py lower others items
  | [] => fun _ => rfl
  | item :: items => fun same => by
      rw [redactItems, redactItems,
        redactSecrets_congr item fun text member => same text (List.mem_append_left _ member),
        redactItems_congr items fun text member => same text (List.mem_append_right _ member)]

theorem redactMembers_congr {secretValues others : List (List Char)} :
    ∀ members, (∀ text ∈ memberShown py lower members,
        redactText py secretValues text = redactText py others text) →
      redactMembers py lower secretValues members = redactMembers py lower others members
  | [] => fun _ => rfl
  | (key, value) :: members => fun same => by
      have rest := redactMembers_congr members fun text member =>
        same text (List.mem_append_right _ member)
      rw [redactMembers, redactMembers, rest]
      by_cases secretKey : isSecretKey py lower key = true
      · rw [if_pos secretKey, if_pos secretKey]
      · have here : redactSecrets py lower secretValues value =
            redactSecrets py lower others value := by
          refine redactSecrets_congr value fun text member => same text ?_
          rw [memberShown, if_neg secretKey]
          exact List.mem_append_left _ member
        rw [if_neg secretKey, if_neg secretKey, here]

end

/-! ## Completeness -/

/-- No secret is left exactly if none is part of a key that is shown. -/
theorem clean_redactSecrets_iff (some_ : ∀ secret ∈ secrets, secret ≠ [])
    (apart : ∀ secret ∈ secrets, ¬ Overlap secret placeholder) (perm : order.Perm secrets)
    (value : Json) :
    Clean secrets (redactSecrets py lower order value) ↔
      ∀ key ∈ shownKeys py lower value, ∀ secret ∈ secrets, ¬ secret <:+: key := by
  constructor
  · intro clean key shown
    exact clean key (shownKeys_kept order value key shown)
  · intro cleanKeys text member secret isSecret
    rcases texts_redacted order value text member with isKey | isPlaceholder | isShown
    · exact cleanKeys text isKey secret isSecret
    · intro inside
      rw [isPlaceholder] at inside
      exact apart secret isSecret (overlap_of_part (some_ secret isSecret) inside)
    · obtain ⟨shown, -, same⟩ := isShown
      rw [same]
      exact redactText_absent some_ apart perm shown secret isSecret

/-- A value is redacted whatever the order of the secrets, if none is part of a key that is
shown and no two of them overlap in a string that is shown. -/
theorem redacted_of_apart (some_ : ∀ secret ∈ secrets, secret ≠ [])
    (apart : ∀ secret ∈ secrets, ¬ Overlap secret placeholder) {value : Json}
    (cleanKeys : ∀ key ∈ shownKeys py lower value, ∀ secret ∈ secrets, ¬ secret <:+: key)
    (apartIn : ∀ text ∈ shownTexts py lower value, ∀ first ∈ secrets, ∀ second ∈ secrets,
      first ≠ second → ¬ OverlapIn text first second) :
    Redacted py lower secrets value := by
  intro order perm
  refine ⟨(clean_redactSecrets_iff some_ apart perm value).mpr cleanKeys, ?_⟩
  apply redactSecrets_congr value
  intro text shown
  exact redactText_perm some_ apart perm (apartIn text shown)

/-- In every order no secret is left exactly if none is part of a key that is shown, and
the order does not matter where no two secrets overlap in a string that is shown. -/
theorem redactSecrets_complete (some_ : ∀ secret ∈ secrets, secret ≠ [])
    (apart : ∀ secret ∈ secrets, ¬ Overlap secret placeholder) (value : Json) :
    ((∀ order : List (List Char), order.Perm secrets →
        Clean secrets (redactSecrets py lower order value)) ↔
      ∀ key ∈ shownKeys py lower value, ∀ secret ∈ secrets, ¬ secret <:+: key) ∧
    ((∀ key ∈ shownKeys py lower value, ∀ secret ∈ secrets, ¬ secret <:+: key) →
      (∀ text ∈ shownTexts py lower value, ∀ first ∈ secrets, ∀ second ∈ secrets,
        first ≠ second → ¬ OverlapIn text first second) →
      Redacted py lower secrets value) := by
  refine ⟨⟨?_, ?_⟩, redacted_of_apart some_ apart⟩
  · intro clean
    exact (clean_redactSecrets_iff some_ apart (.refl secrets) value).mp
      (clean secrets (.refl secrets))
  · intro cleanKeys order perm
    exact (clean_redactSecrets_iff some_ apart perm value).mpr cleanKeys

end

def asciiLower (text : List Char) : List Char :=
  text.map Char.toLower

def separateSecrets : List (List Char) :=
  ["sk-ab".toList, "tok".toList]

/-- A status whose error quotes two secrets that do not overlap. -/
def failedStatus : Json :=
  .object [("error", .string "sk-ab: no tok"), ("endpoint_api_key", .string "sk-ab")]

theorem redactSecrets_complete_separate :
    Redacted asciiPython asciiLower separateSecrets failedStatus ∧
      redactText asciiPython separateSecrets "sk-ab: no tok".toList =
        "<redacted>: no <redacted>".toList := by
  have apart : ∀ secret ∈ separateSecrets, ¬ Overlap secret placeholder := by decide +kernel
  have keys : ∀ key ∈ shownKeys asciiPython asciiLower failedStatus, ∀ secret ∈ separateSecrets,
      ¬ secret <:+: key := by decide +kernel
  have separate : ∀ first ∈ separateSecrets, ∀ second ∈ separateSecrets, first ≠ second →
      ¬ Overlap first second := by decide +kernel
  refine ⟨(redactSecrets_complete (by decide +kernel) apart failedStatus).2 keys ?_, ?_⟩
  · intro text _ first isFirst second isSecond different overlap
    exact separate first isFirst second isSecond different overlap.overlap
  · decide +kernel

/-! ## A shorter secret first -/

/-- The key of an endpoint begins with the token of the service. -/
def nestedSecrets : List (List Char) :=
  ["sk-ab".toList, "sk-abc".toList]

/-- The rest of the longer secret is left in one order and not in the other; and a key of an
object is kept even if it is a secret. -/
theorem nestedSecrets_leak :
    (redactText asciiPython nestedSecrets "no sk-abc".toList = "no <redacted>c".toList ∧
      redactText asciiPython nestedSecrets.reverse "no sk-abc".toList =
        "no <redacted>".toList) ∧
    ¬ Redacted asciiPython asciiLower nestedSecrets (.string "no sk-abc") ∧
    ¬ Redacted asciiPython asciiLower nestedSecrets (.object [("sk-abc", .null)]) := by
  have short : redactText asciiPython nestedSecrets "no sk-abc".toList =
      "no <redacted>c".toList := by decide +kernel
  have long : redactText asciiPython nestedSecrets.reverse "no sk-abc".toList =
      "no <redacted>".toList := by decide +kernel
  refine ⟨⟨short, long⟩, ?_, ?_⟩
  · intro redacted
    have same := (redacted nestedSecrets.reverse (List.reverse_perm _)).2
    rw [redactSecrets, redactSecrets, short, long] at same
    have different : String.ofList "no <redacted>".toList ≠
        String.ofList "no <redacted>c".toList := by decide +kernel
    exact different (Json.string.inj same)
  · intro redacted
    have clean := (redacted nestedSecrets (.refl _)).1
    refine clean "sk-abc".toList ?_ "sk-abc".toList (by decide +kernel) List.infix_rfl
    rw [redactSecrets, redactMembers, texts, memberTexts]
    exact List.mem_cons_self

end InferenceEndpoint.SecretRedaction
