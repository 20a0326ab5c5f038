import Mathlib.Data.List.Basic
import Mathlib.Data.List.Infix

/-!
# Nested dictionaries

Dictionaries whose values are values or dictionaries again, with the assignment of a
value at a path.  An assignment makes the dictionaries that are missing on its way and
fails at a value, but it replaces whatever its last key held, a dictionary included.
-/

inductive NestedDict (Key Value : Type)
  | leaf (value : Value)
  | dict (members : List (Key × NestedDict Key Value))

namespace NestedDict

variable {Key Value : Type} [DecidableEq Key]

abbrev Members (Key Value : Type) :=
  List (Key × NestedDict Key Value)

/-- Set a key; an old key keeps its place. -/
def put (members : Members Key Value) (key : Key) (node : NestedDict Key Value) :
    Members Key Value :=
  if members.any (·.1 = key) then
    members.map fun member => if member.1 = key then (key, node) else member
  else members ++ [(key, node)]

def follow : List Key → NestedDict Key Value → Option (NestedDict Key Value)
  | [], node => some node
  | key :: path, .dict members => (members.lookup key).bind (follow path)
  | _ :: _, .leaf _ => none

/-- The dictionary below a key, or the key where there is a value. -/
def enter (members : Members Key Value) (key : Key) : Except Key (Members Key Value) :=
  match members.lookup key with
  | none => .ok []
  | some (.dict inner) => .ok inner
  | some (.leaf _) => .error key

/-- Assign a value at a path; a path has a key at least. -/
def assign : List Key → Value → Members Key Value → Except Key (Members Key Value)
  | [], _, members => .ok members
  | [last], value, members => .ok (put members last (.leaf value))
  | key :: next :: path, value, members =>
      (enter members key).bind fun inner =>
        (assign (next :: path) value inner).map fun inner => put members key (.dict inner)

/-! ## Members -/

theorem lookup_map_put (members : Members Key Value) (key other : Key)
    (node : NestedDict Key Value) :
    (members.map fun member => if member.1 = key then (key, node) else member).lookup other =
      if other = key ∧ members.any (·.1 = key) then some node else members.lookup other := by
  induction members with
  | nil => simp
  | cons member members ih =>
      obtain ⟨name, held⟩ := member
      by_cases here : name = key
      · subst here
        by_cases same : other = name
        · simp [same]
        · have passed : (other == name) = false := beq_false_of_ne same
          simp [same, List.lookup_cons, ih, passed]
      · by_cases same : other = name
        · subst same
          simp [here]
        · have passed : (other == name) = false := beq_false_of_ne same
          have skipped : ((name, held) :: members).any (·.1 = key) = members.any (·.1 = key) := by
            rw [List.any_cons, decide_eq_false here, Bool.false_or]
          rw [List.map_cons, if_neg here, List.lookup_cons, passed, skipped, ih,
            List.lookup_cons, passed]

theorem lookup_put (members : Members Key Value) (key other : Key)
    (node : NestedDict Key Value) :
    (put members key node).lookup other =
      if other = key then some node else members.lookup other := by
  unfold put
  by_cases present : members.any (·.1 = key) = true
  · rw [if_pos present, lookup_map_put]
    simp [present]
  · rw [if_neg present, List.lookup_append]
    by_cases same : other = key
    · subst same
      have absent : members.lookup other = none := by
        rw [List.lookup_eq_none_iff]
        intro member memberMem
        have different : ¬ member.1 = other := fun equal =>
          present (List.any_eq_true.mpr ⟨member, memberMem, decide_eq_true equal⟩)
        simpa using fun equal : other = member.1 => different equal.symm
      simp [absent]
    · have elsewhere : List.lookup other [(key, node)] = none := by
        simp [List.lookup_cons, beq_false_of_ne same]
      simp [elsewhere, same]

/-! ## Following a path -/

@[simp]
theorem follow_nil (node : NestedDict Key Value) : follow [] node = some node := by
  cases node <;> rfl

@[simp]
theorem follow_cons_leaf (key : Key) (path : List Key) (value : Value) :
    follow (key :: path) (.leaf value : NestedDict Key Value) = none :=
  rfl

@[simp]
theorem follow_cons_dict (key : Key) (path : List Key) (members : Members Key Value) :
    follow (key :: path) (.dict members) = (members.lookup key).bind (follow path) :=
  rfl

theorem follow_append (path rest : List Key) (node : NestedDict Key Value) :
    follow (path ++ rest) node = (follow path node).bind (follow rest) := by
  induction path generalizing node with
  | nil => simp
  | cons key path ih =>
      cases node with
      | leaf value => rfl
      | dict members =>
          simp only [List.cons_append, follow_cons_dict]
          cases members.lookup key with
          | none => rfl
          | some inner => exact ih inner

/-- Nothing is found behind a value. -/
theorem follow_beyond_value {path beyond : List Key} {node : NestedDict Key Value}
    {value : Value} (found : follow path node = some (.leaf value))
    (below : path <+: beyond) (longer : path ≠ beyond) :
    follow beyond node = none := by
  obtain ⟨rest, rfl⟩ := below
  rw [follow_append, found, Option.bind_some]
  cases rest with
  | nil => exact absurd (List.append_nil path).symm longer
  | cons key rest => rfl

/-! ## One assignment -/

theorem follow_put_self (members : Members Key Value) (key : Key)
    (node : NestedDict Key Value) (path : List Key) :
    follow (key :: path) (.dict (put members key node)) = follow path node := by
  simp [lookup_put]

theorem follow_put_of_ne (members : Members Key Value) {key other : Key}
    (different : other ≠ key) (node : NestedDict Key Value) (path : List Key) :
    follow (other :: path) (.dict (put members key node)) =
      follow (other :: path) (.dict members) := by
  simp [lookup_put, different]

/-- What can be followed into a key is what its dictionary holds. -/
theorem follow_enter {members inner : Members Key Value} {key : Key}
    (entered : enter members key = .ok inner) {path : List Key} (proper : path ≠ []) :
    follow (key :: path) (.dict members) = follow path (.dict inner) := by
  unfold enter at entered
  cases held : members.lookup key with
  | none =>
      rw [held] at entered
      cases entered
      cases path with
      | nil => exact absurd rfl proper
      | cons next path => simp [held]
  | some node =>
      cases node with
      | leaf value =>
          rw [held] at entered
          cases entered
      | dict members =>
          rw [held] at entered
          cases entered
          simp [held]

/-- The steps of an assignment through a dictionary. -/
theorem assign_cons_ok {key next : Key} {path : List Key} {value : Value}
    {members assigned : Members Key Value}
    (isAssigned : assign (key :: next :: path) value members = .ok assigned) :
    ∃ inner after, enter members key = .ok inner ∧
      assign (next :: path) value inner = .ok after ∧
      assigned = put members key (.dict after) := by
  rw [assign] at isAssigned
  cases entered : enter members key with
  | error taken =>
      rw [entered] at isAssigned
      cases isAssigned
  | ok inner =>
      cases below : assign (next :: path) value inner with
      | error taken =>
          rw [entered, Except.bind, below] at isAssigned
          cases isAssigned
      | ok after =>
          rw [entered, Except.bind, below] at isAssigned
          cases isAssigned
          exact ⟨inner, after, rfl, below, rfl⟩

theorem follow_assign {path : List Key} (proper : path ≠ []) {value : Value}
    {members assigned : Members Key Value} (isAssigned : assign path value members = .ok assigned) :
    follow path (.dict assigned) = some (.leaf value) := by
  induction path generalizing members assigned with
  | nil => exact absurd rfl proper
  | cons key path ih =>
      cases path with
      | nil =>
          cases isAssigned
          rw [follow_put_self, follow_nil]
      | cons next path =>
          obtain ⟨inner, after, -, below, rfl⟩ := assign_cons_ok isAssigned
          rw [follow_put_self]
          exact ih (List.cons_ne_nil _ _) below

/-- An assignment leaves alone what is neither on its way nor behind it. -/
theorem follow_assign_apart {path other : List Key} {value : Value}
    {members assigned : Members Key Value} (isAssigned : assign path value members = .ok assigned)
    (notBehind : ¬ path <+: other) (notOn : ¬ other <+: path) :
    follow other (.dict assigned) = follow other (.dict members) := by
  induction path generalizing other members assigned with
  | nil => exact absurd (List.nil_prefix) notBehind
  | cons key path ih =>
      cases other with
      | nil => exact absurd (List.nil_prefix) notOn
      | cons first other =>
          by_cases same : first = key
          · subst same
            rw [List.prefix_cons_inj] at notBehind notOn
            cases path with
            | nil => exact absurd (List.nil_prefix) notBehind
            | cons next path =>
                obtain ⟨inner, after, entered, below, rfl⟩ := assign_cons_ok isAssigned
                have longer : other ≠ [] := by
                  rintro rfl
                  exact notOn (List.nil_prefix)
                rw [follow_put_self, follow_enter entered longer]
                exact ih below notBehind notOn
          · cases path with
            | nil =>
                cases isAssigned
                exact follow_put_of_ne members same _ other
            | cons next path =>
                obtain ⟨inner, after, -, -, rfl⟩ := assign_cons_ok isAssigned
                exact follow_put_of_ne members same _ other

/-- On the way of an assignment there are dictionaries. -/
theorem follow_assign_on {path other : List Key} {value : Value}
    {members assigned : Members Key Value} (isAssigned : assign path value members = .ok assigned)
    (on : other <+: path) (shorter : other ≠ path) :
    ∃ inner, follow other (.dict assigned) = some (.dict inner) := by
  induction path generalizing other members assigned with
  | nil => exact absurd (List.prefix_nil.mp on) shorter
  | cons key path ih =>
      cases other with
      | nil => exact ⟨assigned, follow_nil _⟩
      | cons first other =>
          obtain ⟨rfl, below⟩ := List.cons_prefix_cons.mp on
          cases path with
          | nil =>
              rw [List.prefix_nil.mp below] at shorter
              exact absurd rfl shorter
          | cons next path =>
              obtain ⟨inner, after, -, assignedBelow, rfl⟩ := assign_cons_ok isAssigned
              rw [follow_put_self]
              exact ih assignedBelow below fun equal => shorter (by rw [equal])

/-- An assignment fails exactly where a value lies on its way. -/
theorem assign_isOk_iff {path : List Key} {value : Value} {members : Members Key Value} :
    (∃ assigned, assign path value members = .ok assigned) ↔
      ∀ other, other <+: path → other ≠ path → ∀ held,
        follow other (.dict members) ≠ some (.leaf held) := by
  induction path generalizing members with
  | nil =>
      constructor
      · intro _ other on shorter
        exact absurd (List.prefix_nil.mp on) shorter
      · intro _
        exact ⟨members, rfl⟩
  | cons key path ih =>
      cases path with
      | nil =>
          constructor
          · intro _ other on shorter held found
            cases other with
            | nil => cases found
            | cons first other =>
                obtain ⟨rfl, below⟩ := List.cons_prefix_cons.mp on
                rw [List.prefix_nil.mp below] at shorter
                exact shorter rfl
          · intro _
            exact ⟨_, rfl⟩
      | cons next path =>
          constructor
          · rintro ⟨assigned, isAssigned⟩ other on shorter held found
            obtain ⟨inner, after, entered, below, rfl⟩ := assign_cons_ok isAssigned
            cases other with
            | nil => cases found
            | cons first other =>
                obtain ⟨rfl, onBelow⟩ := List.cons_prefix_cons.mp on
                by_cases end_ : other = []
                · subst end_
                  unfold enter at entered
                  rw [follow_cons_dict] at found
                  cases lookedUp : members.lookup first with
                  | none =>
                      rw [lookedUp] at found
                      cases found
                  | some node =>
                      rw [lookedUp, Option.bind_some, follow_nil] at found
                      cases found
                      rw [lookedUp] at entered
                      cases entered
                · rw [follow_enter entered end_] at found
                  exact (ih.mp ⟨after, below⟩) other onBelow
                    (fun equal => shorter (by rw [equal])) held found
          · intro free
            have entered : ∃ inner, enter members key = .ok inner := by
              unfold enter
              cases lookedUp : members.lookup key with
              | none => exact ⟨_, rfl⟩
              | some node =>
                  cases node with
                  | dict inner => exact ⟨_, rfl⟩
                  | leaf held =>
                      have found : follow [key] (.dict members) = some (.leaf held) := by
                        simp [lookedUp]
                      exact absurd found (free [key] ⟨next :: path, rfl⟩ (by simp) held)
            obtain ⟨inner, entered⟩ := entered
            have below : ∃ after, assign (next :: path) value inner = .ok after := by
              apply ih.mpr
              intro other on shorter held found
              cases other with
              | nil => cases found
              | cons first other =>
                  apply free (key :: first :: other) (List.cons_prefix_cons.mpr ⟨rfl, on⟩)
                    (fun equal => shorter (List.cons.inj equal).2) held
                  rw [follow_enter entered (List.cons_ne_nil _ _), found]
            obtain ⟨after, below⟩ := below
            exact ⟨put members key (.dict after), by rw [assign, entered, Except.bind, below]; rfl⟩

/-- One path goes on from where the other ends. -/
def Below (path longer : List Key) : Prop :=
  path <+: longer ∧ path ≠ longer

/-- Everything that an assignment does to what can be followed. -/
theorem follow_assign_cases {path : List Key} (proper : path ≠ []) {value : Value}
    {members assigned : Members Key Value} (isAssigned : assign path value members = .ok assigned)
    (other : List Key) :
    (other = path ∧ follow other (.dict assigned) = some (.leaf value)) ∨
      (Below path other ∧ follow other (.dict assigned) = none) ∨
      (Below other path ∧ (∃ inner, follow other (.dict assigned) = some (.dict inner)) ∧
        ∀ held, follow other (.dict members) ≠ some (.leaf held)) ∨
      (¬ path <+: other ∧ ¬ other <+: path ∧
        follow other (.dict assigned) = follow other (.dict members)) := by
  have written := follow_assign proper isAssigned
  by_cases same : other = path
  · subst same
    exact .inl ⟨rfl, written⟩
  · by_cases behind : path <+: other
    · exact .inr (.inl ⟨⟨behind, Ne.symm same⟩,
        follow_beyond_value written behind (Ne.symm same)⟩)
    · by_cases on : other <+: path
      · exact .inr (.inr (.inl ⟨⟨on, same⟩, follow_assign_on isAssigned on same,
          assign_isOk_iff.mp ⟨assigned, isAssigned⟩ other on same⟩))
      · exact .inr (.inr (.inr ⟨behind, on, follow_assign_apart isAssigned behind on⟩))

/-! ## Many assignments -/

def assignAll (writes : List (List Key × Value)) : Except Key (Members Key Value) :=
  writes.foldlM (fun members write => assign write.1 write.2 members) []

theorem assignAll_concat {writes : List (List Key × Value)} {write : List Key × Value}
    {members : Members Key Value} :
    assignAll (writes ++ [write]) = .ok members ↔
      ∃ before, assignAll writes = .ok before ∧ assign write.1 write.2 before = .ok members := by
  unfold assignAll
  rw [List.foldlM_append]
  cases writes.foldlM (fun members write => assign write.1 write.2 members)
      ([] : Members Key Value) with
  | error taken =>
      constructor
      · intro failed
        cases failed
      · rintro ⟨_, failed, -⟩
        cases failed
  | ok before =>
      rw [show (Except.ok before >>= fun members => List.foldlM
        (fun members write => assign write.1 write.2 members) members [write]) =
          assign write.1 write.2 before >>= pure from rfl, bind_pure]
      constructor
      · intro isAssigned
        exact ⟨before, rfl, isAssigned⟩
      · rintro ⟨_, same, isAssigned⟩
        cases same
        exact isAssigned

/-- The values that can be found were all assigned. -/
theorem written_of_follow {writes : List (List Key × Value)}
    (proper : ∀ write ∈ writes, write.1 ≠ []) {members : Members Key Value}
    (isAssigned : assignAll writes = .ok members) {path : List Key} {value : Value}
    (found : follow path (.dict members) = some (.leaf value)) : (path, value) ∈ writes := by
  induction writes using List.reverseRecOn generalizing members with
  | nil =>
      cases isAssigned
      cases path with
      | nil => cases found
      | cons key path => cases found
  | append_singleton writes write ih =>
      obtain ⟨before, isBefore, last⟩ := assignAll_concat.mp isAssigned
      have properBefore : ∀ earlier ∈ writes, earlier.1 ≠ [] := fun earlier member =>
        proper earlier (List.mem_append_left _ member)
      rcases follow_assign_cases (proper write (by simp)) last path with
        ⟨same, written⟩ | ⟨-, nothing⟩ | ⟨-, ⟨inner, isDict⟩, -⟩ | ⟨-, -, kept⟩
      · rw [written] at found
        cases found
        subst same
        simp
      · rw [nothing] at found
        cases found
      · rw [isDict] at found
        cases found
      · rw [kept] at found
        exact List.mem_append_left _ (ih properBefore isBefore found)

/-- On the way to every path that was assigned a value is found, at its end or before. -/
theorem exists_value_of_written {writes : List (List Key × Value)}
    (proper : ∀ write ∈ writes, write.1 ≠ []) {members : Members Key Value}
    (isAssigned : assignAll writes = .ok members) {write : List Key × Value}
    (written : write ∈ writes) :
    ∃ path value, path <+: write.1 ∧ follow path (.dict members) = some (.leaf value) := by
  induction writes using List.reverseRecOn generalizing members with
  | nil => cases written
  | append_singleton writes last ih =>
      obtain ⟨before, isBefore, lastAssigned⟩ := assignAll_concat.mp isAssigned
      have properBefore : ∀ earlier ∈ writes, earlier.1 ≠ [] := fun earlier member =>
        proper earlier (List.mem_append_left _ member)
      have lastProper : last.1 ≠ [] := proper last (by simp)
      rcases List.mem_append.mp written with earlier | isLast
      · obtain ⟨path, value, on, found⟩ := ih properBefore isBefore earlier
        rcases follow_assign_cases lastProper lastAssigned path with
          ⟨rfl, replaced⟩ | ⟨⟨shorter, -⟩, -⟩ | ⟨-, -, free⟩ | ⟨-, -, kept⟩
        · exact ⟨last.1, last.2, on, replaced⟩
        · exact ⟨last.1, last.2, shorter.trans on, follow_assign lastProper lastAssigned⟩
        · exact absurd found (free value)
        · exact ⟨path, value, on, kept.trans found⟩
      · obtain rfl := List.mem_singleton.mp isLast
        exact ⟨write.1, write.2, List.prefix_rfl, follow_assign lastProper lastAssigned⟩

/-- Assignments fail exactly where a path goes on behind an earlier one. -/
theorem assignAll_isOk_iff {writes : List (List Key × Value)}
    (proper : ∀ write ∈ writes, write.1 ≠ []) :
    (∃ members, assignAll writes = .ok members) ↔
      writes.Pairwise fun earlier later => ¬ Below earlier.1 later.1 := by
  induction writes using List.reverseRecOn with
  | nil => exact ⟨fun _ => List.Pairwise.nil, fun _ => ⟨[], rfl⟩⟩
  | append_singleton writes last ih =>
      have properBefore : ∀ earlier ∈ writes, earlier.1 ≠ [] := fun earlier member =>
        proper earlier (List.mem_append_left _ member)
      rw [List.pairwise_append]
      constructor
      · rintro ⟨members, isAssigned⟩
        obtain ⟨before, isBefore, lastAssigned⟩ := assignAll_concat.mp isAssigned
        refine ⟨(ih properBefore).mp ⟨before, isBefore⟩, List.pairwise_singleton _ _, ?_⟩
        intro earlier member later isLast below
        obtain rfl := List.mem_singleton.mp isLast
        obtain ⟨path, value, on, found⟩ :=
          exists_value_of_written properBefore isBefore member
        have shorter : path ≠ later.1 := by
          rintro rfl
          exact below.2 (below.1.eq_of_length_le on.length_le)
        exact assign_isOk_iff.mp ⟨members, lastAssigned⟩ path (on.trans below.1) shorter value
          found
      · rintro ⟨pairwise, -, free⟩
        obtain ⟨before, isBefore⟩ := (ih properBefore).mpr pairwise
        have lastAssigned : ∃ members, assign last.1 last.2 before = .ok members := by
          apply assign_isOk_iff.mpr
          intro path on shorter value found
          exact free (path, value) (written_of_follow properBefore isBefore found) last (by simp)
            ⟨on, shorter⟩
        obtain ⟨members, lastAssigned⟩ := lastAssigned
        exact ⟨members, assignAll_concat.mpr ⟨before, isBefore, lastAssigned⟩⟩

/-- An assigned value is found, unless a later path ended on the way to it. -/
theorem follow_written_iff {before after : List (List Key × Value)} {write : List Key × Value}
    (proper : ∀ other ∈ before ++ write :: after, other.1 ≠ []) {members : Members Key Value}
    (isAssigned : assignAll (before ++ write :: after) = .ok members)
    (last : ∀ later ∈ after, later.1 ≠ write.1) :
    follow write.1 (.dict members) = some (.leaf write.2) ↔
      ∀ later ∈ after, ¬ Below later.1 write.1 := by
  constructor
  · intro found later member below
    obtain ⟨path, value, on, taken⟩ := exists_value_of_written proper isAssigned
      (List.mem_append_right before (List.mem_cons_of_mem write member))
    have shorter : path ≠ write.1 := by
      rintro rfl
      exact below.2 (below.1.eq_of_length_le on.length_le)
    rw [follow_beyond_value taken (on.trans below.1) shorter] at found
    cases found
  · intro free
    induction after using List.reverseRecOn generalizing members with
    | nil =>
        obtain ⟨_, -, written⟩ := assignAll_concat.mp isAssigned
        exact follow_assign (proper write (by simp)) written
    | append_singleton after next ih =>
        have split : before ++ write :: (after ++ [next]) = (before ++ write :: after) ++ [next] :=
          by simp
        rw [split] at isAssigned proper
        obtain ⟨held, isHeld, assigned⟩ := assignAll_concat.mp isAssigned
        have found := ih (fun other member => proper other (List.mem_append_left _ member)) isHeld
          (fun later member => last later (List.mem_append_left _ member))
          (fun later member => free later (List.mem_append_left _ member))
        rcases follow_assign_cases (proper next (by simp)) assigned write.1 with
          ⟨same, -⟩ | ⟨below, -⟩ | ⟨-, -, notHeld⟩ | ⟨-, -, kept⟩
        · exact absurd same.symm (last next (by simp))
        · exact absurd below (free next (by simp))
        · exact absurd found (notHeld write.2)
        · exact kept.trans found

/-- A path that no assignment cuts off leads somewhere where one goes through it. -/
theorem follow_isSome_iff {writes : List (List Key × Value)}
    (proper : ∀ write ∈ writes, write.1 ≠ []) {members : Members Key Value}
    (isAssigned : assignAll writes = .ok members) {path : List Key} (isPath : path ≠ [])
    (uncut : ∀ write ∈ writes, ¬ Below write.1 path) :
    (follow path (.dict members)).isSome = true ↔ ∃ write ∈ writes, path <+: write.1 := by
  induction writes using List.reverseRecOn generalizing members with
  | nil =>
      cases isAssigned
      cases path with
      | nil => exact absurd rfl isPath
      | cons key path => simp
  | append_singleton writes last ih =>
      obtain ⟨before, isBefore, lastAssigned⟩ := assignAll_concat.mp isAssigned
      have earlier := ih (fun write member => proper write (List.mem_append_left _ member)) isBefore
        (fun write member => uncut write (List.mem_append_left _ member))
      rcases follow_assign_cases (proper last (by simp)) lastAssigned path with
        ⟨same, found⟩ | ⟨below, -⟩ | ⟨⟨on, -⟩, ⟨inner, found⟩, -⟩ | ⟨-, notOn, kept⟩
      · rw [found]
        exact ⟨fun _ => ⟨last, by simp, by rw [same]⟩, fun _ => rfl⟩
      · exact absurd below (uncut last (by simp))
      · rw [found]
        exact ⟨fun _ => ⟨last, by simp, on⟩, fun _ => rfl⟩
      · rw [kept, earlier]
        simp [notOn]

end NestedDict
