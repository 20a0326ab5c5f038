import InferenceEndpoint.LoadGenerator.TrajectoryDraws
import InferenceEndpoint.LoadGenerator.Turns

/-!
# Salt validation

`_validate_salt_system_prompts` looks for a message with the role of a system prompt before the
run, and `_messages_with_trajectory_salt` for one whose content is a string when a turn is
issued.
-/

namespace InferenceEndpoint

open World

variable {config : AgenticConfig}

/-! ## What can be drawn -/

/-- No more instances are drawn than the budget allows. -/
theorem Drawing.length_le {world : World} {drawn : List ConversationInstance}
    (drawing : Drawing config world drawn) : drawn.length ≤ config.trajectoryBudget := by
  induction drawing with
  | reset world => exact Nat.zero_le _
  | @draw world next drawn started before draw ih =>
      obtain ⟨more, _⟩ := nextConversationInstance_eq_some draw
      have aligned := before.aligned
      unfold hasMoreConversationInstances hasTrajectoryBudget World.trajectoryBudget at more
      rw [aligned.baseConvs, aligned.started, Bool.and_eq_true] at more
      have below := of_decide_eq_true more.2
      rw [List.length_append]
      exact below
  | between _ _ ih => exact ih

/-- Every number below the budget is drawn in some run. -/
theorem exists_drawing (world : World) (nonempty : config.metadata.baseConvs ≠ []) {count : Nat}
    (within : count ≤ config.trajectoryBudget) :
    ∃ last drawn, Drawing config last drawn ∧ drawn.length = count := by
  induction count with
  | zero => exact ⟨_, [], .reset world, rfl⟩
  | succ count ih =>
      obtain ⟨last, drawn, drawing, length⟩ := ih (Nat.le_of_succ_le within)
      have aligned := drawing.aligned
      have more : last.hasMoreConversationInstances config = true := by
        unfold hasMoreConversationInstances hasTrajectoryBudget World.trajectoryBudget
        rw [aligned.baseConvs, aligned.started, length, Bool.and_eq_true, Bool.not_eq_true',
          List.isEmpty_eq_false_iff]
        exact ⟨nonempty, decide_eq_true within⟩
      obtain ⟨started, next, draw⟩ := aligned.exists_draw more
      refine ⟨next, drawn ++ [started], drawing.draw draw, ?_⟩
      rw [List.length_append, length]
      rfl

/-! ## Salting -/

/-- A message that can be salted. -/
def ChatMessage.isSystemText (message : ChatMessage) : Bool :=
  message.role = some "system" && message.content.isSome

/-- The messages of the turn have one. -/
def AgenticConfig.hasSystemText (config : AgenticConfig) (sourceId : String) (turn : Nat) : Bool :=
  match config.metadata.preBuiltMessagesByKey sourceId turn with
  | none => false
  | some messages => messages.any ChatMessage.isSystemText

theorem messagesWithTrajectorySalt_isSome (config : AgenticConfig) (repeatId : Nat)
    (conversationId : String) (messages : List ChatMessage) :
    (messagesWithTrajectorySalt config repeatId conversationId messages).isSome =
      messages.any ChatMessage.isSystemText := by
  induction messages with
  | nil => rfl
  | cons message messages ih =>
      unfold messagesWithTrajectorySalt
      split
      · rename_i content role text
        simp [ChatMessage.isSystemText, role, text]
      · rename_i notText
        have skipped : message.isSystemText = false := by
          unfold ChatMessage.isSystemText
          cases content : message.content with
          | none => simp
          | some text =>
              have other : message.role ≠ some "system" := fun role => notText text role content
              simp [other]
        rw [Option.isSome_map, ih, List.any_cons, skipped, Bool.false_or]

theorem buildDataOverride_isSome (config : AgenticConfig) (sourceId : String)
    (turn repeatId : Nat) :
    (buildDataOverride config sourceId turn repeatId).isSome =
      (!config.enableSalt || config.hasSystemText sourceId turn) := by
  unfold buildDataOverride AgenticConfig.hasSystemText
  cases config.enableSalt with
  | false => rfl
  | true =>
      rw [if_pos rfl]
      cases config.metadata.preBuiltMessagesByKey sourceId turn with
      | none => rfl
      | some messages =>
          dsimp only
          rw [Option.isSome_map, messagesWithTrajectorySalt_isSome]
          rfl

/-- No turn of an instance that a run draws fails to be salted. -/
def AgenticConfig.NeverRaises (config : AgenticConfig) : Prop :=
  ∀ world drawn, Drawing config world drawn → ∀ started ∈ drawn, ∀ turn ∈ started.turns,
    buildDataOverride config started.sourceId turn.turn started.repeatId ≠ none

/-- Every turn of the instances within the budget has a system prompt that is a text. -/
def AgenticConfig.SystemTexts (config : AgenticConfig) : Prop :=
  ∀ number < config.trajectoryBudget, ∀ started, config.instanceAt? number = some started →
    ∀ turn ∈ started.turns, config.hasSystemText started.sourceId turn.turn = true

theorem neverRaises_iff (config : AgenticConfig) :
    config.NeverRaises ↔ (config.enableSalt = true → config.SystemTexts) := by
  constructor
  · intro never salt number below started is turn member
    have nonempty : config.metadata.baseConvs ≠ [] := by
      obtain ⟨base, found, _⟩ := Option.map_eq_some_iff.mp is
      exact List.ne_nil_of_mem (List.mem_of_getElem? found)
    obtain ⟨last, drawn, drawing, length⟩ :=
      exists_drawing OneTurn.start.world nonempty (Nat.succ_le_of_lt below)
    have inside : number < drawn.length := by omega
    have same : drawn[number] = started := by
      have here := Enumerated.instanceAt? drawing.aligned.instances inside
      exact Option.some.inj (here.symm.trans is)
    have kept := never last drawn drawing started (same ▸ List.getElem_mem inside) turn member
    rw [← Option.isSome_iff_ne_none, buildDataOverride_isSome, salt] at kept
    exact kept
  · intro texts world drawn drawing started member turn turnMember
    rw [← Option.isSome_iff_ne_none, buildDataOverride_isSome]
    cases salt : config.enableSalt with
    | false => rfl
    | true =>
        obtain ⟨number, inside, rfl⟩ := List.getElem_of_mem member
        have is := Enumerated.instanceAt? drawing.aligned.instances inside
        exact texts salt number (Nat.lt_of_lt_of_le inside drawing.length_le) _ is turn turnMember

/-- The validation is complete exactly if the system prompts it accepts are texts. -/
theorem salt_validation_complete_iff (config : AgenticConfig) :
    (saltSystemPromptsValid config config.metadata.baseConvs = true → config.NeverRaises) ↔
      (saltSystemPromptsValid config config.metadata.baseConvs = true →
        config.enableSalt = true → config.SystemTexts) :=
  imp_congr_right fun _ => neverRaises_iff config

/-- One conversation whose system prompt is a list of parts. -/
def systemParts : AgenticConfig where
  metadata :=
    { samples := [⟨"conv", 1, 0⟩]
      preBuiltMessagesByKey := fun _ _ =>
        some [⟨some "system", none, "content: a list of parts"⟩, ⟨some "user", some "hello", ""⟩] }
  enableSalt := true

theorem salt_validation_accepts_parts :
    ¬(saltSystemPromptsValid systemParts systemParts.metadata.baseConvs = true →
      systemParts.NeverRaises) := by
  intro complete
  have drawing : Drawing systemParts _ _ := .draw (.reset OneTurn.start.world) rfl
  exact complete (by decide) _ _ drawing ⟨"conv", "conv", [⟨0, 1⟩], 1⟩ (by decide) ⟨0, 1⟩
    (by decide) (by decide)

end InferenceEndpoint
