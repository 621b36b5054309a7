import Anycode.Ui.Launch

/-!
# The two restarts

A settings restart rebuilds the arguments from the ones the wrapper was given; Ctrl+R resumes the
session that the first spawn resolved. Where the two ask for the same session.
-/

namespace Anycode.Ui
open Args Config Data

/-- Where the session of a classified argument comes from, if it names one. -/
def sessionFlag : ClassifiedArg → Option SessionSource
  | .intercepted flag (some _) =>
    if flag = "--session-id" then some .explicitId else if flag = "--resume" then some .resumeId else none
  | _ => none

def isContinue : ClassifiedArg → Bool
  | .intercepted flag _ => flag == "--continue"
  | _ => false

/-- The last session named is one to resume; or none is, and `--continue` finds at the restart the
session that the process was started with. -/
def AsksToResume (start restart : Host) (rawArgs : List String) : Prop :=
  let classified := (classify rawArgs flagRegistry).args
  match (classified.filterMap sessionFlag).getLast? with
  | some source => source = .resumeId
  | none =>
    classified.any isContinue = true ∧
      readLastSessionId restart = some ((readLastSessionId start).getD start.newV4)

/-- A settings restart asks for what Ctrl+R asks for, and adds its own arguments. -/
def RestartsAgree (start restart : Host) (rawArgs : List String) (cliMode : CliMode) : Prop :=
  ∀ startUrl proxyUrl command sessionToken startSettings settings shim extraEnv extraArgs proxyPort isPassthrough wireApi,
    let spawn := buildSpawnParams start rawArgs startUrl cliMode.proxyEnvVar command sessionToken startSettings none none
      isPassthrough wireApi
    (buildRestartParams restart rawArgs proxyUrl cliMode.proxyEnvVar command sessionToken settings shim extraEnv extraArgs
        (some proxyPort) isPassthrough wireApi).args =
      (restartClaude restart rawArgs cliMode proxyUrl command sessionToken settings shim proxyPort isPassthrough wireApi
        spawn.sessionId).args ++ extraArgs

/-! ### Resolving -/

theorem see_source (flags : SessionFlags) (arg : ClassifiedArg) :
    (flags.see arg).userSession.map Prod.snd = (sessionFlag arg).or (flags.userSession.map Prod.snd) := by
  cases arg with
  | intercepted flag value =>
    simp only [SessionFlags.see]
    cases value with
    | none =>
      simp only [sessionFlag, SessionFlags.select, Option.none_or]
      split
      · rfl
      · split
        · rfl
        · split <;> rfl
    | some id =>
      simp only [sessionFlag, SessionFlags.select]
      split
      · rfl
      · split
        · rfl
        · split <;> rfl
  | wrapperOwned flag value => rfl
  | knownPassthrough flag value => rfl
  | unknownPassthrough arg => rfl
  | positional arg => rfl

theorem see_continue (flags : SessionFlags) (arg : ClassifiedArg) :
    (flags.see arg).sawContinue = (flags.sawContinue || isContinue arg) := by
  cases arg with
  | intercepted flag value =>
    simp only [SessionFlags.see, isContinue]
    by_cases explicit : flag = "--session-id"
    · subst explicit
      cases value <;> exact (Bool.or_false _).symm
    · rw [if_neg explicit]
      by_cases resumed : flag = "--resume"
      · subst resumed
        cases value <;> exact (Bool.or_false _).symm
      · rw [if_neg resumed]
        split
        · rename_i continued
          rw [continued, beq_self_eq_true, Bool.or_true]
        · rename_i other
          rw [beq_eq_false_iff_ne.mpr other, Bool.or_false]
  | wrapperOwned flag value => exact (Bool.or_false _).symm
  | knownPassthrough flag value => exact (Bool.or_false _).symm
  | unknownPassthrough arg => exact (Bool.or_false _).symm
  | positional arg => exact (Bool.or_false _).symm

theorem foldl_see_source (flags : SessionFlags) (args : List ClassifiedArg) :
    (args.foldl SessionFlags.see flags).userSession.map Prod.snd =
      (args.filterMap sessionFlag).getLast?.or (flags.userSession.map Prod.snd) := by
  induction args generalizing flags with
  | nil => rfl
  | cons arg rest ih =>
    rw [List.foldl_cons, ih, see_source, List.filterMap_cons]
    cases sessionFlag arg with
    | none => rfl
    | some source =>
      dsimp only
      rw [List.getLast?_cons]
      cases (rest.filterMap sessionFlag).getLast? <;> rfl

theorem foldl_see_continue (flags : SessionFlags) (args : List ClassifiedArg) :
    (args.foldl SessionFlags.see flags).sawContinue = (flags.sawContinue || args.any isContinue) := by
  induction args generalizing flags with
  | nil => exact (Bool.or_false _).symm
  | cons arg rest ih => rw [List.foldl_cons, ih, see_continue, List.any_cons, Bool.or_assoc]

theorem ne_continueLast_of_mem {source : SessionSource} {args : List ClassifiedArg}
    (named : source ∈ args.filterMap sessionFlag) : source ≠ .continueLast := by
  obtain ⟨arg, _, flagged⟩ := List.mem_filterMap.mp named
  rintro rfl
  unfold sessionFlag at flagged
  split at flagged
  · split at flagged
    · cases flagged
    · split at flagged <;> cases flagged
  · cases flagged

/-- What the arguments resolve to at the restart is to be resumed, and is what they resolved to
at the start. -/
theorem resolveSession_resumes_iff (start restart : Host) (rawArgs : List String) :
    ((resolveSession restart (classify rawArgs flagRegistry).args).source.mode = .resume ∧
      (resolveSession restart (classify rawArgs flagRegistry).args).sessionId =
        (resolveSession start (classify rawArgs flagRegistry).args).sessionId) ↔
      AsksToResume start restart rawArgs := by
  unfold AsksToResume
  generalize (classify rawArgs flagRegistry).args = classified
  have source := foldl_see_source {} classified
  have continued := foldl_see_continue {} classified
  rw [Option.map_none, Option.or_none] at source
  rw [Bool.false_or] at continued
  dsimp only
  rw [← continued]
  cases named : (classified.filterMap sessionFlag).getLast? with
  | some kind =>
    rw [named] at source
    obtain ⟨⟨id, last⟩, given, rfl⟩ := Option.map_eq_some_iff.mp source
    have other := ne_continueLast_of_mem (List.mem_of_getLast? named)
    simp only [resolveSession, given, and_true]
    revert other
    cases last <;> simp [SessionSource.mode]
  | none =>
    rw [named, Option.map_eq_none_iff] at source
    simp only [resolveSession, source]
    cases (classified.foldl SessionFlags.see {}).sawContinue with
    | false => simp [SessionSource.mode]
    | true =>
      cases readLastSessionId restart with
      | none => simp [SessionSource.mode]
      | some found => cases readLastSessionId start <;> simp [SessionSource.mode]

/-! ### Assembling -/

theorem withSession_args_iff (assembler : ArgAssembler) (session : SessionResolution) (mode : SessionMode)
    (sessionId : String) :
    (assembler.withSession session mode).args = (assembler.withSessionResume sessionId).args ↔
      mode = .resume ∧ session.sessionId = sessionId := by
  unfold ArgAssembler.withSession ArgAssembler.withSessionResume
  cases assembler.copilotMode with
  | true => cases mode <;> simp [ArgAssembler.extend]
  | false => cases mode <;> simp [ArgAssembler.extend]

theorem copilotMode_withSession (assembler : ArgAssembler) (session : SessionResolution) (mode : SessionMode) :
    (assembler.withSession session mode).copilotMode = assembler.copilotMode := by
  unfold ArgAssembler.withSession
  split
  · split <;> rfl
  · cases mode <;> rfl

theorem copilotMode_withSessionResume (assembler : ArgAssembler) (sessionId : String) :
    (assembler.withSessionResume sessionId).copilotMode = assembler.copilotMode := by
  unfold ArgAssembler.withSessionResume
  split <;> rfl

/-- What both restarts put behind the session. -/
def dress (settings : ClaudeSettingsManager) (shim : Option TeammateShim) (proxyPort : UInt16)
    (assembler : ArgAssembler) : ArgAssembler :=
  ((assembler.withSettings settings).withTeammateMode shim).withSubagentHooks proxyPort

/-- It depends on the mode only. -/
theorem dress_args (settings : ClaudeSettingsManager) (shim : Option TeammateShim) (proxyPort : UInt16)
    (assembler : ArgAssembler) :
    (dress settings shim proxyPort assembler).args =
      assembler.args ++ (dress settings shim proxyPort { copilotMode := assembler.copilotMode }).args := by
  obtain ⟨args, copilotMode⟩ := assembler
  simp only [dress, ArgAssembler.withSettings, ArgAssembler.withTeammateMode, ArgAssembler.withSubagentHooks,
    ArgAssembler.extend]
  cases copilotMode with
  | true => rfl
  | false => cases shim <;> simp

theorem dress_args_iff {settings : ClaudeSettingsManager} {shim : Option TeammateShim} {proxyPort : UInt16}
    {first second : ArgAssembler} (same : first.copilotMode = second.copilotMode) :
    (dress settings shim proxyPort first).args = (dress settings shim proxyPort second).args ↔
      first.args = second.args := by
  rw [dress_args _ _ _ first, dress_args _ _ _ second, same, List.append_cancel_right_eq]

theorem isCopilot_proxyEnvVar (cliMode : CliMode) :
    (cliMode.proxyEnvVar == "COPILOT_API_URL") = cliMode.isCopilot := by
  cases cliMode <;> rfl

/-- The arguments that both restarts begin with. -/
def restartAssembler (rawArgs : List String) (cliMode : CliMode) : ArgAssembler :=
  (ArgAssembler.fromPassthrough (classify rawArgs flagRegistry).args).withCopilotMode cliMode.isCopilot

theorem buildRestartParams_args (restart : Host) (rawArgs : List String) (cliMode : CliMode)
    (proxyUrl command sessionToken : String) (settings : ClaudeSettingsManager) (shim : Option TeammateShim)
    (extraEnv : List (String × String)) (extraArgs : List String) (proxyPort : UInt16) (isPassthrough : Bool)
    (wireApi : String) :
    let session := resolveSession restart (classify rawArgs flagRegistry).args
    (buildRestartParams restart rawArgs proxyUrl cliMode.proxyEnvVar command sessionToken settings shim extraEnv extraArgs
        (some proxyPort) isPassthrough wireApi).args =
      (dress settings shim proxyPort
        ((restartAssembler rawArgs cliMode).withSession session session.source.mode)).args ++ extraArgs := by
  simp only [buildRestartParams, isCopilot_proxyEnvVar]
  rfl

theorem restartClaude_args (restart : Host) (rawArgs : List String) (cliMode : CliMode)
    (proxyUrl command sessionToken : String) (settings : ClaudeSettingsManager) (shim : Option TeammateShim)
    (proxyPort : UInt16) (isPassthrough : Bool) (wireApi currentSessionId : String) :
    (restartClaude restart rawArgs cliMode proxyUrl command sessionToken settings shim proxyPort isPassthrough wireApi
        currentSessionId).args =
      (dress settings shim proxyPort ((restartAssembler rawArgs cliMode).withSessionResume currentSessionId)).args := rfl

/-- The restarts agree exactly when the arguments ask to resume a session: not where they give an
id to a new one, and not where the wrapper makes one up. -/
theorem restartsAgree_iff (start restart : Host) (rawArgs : List String) (cliMode : CliMode) :
    RestartsAgree start restart rawArgs cliMode ↔ AsksToResume start restart rawArgs := by
  rw [← resolveSession_resumes_iff]
  unfold RestartsAgree
  simp only [buildRestartParams_args, restartClaude_args, List.append_cancel_right_eq]
  have modes (session : SessionResolution) (sessionId : String) :
      ((restartAssembler rawArgs cliMode).withSession session session.source.mode).copilotMode =
        ((restartAssembler rawArgs cliMode).withSessionResume sessionId).copilotMode := by
    rw [copilotMode_withSession, copilotMode_withSessionResume]
  constructor
  · intro agree
    have args := agree "" "" "" "" .new .new none [] [] 0 true ""
    exact (withSession_args_iff _ _ _ _).mp ((dress_args_iff (modes _ _)).mp args)
  · intro resumes _ _ _ _ _ _ _ _ _ _ _ _
    exact (dress_args_iff (modes _ _)).mpr ((withSession_args_iff _ _ _ _).mpr resumes)

/-- A process started without a session flag is asked to start another session. -/
theorem plain_restarts_differ : ¬ ∀ start restart rawArgs cliMode, RestartsAgree start restart rawArgs cliMode := by
  intro agree
  have args := agree bareHost { bareHost with newV4 := "newer" } [] .claude "http://127.0.0.1:47190"
    "http://127.0.0.1:47190" "claude" "token" .new .new none [] [] 47190 false "anthropic"
  have session := congrArg (fun args => args.take 2) args
  revert session
  decide

end Anycode.Ui
