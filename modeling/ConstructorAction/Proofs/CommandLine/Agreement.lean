import ConstructorAction.CommandLine.Response
import ConstructorAction.Proofs.Action.Commit
import ConstructorAction.Proofs.Action.Offer
import ConstructorAction.Proofs.Settings.Loading
import ConstructorAction.Proofs.Wire.Spelling

namespace ConstructorAction.CommandLine

open ConstructorAction.Action ConstructorAction.Document ConstructorAction.Files
  ConstructorAction.Layout ConstructorAction.Settings ConstructorAction.Source
  ConstructorAction.Synthesis ConstructorAction.Wire

/-!
The two tasks that make a constructor, `preview` and `apply`, side by side. They prepare the same
request, and whatever `apply` is told about the layout has no part in it (`preview_apply_agree`).
-/

variable {around : Surroundings} {target : Target} {source : SettingsSource}
  {options : ApplyOptions} {settings : Settings} {workspace : Workspace} {formatter : Formatter}
  {request : ConstructorRequest} {outcome : Outcome} {text : String}

theorem launchable_settingsFor (chosen : settingsFor around target source = .ok settings) :
    Launchable settings := by
  have loaded := launchable_load (around.read (settingsPath target source))
  unfold settingsFor at chosen
  dsimp only at chosen
  split at chosen
  · obtain rfl := Except.ok.inj chosen
    exact loaded
  · split at chosen
    · cases chosen
    · obtain rfl := Except.ok.inj chosen
      exact loaded

theorem launchable_adjust (launchable : Launchable settings)
    (usable : ∀ line, options.formatter = some line → NotBlank line) :
    Launchable (options.adjust settings) := by
  intro line named
  rcases Option.or_eq_some_iff.mp named with given | ⟨-, loaded⟩
  · exact usable line given
  · exact launchable line loaded

theorem exists_formatterFor (launchable : Launchable settings) (around : Surroundings) :
    ∃ formatter, formatterFor around settings = .ok formatter := by
  obtain ⟨formatter, made⟩ := launchable.exists_formatter around.launch
  exact ⟨formatter, by rw [formatterFor, made]; rfl⟩

theorem failure_of_settingsFor {failure : Failure}
    (failed : settingsFor around target source = .error failure) :
    ∃ problem, failure = .refused (.settings problem) := by
  unfold settingsFor at failed
  dsimp only at failed
  split at failed
  · cases failed
  · split at failed
    · exact ⟨_, (Except.error.inj failed).symm⟩
    · cases failed

theorem failure_of_openTarget {failure : Failure}
    (failed : openTarget around target = .error failure) :
    (∃ reason, failure = .notRead target.file reason) ∨ failure = .notText target.file := by
  unfold openTarget at failed
  split at failed
  · exact .inl ⟨_, (Except.error.inj failed).symm⟩
  · split at failed
    · exact .inr (Except.error.inj failed).symm
    · cases failed

theorem ok_bind {α β : Type} (value : α) (next : α → Except Failure β) :
    (Except.ok value >>= next) = next value := rfl

theorem bind_eq_ok_iff {α β : Type} {step : Except Failure α} {next : α → Except Failure β}
    {result : β} :
    step >>= next = .ok result ↔ ∃ value, step = .ok value ∧ next value = .ok result := by
  cases step with
  | error failure => exact ⟨fun same => (by cases same), fun ⟨_, same, _⟩ => (by cases same)⟩
  | ok value => simp [ok_bind]

theorem toOption_eq_some_iff {ε α : Type} {step : Except ε α} {value : α} :
    step.toOption = some value ↔ step = .ok value := by
  cases step <;> simp [Except.toOption]

/-- The settings and the open source file, which both tasks work on. -/
structure Ready (around : Surroundings) (target : Target) (source : SettingsSource)
    (settings : Settings) (workspace : Workspace) : Prop where
  chosen : settingsFor around target source = .ok settings
  opened : openTarget around target = .ok workspace

/-- What the arguments of `apply` say has no part in the request. -/
theorem prepare_adjust (options : ApplyOptions) (settings : Settings) (workspace : Workspace)
    (target : Target) :
    prepare workspace (options.adjust settings) target.file target.cursor =
      prepare workspace settings target.file target.cursor := by
  unfold prepare
  rfl

theorem Ready.preview (ready : Ready around target source settings workspace) :
    previewConstructor around target source =
      match prepare workspace settings target.file target.cursor with
      | .error problem => .error (.ofAction target problem)
      | .ok request =>
          .ok (request, constructorText settings request.owningType request.members) := by
  obtain ⟨formatter, made⟩ := exists_formatterFor (launchable_settingsFor ready.chosen) around
  rewrite [previewConstructor, ready.chosen, ok_bind, made, ok_bind, ready.opened, ok_bind]
  cases prepare workspace settings target.file target.cursor <;> rfl

theorem Ready.apply (ready : Ready around target source settings workspace)
    (made : formatterFor around (options.adjust settings) = .ok formatter) :
    applyConstructor around target source options =
      match prepare workspace settings target.file target.cursor with
      | .error problem => .error (.ofAction target problem)
      | .ok request =>
          resultOf target (execute workspace (options.adjust settings) formatter request.toCommand)
      := by
  rewrite [applyConstructor, ready.chosen, ok_bind]
  dsimp only
  rewrite [made, ok_bind, ready.opened, ok_bind, prepare_adjust]
  cases prepare workspace settings target.file target.cursor <;> rfl

theorem exists_ready_of_apply {result : Outcome × String}
    (applied : applyConstructor around target source options = .ok result) :
    ∃ settings workspace formatter, Ready around target source settings workspace ∧
      formatterFor around (options.adjust settings) = .ok formatter := by
  obtain ⟨settings, chosen, applied⟩ := bind_eq_ok_iff.mp applied
  obtain ⟨formatter, made, applied⟩ := bind_eq_ok_iff.mp applied
  obtain ⟨workspace, opened, -⟩ := bind_eq_ok_iff.mp applied
  exact ⟨settings, workspace, formatter, ⟨chosen, opened⟩, made⟩

theorem ofCommand_toCommand_eq : ConstructorRequest.ofCommand request.toCommand =
    (decode (encode request)).mapError .malformed := by
  have known : ¬ request.toCommand.command ≠ commandName := fun differ => differ rfl
  rw [ConstructorRequest.ofCommand, if_neg known, ConstructorRequest.toCommand]

theorem eq_of_ofCommand_toCommand {other : ConstructorRequest}
    (read : ConstructorRequest.ofCommand request.toCommand = .ok other) : other = request := by
  rw [ofCommand_toCommand_eq] at read
  cases decoded : (decode (encode request) : Except DecodeError ConstructorRequest) with
  | error problem =>
      rw [decoded] at read
      cases read
  | ok back =>
      rw [decoded] at read
      obtain rfl := Except.ok.inj read
      exact eq_of_decode_encode decoded

/-- A command that can be carried out brings its request back. -/
theorem ofCommand_of_execute {after : Workspace}
    (executed : execute workspace settings formatter request.toCommand = (.ok outcome, after)) :
    ConstructorRequest.ofCommand request.toCommand = .ok request := by
  cases read : ConstructorRequest.ofCommand request.toCommand with
  | error problem =>
      rw [execute, read] at executed
      cases executed
  | ok other => rw [eq_of_ofCommand_toCommand read]

theorem execute_of_ofCommand (back : ConstructorRequest.ofCommand request.toCommand = .ok request)
    (workspace : Workspace) (settings : Settings) (formatter : Formatter) :
    execute workspace settings formatter request.toCommand =
      run workspace settings formatter request := by
  rw [execute, back]

theorem resultOf_eq_ok_iff {executed : Except ActionError Outcome × Workspace} :
    resultOf target executed = .ok (outcome, text) ↔ ∃ after buffer,
      executed = (.ok outcome, after) ∧ after.find? target.file = some buffer ∧
        text = buffer.text := by
  obtain ⟨problem | reached, after⟩ := executed
  · simp [resultOf]
  · cases found : after.find? target.file with
    | none => simp [resultOf, found]
    | some buffer => simp [resultOf, found, eq_comm]

theorem documentAfter_eq_some_iff {executed : Except ActionError Outcome × Workspace}
    {buffer : Buffer} : documentAfter target executed = some buffer ↔
      ∃ outcome after, executed = (.ok outcome, after) ∧ after.find? target.file = some buffer := by
  obtain ⟨problem | reached, after⟩ := executed <;> simp [documentAfter]

theorem document_of_prepare
    (prepared : prepare workspace settings target.file target.cursor = .ok request) :
    request.document = target.file := by
  obtain ⟨-, -, -, -, -, -, rfl⟩ := prepare_eq_ok_iff.mp prepared
  rfl

/-- Whether a command can be carried out does not depend on the layout. -/
theorem exists_result_of_execute {other : Settings} {otherFormatter : Formatter} {after : Workspace}
    (executed : execute workspace settings formatter request.toCommand = (.ok outcome, after))
    (sameText : constructorText other request.owningType request.members =
      constructorText settings request.owningType request.members)
    (here : request.document = target.file) :
    ∃ result,
      resultOf target (execute workspace other otherFormatter request.toCommand) = .ok result := by
  have back := ofCommand_of_execute executed
  rw [execute_of_ofCommand back] at executed ⊢
  have placed := run_isOk_iff.mp ⟨outcome, by rw [executed]⟩
  rw [← sameText] at placed
  obtain ⟨reached, succeeded⟩ : ∃ reached,
      (run workspace other otherFormatter request).1 = .ok reached := run_isOk_iff.mpr placed
  have ran : run workspace other otherFormatter request =
      (.ok reached, (run workspace other otherFormatter request).2) := Prod.ext succeeded rfl
  obtain ⟨-, -, _, _, _, final, -, -, -, -, -, rewrites⟩ := rewrites_of_run ran
  have opened := rewrites.opened
  rw [here] at opened
  exact ⟨_, resultOf_eq_ok_iff.mpr ⟨_, final, ran, opened, rfl⟩⟩

/-- The program that formats is only run where the insertion succeeds. -/
theorem exists_result_of_filesAfterFormatting {tree : Tree}
    (files : filesAfterFormatting around target source options = some tree) :
    ∃ result, applyConstructor around target source options = .ok result := by
  simp only [filesAfterFormatting, Option.bind_eq_bind, Option.bind_eq_some_iff,
    toOption_eq_some_iff] at files
  obtain ⟨settings, chosen, line, named, command, parsed, workspace, opened, request, prepared,
    files⟩ := files
  rw [Option.ite_none_right_eq_some] at files
  obtain ⟨buffer, inserted, -⟩ := Option.bind_eq_some_iff.mp files.2
  obtain ⟨outcome, after, executed, -⟩ := documentAfter_eq_some_iff.mp inserted
  have made : formatterFor around (options.adjust settings) =
      .ok (.external around.launch command) := by
    simp only [formatterFor, Formatter.ofSettings, named, parsed]
    rfl
  have ready : Ready around target source settings workspace := ⟨chosen, opened⟩
  rw [prepare_adjust] at prepared
  rw [ready.apply made, prepared]
  exact exists_result_of_execute executed rfl (document_of_prepare prepared)

def previewing (around : Surroundings) (target : Target) (source : SettingsSource) (json : Bool) :
    Response := respond around ⟨.preview target source, json⟩

def applying (around : Surroundings) (target : Target) (source : SettingsSource)
    (options : ApplyOptions) (json : Bool) : Response :=
  respond around ⟨.apply target source options, json⟩

def ApplyOptions.saving (options : ApplyOptions) : ApplyOptions := { options with dryRun := false }

def ApplyOptions.printing (options : ApplyOptions) : ApplyOptions := { options with dryRun := true }

@[simp] theorem applyConstructor_saving : applyConstructor around target source options.saving =
    applyConstructor around target source options := rfl

@[simp] theorem applyConstructor_printing :
    applyConstructor around target source options.printing =
      applyConstructor around target source options := rfl

@[simp] theorem code_applied (json : Bool) (outcome : Outcome) (text : Option String) :
    (Report.applied json outcome text).code = 0 := by
  cases json <;> rfl

theorem applying_of_ok
    (applied : applyConstructor around target source options = .ok (outcome, text)) (json : Bool) :
    applying around target source options json =
      { report := .applied json outcome (if options.dryRun then some text else none)
        saved := if options.dryRun then none else some (target.file, text)
        tree := filesAfterFormatting around target source options } := by
  simp only [applying, respond, applied]
  cases options.dryRun <;> rfl

theorem applying_of_error {failure : Failure}
    (failed : applyConstructor around target source options = .error failure) (json : Bool) :
    applying around target source options json = { report := .failure failure } := by
  have untouched : filesAfterFormatting around target source options = none := by
    refine Option.eq_none_iff_forall_ne_some.mpr fun tree files => ?_
    obtain ⟨result, applied⟩ := exists_result_of_filesAfterFormatting files
    rw [failed] at applied
    cases applied
  simp only [applying, respond, failed, untouched]

/-- The failures of a preparation. -/
def Failure.Unprepared (failure : Failure) (target : Target) : Prop :=
  failure = .nothingEncloses target ∨ ∃ typeName, failure = .refused (.noMembers typeName)

/-- How `preview` and `apply` stand to each other in the same surroundings. -/
structure Agreement (around : Surroundings) (target : Target) (source : SettingsSource)
    (options : ApplyOptions) : Prop where
  /-- What `apply` inserts is what `preview` shows, and at the line that it names. -/
  foretold (json : Bool)
    (succeeds : (applying around target source options json).report.code = 0) :
    ∃ outcome text request, applyConstructor around target source options = .ok (outcome, text) ∧
      (applying around target source options json).report =
        .applied json outcome (if options.dryRun then some text else none) ∧
      (∀ json, previewing around target source json =
        { report := .preview json request outcome.text }) ∧
      request.insertionPosition = outcome.insertedAt
  /-- Where `preview` cannot prepare a request `apply` cannot either. -/
  refused {failure : Failure} (fails : previewConstructor around target source = .error failure)
    (unprepared : failure.Unprepared target)
    (usable : ∀ line, options.formatter = some line → NotBlank line) (json : Bool) :
    previewing around target source json = { report := .failure failure } ∧
      applying around target source options json = { report := .failure failure }
  /-- What a dry run prints is what is written without it. -/
  printed (text : String) :
    (applying around target source options.saving false).saved = some (target.file, text) ↔
      (applying around target source options.printing false).report.code = 0 ∧
        (applying around target source options.printing false).report.stdout = text
  /-- If it can be written, this ends well. -/
  stored {text : String} {tree after : Tree}
    (saved : (applying around target source options.saving false).saved = some (target.file, text))
    (written : ((applying around target source options.saving false).tree.getD tree).write
      target.file (Text.toUtf8 text.toList) = .ok after) :
    ((applying around target source options.saving false).carryOut tree).1.code = 0 ∧
      ((applying around target source options.saving false).carryOut tree).2 = after
  /-- A failure leaves all files as they are, unless it is a failure to write. -/
  unchanged (json : Bool) {tree : Tree}
    (fails : ((applying around target source options json).carryOut tree).1.code = 1) :
    ((applying around target source options json).carryOut tree).2 = tree ∨
      ∃ text reason, (applying around target source options json).saved =
        some (target.file, text) ∧
        ((applying around target source options json).tree.getD tree).write target.file
          (Text.toUtf8 text.toList) = .error reason

theorem exists_outcome_of_code {json : Bool}
    (succeeds : (applying around target source options json).report.code = 0) :
    ∃ outcome text, applyConstructor around target source options = .ok (outcome, text) := by
  cases applied : applyConstructor around target source options with
  | ok result => exact ⟨result.1, result.2, rfl⟩
  | error failure =>
      rw [applying_of_error applied] at succeeds
      cases succeeds

/-- The request behind an outcome is the one that is shown. -/
theorem preview_of_apply
    (applied : applyConstructor around target source options = .ok (outcome, text)) :
    ∃ request, previewConstructor around target source = .ok (request, outcome.text) ∧
      request.insertionPosition = outcome.insertedAt := by
  obtain ⟨settings, workspace, formatter, ready, made⟩ := exists_ready_of_apply applied
  rw [ready.apply made] at applied
  rw [ready.preview]
  cases prepared : prepare workspace settings target.file target.cursor with
  | error problem =>
      rw [prepared] at applied
      cases applied
  | ok request =>
      rw [prepared] at applied
      obtain ⟨after, buffer, executed, -, -⟩ := resultOf_eq_ok_iff.mp applied
      rw [execute_of_ofCommand (ofCommand_of_execute executed)] at executed
      obtain ⟨-, reported, -⟩ := rewrites_of_run executed
      rw [reported]
      exact ⟨request, rfl, rfl⟩

/-- A preparation that fails does so for both tasks. -/
theorem apply_of_unprepared {failure : Failure}
    (fails : previewConstructor around target source = .error failure)
    (unprepared : failure.Unprepared target)
    (usable : ∀ line, options.formatter = some line → NotBlank line) :
    applyConstructor around target source options = .error failure := by
  -- What fails before the preparation fails in another way.
  cases chosen : settingsFor around target source with
  | error other =>
      have same : previewConstructor around target source = .error other := by
        rw [previewConstructor, chosen]
        rfl
      obtain rfl := Except.error.inj (same.symm.trans fails)
      obtain ⟨problem, rfl⟩ := failure_of_settingsFor chosen
      simp [Failure.Unprepared] at unprepared
  | ok settings =>
      have launchable := launchable_settingsFor chosen
      obtain ⟨formatter, made⟩ := exists_formatterFor (launchable_adjust launchable usable) around
      cases opened : openTarget around target with
      | error other =>
          obtain ⟨shown, madeShown⟩ := exists_formatterFor launchable around
          have same : previewConstructor around target source = .error other := by
            rw [previewConstructor, chosen, ok_bind, madeShown, ok_bind, opened]
            rfl
          obtain rfl := Except.error.inj (same.symm.trans fails)
          rcases failure_of_openTarget opened with ⟨reason, rfl⟩ | rfl <;>
            simp [Failure.Unprepared] at unprepared
      | ok workspace =>
          have ready : Ready around target source settings workspace := ⟨chosen, opened⟩
          rw [ready.preview] at fails
          rw [ready.apply made]
          cases prepared : prepare workspace settings target.file target.cursor with
          | error problem =>
              rw [prepared] at fails
              exact congrArg Except.error (Except.error.inj fails)
          | ok request =>
              rw [prepared] at fails
              cases fails

theorem preview_apply_agree (around : Surroundings) (target : Target) (source : SettingsSource)
    (options : ApplyOptions) : Agreement around target source options where
  foretold json succeeds := by
    obtain ⟨outcome, text, applied⟩ := exists_outcome_of_code succeeds
    obtain ⟨request, shown, line⟩ := preview_of_apply applied
    refine ⟨outcome, text, request, applied, by rw [applying_of_ok applied], fun json => ?_, line⟩
    simp only [previewing, respond, shown]
  refused fails unprepared usable json := by
    refine ⟨?_, applying_of_error (apply_of_unprepared fails unprepared usable) json⟩
    simp only [previewing, respond, fails]
  printed text := by
    cases applied : applyConstructor around target source options with
    | error failure =>
        rw [applying_of_error (by simpa using applied), applying_of_error (by simpa using applied)]
        simp [Report.failure]
    | ok result =>
        rw [applying_of_ok (by simpa using applied), applying_of_ok (by simpa using applied)]
        simp [ApplyOptions.saving, ApplyOptions.printing, Report.applied]
  stored saved written := by
    simp only [Response.carryOut, saved, written, and_true]
    cases applied : applyConstructor around target source options with
    | error failure =>
        rw [applying_of_error (by simpa using applied)] at saved
        cases saved
    | ok result =>
        rw [applying_of_ok (by simpa using applied)]
        exact code_applied ..
  unchanged json tree fails := by
    cases applied : applyConstructor around target source options with
    | error failure =>
        rw [applying_of_error applied]
        exact .inl rfl
    | ok result =>
        rw [applying_of_ok applied] at fails ⊢
        cases dry : options.dryRun with
        | true => simp [Response.carryOut, dry] at fails
        | false =>
            simp only [Response.carryOut, dry, Bool.false_eq_true, if_false] at fails ⊢
            split at fails
            · next reason refused => exact .inr ⟨_, reason, rfl, refused⟩
            · next after written => simp at fails

/-- On the third line there is a constructor to be made, and on the first there is none. -/
theorem preview_apply_agree_of_one_member :
    let bytes := Text.toUtf8 "\nclass A\n\x7b\n    int _x;\n\x7d\n".toList
    let around : Surroundings :=
      { read := fun path => if path = "a.cs" then .ok bytes else .error .notFound
        launch := fun _ _ _ => .error .nulCharacter }
    let source : SettingsSource := { root := some "." }
    let options : ApplyOptions := { formatter := some "layout -" }
    (∃ outcome request, (previewing around ⟨"a.cs", 3⟩ source true).report =
        .preview true request outcome.text ∧
      (applying around ⟨"a.cs", 3⟩ source options true).report = .applied true outcome none ∧
      request.insertionPosition = outcome.insertedAt) ∧
    (∃ text, (applying around ⟨"a.cs", 3⟩ source options.printing false).report.stdout = text ∧
      (applying around ⟨"a.cs", 3⟩ source options.saving false).saved = some ("a.cs", text)) ∧
    ∀ tree, (applying around ⟨"a.cs", 1⟩ source options false).carryOut tree =
      (.failure (.nothingEncloses ⟨"a.cs", 1⟩), tree) := by
  intro bytes around source options
  let buffer : Buffer := { id := "a.cs", text := "\nclass A\n\x7b\n    int _x;\n\x7d\n" }
  let workspace : Workspace := ⟨[buffer]⟩
  let owner : TypeDeclaration := ⟨"A", 1, 5⟩
  let request : ConstructorRequest := ⟨"a.cs", owner, [⟨owner, "int", "_x", 3, .field⟩], ⟨3, 0⟩⟩
  have ready (line : Nat) : Ready around ⟨"a.cs", line⟩ source {} workspace := by
    refine ⟨?_, ?_⟩
    · have elsewhere : pathIn "." fileName ≠ "a.cs" := by decide
      have absent : around.read (settingsPath ⟨"a.cs", line⟩ source) = .error .notFound :=
        if_neg elsewhere
      rw [settingsFor, absent]
      rfl
    · have read : around.read "a.cs" = .ok bytes := by simp [around]
      have decoded : Text.ofUtf8? bytes = some buffer.text.toList := by decide +kernel
      simp only [openTarget, read, decoded, String.ofList_toList]
      rfl
  have usable : ∀ line, options.formatter = some line → NotBlank line := by
    rintro line ⟨⟩
    exact ⟨'l', by decide, by decide⟩
  have opened : buffer? workspace "a.cs" = some buffer := by decide +kernel
  have enclosing : enclosingType? buffer.lines 2 = some owner := by decide +kernel
  have declared : members buffer.lines owner = request.members := by decide +kernel
  have prepared : prepare workspace {} "a.cs" ⟨2, 0⟩ = .ok request :=
    prepare_of_ordered opened enclosing declared (List.pairwise_singleton _ _) rfl
  have lonely : enclosingType? buffer.lines 0 = none := by decide +kernel
  have unprepared : prepare workspace {} "a.cs" ⟨0, 0⟩ = .error (.noEnclosingType 0) := by
    simp only [prepare, opened, lonely]
  have launchable : Launchable (options.adjust {}) := launchable_adjust launchable_default usable
  obtain ⟨formatter, made⟩ := exists_formatterFor launchable around
  obtain ⟨reached, inserted⟩ : ∃ reached, (run workspace {} formatter request).1 = .ok reached :=
    run_isOk_iff.mpr ⟨by decide, (place_eq_ok_iff opened).mpr (by decide +kernel)⟩
  have executed : execute workspace {} formatter request.toCommand =
      (.ok reached, (run workspace {} formatter request).2) := by
    rw [execute_toCommand (fits_of_numbers (by decide))]
    exact Prod.ext inserted rfl
  obtain ⟨⟨outcome, text⟩, applied⟩ :
      ∃ result, applyConstructor around ⟨"a.cs", 3⟩ source options = .ok result := by
    have here : prepare workspace {} "a.cs" (Target.cursor ⟨"a.cs", 3⟩) = .ok request := prepared
    rw [(ready 3).apply made, here]
    exact exists_result_of_execute executed rfl rfl
  have agree := preview_apply_agree around ⟨"a.cs", 3⟩ source options
  refine ⟨?_, ?_, fun tree => ?_⟩
  · obtain ⟨outcome, _, request, -, reported, shown, line⟩ :=
      agree.foretold true (by rw [applying_of_ok applied]; exact code_applied ..)
    exact ⟨outcome, request, by rw [shown true], reported, line⟩
  · have saved : (applying around ⟨"a.cs", 3⟩ source options.saving false).saved =
        some ("a.cs", text) := by
      rw [applying_of_ok (by simpa using applied)]
      rfl
    exact ⟨text, ((agree.printed text).mp saved).2, saved⟩
  · have here : prepare workspace {} "a.cs" (Target.cursor ⟨"a.cs", 1⟩) =
        .error (.noEnclosingType 0) := unprepared
    have fails : previewConstructor around ⟨"a.cs", 1⟩ source =
        .error (.nothingEncloses ⟨"a.cs", 1⟩) := by
      rw [(ready 1).preview, here]
      rfl
    have failing := preview_apply_agree around ⟨"a.cs", 1⟩ source options
    rw [(failing.refused fails (.inl rfl) usable false).2]
    rfl

end ConstructorAction.CommandLine
