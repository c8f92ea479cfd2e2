import ConstructorAction.Proofs.Action.Commit

namespace ConstructorAction.Action

open ConstructorAction.Document ConstructorAction.Layout ConstructorAction.Settings

/-!
Sessions: one operation after another on one host. An operation reaches the documents through the
host alone, so that it does the same on two hosts that answer alike (`Erases`), and keeps what the
host keeps by itself. One that fails changes no document, and none changes a document that it does
not name.
-/

/-- A host that also opens documents. -/
class Opens (σ : Type) extends Host σ where
  «open» : σ → DocumentId → String → σ

instance : Opens Guarded where
  «open» := Guarded.open

inductive Operation where
  | «open» (document : DocumentId) (text : String)
  | edit (document : DocumentId) (edits : List TextEdit)
  | place (document : DocumentId) (position : Position) (text : String)
  | reformat (formatter : Formatter) (document : DocumentId)
  | prepare (settings : Settings) (document : DocumentId) (cursor : Position)
  | offer (settings : Settings) (document : DocumentId) (cursor : Position)
  | execute (settings : Settings) (formatter : Formatter) (command : Command)
  | run (settings : Settings) (formatter : Formatter) (request : ConstructorRequest)

/-- The document of the request that a command carries, if it carries one. -/
def Command.document? (command : Command) : Option DocumentId :=
  match ConstructorRequest.ofCommand command with
  | .error _ => none
  | .ok request => some request.document

def Operation.document? : Operation → Option DocumentId
  | .open document _ | .edit document _ | .place document _ _ | .reformat _ document
  | .prepare _ document _ | .offer _ document _ => some document
  | .execute _ _ command => command.document?
  | .run _ _ request => some request.document

inductive Answer where
  | opened
  | edited (result : Except ActionError Unit)
  | reformatted (outcome : ReformatOutcome)
  | prepared (result : Except ActionError ConstructorRequest)
  | offered (commands : List Command)
  | ran (result : Except ActionError Outcome)

def Answer.IsError : Answer → Prop
  | .edited (.error _) | .reformatted (.failed _) | .prepared (.error _) | .ran (.error _) => True
  | _ => False

@[simp] theorem Answer.isError_edited {result : Except ActionError Unit} :
    (Answer.edited result).IsError ↔ ∃ problem, result = .error problem := by
  cases result <;> simp [IsError]

@[simp] theorem Answer.isError_reformatted {outcome : ReformatOutcome} :
    (Answer.reformatted outcome).IsError ↔ ∃ reason, outcome = .failed reason := by
  cases outcome <;> simp [IsError]

@[simp] theorem Answer.isError_ran {result : Except ActionError Outcome} :
    (Answer.ran result).IsError ↔ ∃ problem, result = .error problem := by
  cases result <;> simp [IsError]

variable {σ τ : Type}

def perform [Opens σ] (host : σ) : Operation → Answer × σ
  | .open document text => (.opened, Opens.open host document text)
  | .edit document edits => (applyEdits host document edits).map .edited id
  | .place document position text => (place host document position text).map .edited id
  | .reformat formatter document => (reformat host formatter document).map .reformatted id
  | .prepare settings document cursor => (.prepared (prepare host settings document cursor), host)
  | .offer settings document cursor => (.offered (offer host settings document cursor), host)
  | .execute settings formatter command => (execute host settings formatter command).map .ran id
  | .run settings formatter request => (run host settings formatter request).map .ran id

/-- The answers to some operations, and the host after them. -/
def performAll [Opens σ] (host : σ) : List Operation → List Answer × σ
  | [] => ([], host)
  | operation :: later =>
      let (answer, next) := perform host operation
      let (answers, last) := performAll next later
      (answer :: answers, last)

/-- Forgetting some of what a host holds makes no difference to its answers. -/
structure Erases [Opens σ] [Opens τ] (f : σ → τ) : Prop where
  reads (host : σ) (document : DocumentId) : buffer? (f host) document = buffer? host document
  edits (host : σ) (document : DocumentId) (edits : List TextEdit) :
    applyEdits (f host) document edits = (applyEdits host document edits).map id f
  opens (host : σ) (document : DocumentId) (text : String) :
    Opens.open (f host) document text = f (Opens.open host document text)

namespace Erases

variable [Opens σ] [Opens τ] {f : σ → τ} {host : σ} {settings : Settings} {formatter : Formatter}

theorem reformat (erases : Erases f) (document : DocumentId) :
    reformat (f host) formatter document = (reformat host formatter document).map id f := by
  unfold Action.reformat
  rw [erases.reads]
  cases buffer? host document with
  | none => rfl
  | some buffer =>
      dsimp only
      cases formatter.edits buffer with
      | error problem => rfl
      | ok edits =>
          cases edits with
          | nil => rfl
          | cons edit later =>
              dsimp only
              rw [erases.edits]
              obtain ⟨result, after⟩ := applyEdits host document (edit :: later)
              cases result <;> rfl

theorem run (erases : Erases f) (request : ConstructorRequest) :
    run (f host) settings formatter request = (run host settings formatter request).map id f := by
  by_cases none : request.members = []
  · rw [run_of_no_members none, run_of_no_members none]
    rfl
  · have placed : commit (f host) settings request = (commit host settings request).map id f :=
      erases.edits host _ _
    rw [run_of_members none, run_of_members none, placed]
    obtain ⟨result, after⟩ := commit host settings request
    cases result with
    | error problem => rfl
    | ok done =>
        have laidOut : layOut (f after) settings formatter request.document =
            (layOut after settings formatter request.document).map id f := by
          unfold layOut
          split
          · exact erases.reformat request.document
          · rfl
        dsimp only [Prod.map, id]
        rw [laidOut]
        rfl

theorem execute (erases : Erases f) (command : Command) :
    execute (f host) settings formatter command =
      (execute host settings formatter command).map id f := by
  unfold Action.execute
  cases ConstructorRequest.ofCommand command with
  | error problem => rfl
  | ok request => exact erases.run request

theorem prepare (erases : Erases f) (document : DocumentId) (cursor : Position) :
    prepare (f host) settings document cursor = prepare host settings document cursor := by
  unfold Action.prepare
  rw [erases.reads]

theorem perform (erases : Erases f) (operation : Operation) :
    perform (f host) operation = (perform host operation).map id f := by
  cases operation with
  | «open» document text => exact congrArg (Prod.mk _) (erases.opens host document text)
  | edit document edits =>
      exact congrArg (Prod.map Answer.edited id) (erases.edits host document edits)
  | place document position text =>
      exact congrArg (Prod.map Answer.edited id) (erases.edits host document _)
  | reformat formatter document =>
      exact congrArg (Prod.map Answer.reformatted id) (erases.reformat document)
  | prepare settings document cursor =>
      exact congrArg (fun result => (Answer.prepared result, f host))
        (erases.prepare document cursor)
  | offer settings document cursor =>
      have same : Action.offer (f host) settings document cursor =
          Action.offer host settings document cursor := by
        unfold Action.offer
        rw [erases.prepare]
      exact congrArg (fun commands => (Answer.offered commands, f host)) same
  | execute settings formatter command =>
      exact congrArg (Prod.map Answer.ran id) (erases.execute command)
  | run settings formatter request => exact congrArg (Prod.map Answer.ran id) (erases.run request)

theorem performAll (erases : Erases f) (host : σ) (operations : List Operation) :
    performAll (f host) operations = (performAll host operations).map id f := by
  induction operations generalizing host with
  | nil => rfl
  | cons operation later ih =>
      rw [Action.performAll, Action.performAll, erases.perform]
      dsimp only [Prod.map, id]
      rw [ih]
      rfl

end Erases

/-- What opening and editing keep is kept by every operation: the hosts with the property are hosts
themselves, and forgetting the property erases. -/
theorem performAll_keeps [Opens σ] {host : σ} (Keeps : σ → Prop)
    (opens : ∀ host id text, Keeps host → Keeps (Opens.open host id text))
    (edits : ∀ host id edits, Keeps host → Keeps (applyEdits host id edits).2)
    (kept : Keeps host) (operations : List Operation) :
    Keeps (performAll host operations).2 := by
  let _ : Opens { host : σ // Keeps host } :=
    { buffer? := fun host => buffer? host.val
      applyEdits := fun host id batch =>
        ((applyEdits host.val id batch).1, ⟨_, edits host.val id batch host.property⟩)
      «open» := fun host id text => ⟨_, opens host.val id text host.property⟩ }
  have erases : Erases (Subtype.val : { host : σ // Keeps host } → σ) :=
    ⟨fun _ _ => rfl, fun _ _ _ => rfl, fun _ _ _ => rfl⟩
  have same := erases.performAll ⟨host, kept⟩ operations
  rw [same]
  exact (performAll (⟨host, kept⟩ : { host : σ // Keeps host }) operations).2.property

section Unchanged

variable [Host σ] {host after : σ} {settings : Settings} {formatter : Formatter}
  {document id : DocumentId}

theorem Rewrites.other {buffer : Buffer} (rewrites : Rewrites host document buffer after)
    (other : id ≠ document) : buffer? after id = buffer? host id := by
  rw [rewrites id, if_neg other]

theorem reformat_of_closed (closed : buffer? host document = none) :
    (reformat host formatter document).2 = host := by
  rw [reformat, closed]

variable [LawfulHost σ]

theorem applyEdits_other {edits : List TextEdit} (other : id ≠ document) :
    buffer? (applyEdits host document edits).2 id = buffer? host id := by
  cases result : (applyEdits host document edits).1 with
  | error reason => exact LawfulHost.buffer?_of_error result id
  | ok done =>
      obtain ⟨_, _, _, _, rewrites⟩ := LawfulHost.buffer?_of_ok result
      rw [rewrites, if_neg other]

theorem reformat_other (other : id ≠ document) :
    buffer? (reformat host formatter document).2 id = buffer? host id := by
  cases opened : buffer? host document with
  | none => rw [reformat_of_closed opened]
  | some buffer =>
      obtain ⟨_, -, rewrites⟩ := reformat_rewrites opened formatter
      exact rewrites.other other

theorem reformat_failed {reason : String}
    (failed : (reformat host formatter document).1 = .failed reason) (id : DocumentId) :
    buffer? (reformat host formatter document).2 id = buffer? host id := by
  cases opened : buffer? host document with
  | none => rw [reformat_of_closed opened]
  | some buffer =>
      obtain ⟨final, laidOut, rewrites⟩ := reformat_rewrites opened formatter
      rw [failed] at laidOut
      obtain rfl : final = buffer := laidOut
      by_cases other : id = document
      · rw [other, rewrites.opened, opened]
      · exact rewrites.other other

variable {request : ConstructorRequest} {problem : ActionError}

theorem run_failed (failed : (run host settings formatter request).1 = .error problem)
    (id : DocumentId) :
    buffer? (run host settings formatter request).2 id = buffer? host id := by
  have ran : run host settings formatter request =
      (.error problem, (run host settings formatter request).2) := Prod.ext failed rfl
  rcases run_eq_error_iff.mp ran with ⟨-, -, same⟩ | ⟨-, refused⟩
  · exact congrArg (buffer? · id) same
  · have unchanged := commit_unchanged (congrArg Prod.fst refused) id
    rwa [refused] at unchanged

theorem run_other (other : id ≠ request.document) :
    buffer? (run host settings formatter request).2 id = buffer? host id := by
  cases result : (run host settings formatter request).1 with
  | error problem => exact run_failed result id
  | ok outcome =>
      obtain ⟨-, -, _, _, _, _, -, -, -, -, -, rewrites⟩ := rewrites_of_run (Prod.ext result rfl)
      exact rewrites.other other

theorem execute_failed {command : Command}
    (failed : (execute host settings formatter command).1 = .error problem) (id : DocumentId) :
    buffer? (execute host settings formatter command).2 id = buffer? host id := by
  unfold execute at failed ⊢
  split at failed
  · rfl
  · exact run_failed failed id

theorem execute_other {command : Command} (other : command.document? ≠ some id) :
    buffer? (execute host settings formatter command).2 id = buffer? host id := by
  unfold execute
  unfold Command.document? at other
  cases carried : ConstructorRequest.ofCommand command with
  | error problem => rfl
  | ok request =>
      rw [carried] at other
      exact run_other fun same => other (congrArg some same.symm)

end Unchanged

theorem buffer?_open (host : Guarded) (document : DocumentId) (text : String) (id : DocumentId) :
    buffer? (host.open document text) id =
      if id = document then some { id := document, text } else buffer? host id :=
  host.workspace.find?_put { id := document, text } id

theorem perform_failed {host : Guarded} {operation : Operation}
    (failed : (perform host operation).1.IsError) (id : DocumentId) :
    buffer? (perform host operation).2 id = buffer? host id := by
  cases operation with
  | «open» document text => exact failed.elim
  | edit document edits =>
      obtain ⟨problem, refused⟩ := Answer.isError_edited.mp failed
      exact LawfulHost.buffer?_of_error refused id
  | place document position text =>
      obtain ⟨problem, refused⟩ := Answer.isError_edited.mp failed
      exact LawfulHost.buffer?_of_error refused id
  | reformat formatter document =>
      obtain ⟨reason, refused⟩ := Answer.isError_reformatted.mp failed
      exact reformat_failed refused id
  | prepare settings document cursor => rfl
  | offer settings document cursor => rfl
  | execute settings formatter command =>
      obtain ⟨problem, refused⟩ := Answer.isError_ran.mp failed
      exact execute_failed refused id
  | run settings formatter request =>
      obtain ⟨problem, refused⟩ := Answer.isError_ran.mp failed
      exact run_failed refused id

theorem perform_other {host : Guarded} {operation : Operation} {id : DocumentId}
    (other : operation.document? ≠ some id) :
    buffer? (perform host operation).2 id = buffer? host id := by
  have apart {document : DocumentId} (named : operation.document? = some document) :
      id ≠ document := by
    rintro rfl
    exact other named
  cases operation with
  | «open» document text => exact (buffer?_open host document text id).trans (if_neg (apart rfl))
  | edit document edits => exact applyEdits_other (σ := Guarded) (apart rfl)
  | place document position text => exact applyEdits_other (σ := Guarded) (apart rfl)
  | reformat formatter document => exact reformat_other (apart rfl)
  | prepare settings document cursor => rfl
  | offer settings document cursor => rfl
  | execute settings formatter command => exact execute_other other
  | run settings formatter request => exact run_other (apart rfl)

end ConstructorAction.Action
