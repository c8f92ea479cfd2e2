import ConstructorAction.Proofs.Action.Command
import ConstructorAction.Proofs.Document.Batch
import ConstructorAction.Proofs.Synthesis.Lines

namespace ConstructorAction.Action

open ConstructorAction.Document ConstructorAction.Layout ConstructorAction.Settings
  ConstructorAction.Source ConstructorAction.Synthesis ConstructorAction.Text

/-!
A run takes two steps: it inserts the constructor, and it lays the document out anew. The insertion
is the point of commit (`run_commits`): before it nothing has changed and no formatter was asked,
and after it the run succeeds, whatever becomes of the layout.
-/

variable {σ : Type} [Host σ] {host after : σ} {settings : Settings} {formatter : Formatter}
  {request : ConstructorRequest} {document : DocumentId}

/-- One document holds another buffer, and all others are as they were. -/
def Rewrites (host : σ) (document : DocumentId) (buffer : Buffer) (after : σ) : Prop :=
  ∀ id, buffer? after id = if id = document then some buffer else buffer? host id

theorem Rewrites.opened {buffer : Buffer} (rewrites : Rewrites host document buffer after) :
    buffer? after document = some buffer := by
  rw [rewrites document, if_pos rfl]

theorem Rewrites.trans {buffer final : Buffer} {last : σ}
    (first : Rewrites host document buffer after) (second : Rewrites after document final last) :
    Rewrites host document final last := by
  intro id
  rw [second id, first id]
  split <;> rfl

theorem Rewrites.of_unchanged {buffer : Buffer} (opened : buffer? host document = some buffer)
    (unchanged : ∀ id, buffer? after id = buffer? host id) :
    Rewrites host document buffer after := by
  intro id
  split
  · next same => rw [unchanged, same, opened]
  · exact unchanged id

/-- What a request puts into its document. -/
def insertion (settings : Settings) (request : ConstructorRequest) : List Char :=
  (constructorText settings request.owningType request.members).toList ++ ['\n']

/-- A buffer before and after the constructor of a request is put in. -/
def Inserted (settings : Settings) (request : ConstructorRequest) (before after : Buffer) : Prop :=
  ∃ offset, offset? before.text.toList request.insertionPosition = some offset ∧
    after = { before with
      text := String.ofList (before.text.toList.take offset ++ insertion settings request ++
        before.text.toList.drop offset)
      version := before.version + 1 }

/-- The first step of a run. -/
def commit (host : σ) (settings : Settings) (request : ConstructorRequest) :
    Except ActionError Unit × σ :=
  place host request.document request.insertionPosition
    (constructorText settings request.owningType request.members)

theorem toList_insertedText (settings : Settings) (request : ConstructorRequest) :
    (insertedText (constructorText settings request.owningType request.members)).toList =
      insertion settings request := by
  have unterminated : (constructorText settings request.owningType
      request.members).toList.getLast? ≠ some '\n' := by
    rw [getLast?_constructorText]
    decide
  rw [insertedText, if_neg unterminated, String.toList_append]
  rfl

theorem commit_unchanged [LawfulHost σ] {problem : ActionError}
    (refused : (commit host settings request).1 = .error problem) (id : DocumentId) :
    buffer? (commit host settings request).2 id = buffer? host id :=
  LawfulHost.buffer?_of_error refused id

theorem commit_rewrites [LawfulHost σ] (placed : (commit host settings request).1 = .ok ()) :
    ∃ before next, buffer? host request.document = some before ∧
      Inserted settings request before next ∧
      Rewrites host request.document next (commit host settings request).2 := by
  obtain ⟨before, next, opened, landed, rewrites⟩ := LawfulHost.buffer?_of_ok placed
  obtain ⟨text, accepted, rfl⟩ := Buffer.apply_ok_iff.mp landed
  obtain ⟨offset, found, rfl⟩ := editText_insertion_eq_ok_iff.mp accepted
  rw [toList_insertedText] at rewrites
  exact ⟨before, _, opened, ⟨offset, found, rfl⟩, rewrites⟩

/-- The second step of a run. -/
def layOut (host : σ) (settings : Settings) (formatter : Formatter) (document : DocumentId) :
    ReformatOutcome × σ :=
  if settings.reformatAfterChange then reformat host formatter document else (.disabled, host)

/-- A buffer before and after it is laid out anew, by the outcome. -/
def LaidOut (formatter : Formatter) (before after : Buffer) : ReformatOutcome → Prop
  | .disabled | .unchanged | .failed _ => after = before
  | .applied count => 0 < count ∧ ∃ edits, formatter.edits before = .ok edits ∧
      edits.length = count ∧ before.apply edits = .ok after

theorem reformat_rewrites [LawfulHost σ] {buffer : Buffer}
    (opened : buffer? host document = some buffer) (formatter : Formatter) :
    ∃ final, LaidOut formatter buffer final (reformat host formatter document).1 ∧
      Rewrites host document final (reformat host formatter document).2 := by
  have stays : Rewrites host document buffer host := .of_unchanged opened fun _ => rfl
  unfold reformat
  simp only [opened]
  split
  · exact ⟨buffer, rfl, stays⟩
  · exact ⟨buffer, rfl, stays⟩
  · next edits present proposed =>
      split
      · next next applied =>
          have accepted : (applyEdits host document edits).1 = .ok () := by rw [applied]
          obtain ⟨before, final, sameOpened, landed, rewrites⟩ :=
            LawfulHost.buffer?_of_ok accepted
          obtain rfl := Option.some.inj (opened.symm.trans sameOpened)
          rw [applied] at rewrites
          refine ⟨final, ⟨?_, edits, proposed, rfl, landed⟩, rewrites⟩
          exact List.length_pos_iff.mpr fun empty => present empty
      · next problem next refused =>
          have failed : (applyEdits host document edits).1 = .error problem := by rw [refused]
          have unchanged := LawfulHost.buffer?_of_error failed
          rw [refused] at unchanged
          exact ⟨buffer, rfl, .of_unchanged opened unchanged⟩

theorem layOut_rewrites [LawfulHost σ] {buffer : Buffer}
    (opened : buffer? host document = some buffer) (settings : Settings) (formatter : Formatter) :
    ∃ final, LaidOut formatter buffer final (layOut host settings formatter document).1 ∧
      Rewrites host document final (layOut host settings formatter document).2 := by
  unfold layOut
  split
  · exact reformat_rewrites opened formatter
  · exact ⟨buffer, rfl, .of_unchanged opened fun _ => rfl⟩

/-- A formatter is only asked about the buffer that it is to lay out. -/
theorem reformat_congr {buffer : Buffer} {other : Formatter}
    (opened : buffer? host document = some buffer)
    (same : formatter.edits buffer = other.edits buffer) :
    reformat host formatter document = reformat host other document := by
  simp only [reformat, opened, same]

/-- What a run that inserts a constructor reports. -/
def report (settings : Settings) (request : ConstructorRequest) (reformat : ReformatOutcome) :
    Outcome where
  typeName := request.owningType.typeName
  insertedAt := request.insertionPosition
  text := constructorText settings request.owningType request.members
  members := request.members.length
  stage := reformat.stage
  reformat

theorem run_of_no_members (none : request.members = []) (formatter : Formatter) :
    run host settings formatter request =
      (.error (.noMembers request.owningType.typeName), host) := by
  rw [run, if_pos (List.isEmpty_iff.mpr none)]

theorem run_of_members (present : request.members ≠ []) (formatter : Formatter) :
    run host settings formatter request = match commit host settings request with
      | (.error problem, after) => (.error problem, after)
      | (.ok (), after) =>
          let laidOut := layOut after settings formatter request.document
          (.ok (report settings request laidOut.1), laidOut.2) := by
  rw [run, if_neg (by simpa using present)]
  dsimp only [commit, layOut]
  cases place host request.document request.insertionPosition
      (constructorText settings request.owningType request.members) with
  | mk result after => cases result <;> rfl

/-- A run that fails does so before the document is laid out. -/
theorem run_eq_error_iff {problem : ActionError} :
    run host settings formatter request = (.error problem, after) ↔
      request.members = [] ∧ problem = .noMembers request.owningType.typeName ∧ after = host ∨
      request.members ≠ [] ∧ commit host settings request = (.error problem, after) := by
  by_cases none : request.members = []
  · rw [run_of_no_members none]
    simp only [none, true_and, ne_eq, not_true_eq_false, false_and, or_false, Prod.mk.injEq,
      Except.error.injEq]
    exact and_congr eq_comm eq_comm
  · rw [run_of_members none]
    simp only [none, false_and, false_or, ne_eq, not_false_eq_true, true_and]
    split
    · next refused => simp [refused]
    · next placed => simp [placed]

theorem run_eq_ok_iff {outcome : Outcome} :
    run host settings formatter request = (.ok outcome, after) ↔
      request.members ≠ [] ∧ ∃ middle, commit host settings request = (.ok (), middle) ∧
        outcome = report settings request (layOut middle settings formatter request.document).1 ∧
        after = (layOut middle settings formatter request.document).2 := by
  by_cases none : request.members = []
  · rw [run_of_no_members none]
    simp [none]
  · rw [run_of_members none]
    simp only [ne_eq, none, not_false_eq_true, true_and]
    split
    · next refused => simp [refused]
    · next middle placed =>
        simp only [placed, Prod.mk.injEq, Except.ok.injEq, true_and, exists_eq_left']
        exact and_congr eq_comm eq_comm

/-- Whether the result of a run hangs on what the formatter says about a buffer. -/
def Asks (host : σ) (settings : Settings) (request : ConstructorRequest) (buffer : Buffer) : Prop :=
  ∃ one other : Formatter,
    (∀ elsewhere, elsewhere ≠ buffer → one.edits elsewhere = other.edits elsewhere) ∧
      (run host settings one request).1 ≠ (run host settings other request).1

def satisfied : Formatter := ⟨"satisfied", fun _ => .ok []⟩

def failing (buffer : Buffer) : Formatter where
  name := "failing"
  edits other := if other = buffer then .error (.formatter (.reported "")) else .ok []

theorem asks_iff {buffer : Buffer} : Asks host settings request buffer ↔
    settings.reformatAfterChange = true ∧ request.members ≠ [] ∧
      ∃ middle, commit host settings request = (.ok (), middle) ∧
        buffer? middle request.document = some buffer := by
  constructor
  · rintro ⟨one, other, agree, differ⟩
    by_cases none : request.members = []
    · rw [run_of_no_members none, run_of_no_members none] at differ
      exact absurd rfl differ
    rw [run_of_members none, run_of_members none] at differ
    split at differ
    · exact absurd rfl differ
    · next middle placed =>
        have laidOut : layOut middle settings one request.document ≠
            layOut middle settings other request.document := by
          intro same
          rw [same] at differ
          exact differ rfl
        unfold layOut at laidOut
        split at laidOut
        · next wanted =>
            refine ⟨wanted, none, middle, placed, ?_⟩
            cases opened : buffer? middle request.document with
            | none => simp [reformat, opened] at laidOut
            | some found =>
                by_cases same : found = buffer
                · rw [same]
                · exact absurd (reformat_congr opened (agree found same)) laidOut
        · exact absurd rfl laidOut
  · rintro ⟨wanted, present, middle, placed, opened⟩
    -- two formatters that differ on this buffer alone, and the outcome differs
    refine ⟨satisfied, failing buffer, fun elsewhere apart => ?_, fun same => ?_⟩
    · simp only [satisfied, failing, if_neg apart]
    · have unchanged : (layOut middle settings satisfied request.document).1 = .unchanged := by
        simp only [layOut, if_pos wanted, reformat, opened, satisfied]
      have failed : ∃ reason,
          (layOut middle settings (failing buffer) request.document).1 = .failed reason := by
        simp [layOut, wanted, reformat, opened, failing]
      obtain ⟨reason, failed⟩ := failed
      rw [run_of_members present, run_of_members present, placed] at same
      dsimp only at same
      rw [unchanged, failed] at same
      cases Except.ok.inj same

/-- The number of batches that a document takes in a run that comes to an outcome. -/
def ReformatOutcome.batches : ReformatOutcome → Nat
  | .applied _ => 2
  | .disabled | .unchanged | .failed _ => 1

theorem version_of_laidOut {before next final : Buffer} {outcome : ReformatOutcome}
    (version : next.version = before.version + 1)
    (laidOut : LaidOut formatter next final outcome) :
    final.version = before.version + .ofNat outcome.batches := by
  cases outcome with
  | applied count =>
      obtain ⟨-, edits, -, -, landed⟩ := laidOut
      obtain ⟨text, -, rfl⟩ := Buffer.apply_ok_iff.mp landed
      change next.version + 1 = before.version + .ofNat (1 + 1)
      rw [version, UInt32.add_assoc, UInt32.ofNat_add, UInt32.ofNat_one]
  | disabled | unchanged | failed reason =>
      obtain rfl : final = next := laidOut
      exact version

/-- A version rises by a number exactly if it does not start anew on the way. -/
theorem toNat_version_add_iff (version : UInt32) (count : Nat) :
    (version + .ofNat count).toNat = version.toNat + count ↔
      version.toNat + count < UInt32.size := by
  rw [UInt32.toNat_add, UInt32.toNat_ofNat', Nat.add_mod_mod]
  exact Nat.mod_eq_iff_lt (by decide)

theorem stage_eq_iff (outcome : ReformatOutcome) :
    (outcome.stage = .inserted ↔ outcome = .disabled) ∧
      (outcome.stage = .reformatRequested ↔ ∃ reason, outcome = .failed reason) ∧
      (outcome.stage = .reformatApplied ↔
        outcome = .unchanged ∨ ∃ count, outcome = .applied count) := by
  cases outcome <;> simp [ReformatOutcome.stage]

/-- A run that succeeds leaves the constructor in the document, laid out as the outcome says. -/
theorem rewrites_of_run [LawfulHost σ] {outcome : Outcome}
    (ran : run host settings formatter request = (.ok outcome, after)) :
    request.members ≠ [] ∧ outcome = report settings request outcome.reformat ∧
      ∃ before middle next final, buffer? host request.document = some before ∧
        commit host settings request = (.ok (), middle) ∧
        buffer? middle request.document = some next ∧
        Inserted settings request before next ∧
        LaidOut formatter next final outcome.reformat ∧
        Rewrites host request.document final after := by
  obtain ⟨present, middle, placed, rfl, rfl⟩ := run_eq_ok_iff.mp ran
  have accepted : (commit host settings request).1 = .ok () := by rw [placed]
  obtain ⟨before, next, opened, inserted, rewrites⟩ := commit_rewrites accepted
  rw [placed] at rewrites
  obtain ⟨final, laidOut, rewritesAgain⟩ := layOut_rewrites rewrites.opened settings formatter
  exact ⟨present, rfl, before, middle, next, final, opened, placed, rewrites.opened, inserted,
    laidOut, rewrites.trans rewritesAgain⟩

/-- How far a run came that succeeded. -/
def reached (result : Except ActionError Outcome × σ) : Option Stage :=
  match result.1 with
  | .ok outcome => some outcome.stage
  | .error _ => none

end ConstructorAction.Action
