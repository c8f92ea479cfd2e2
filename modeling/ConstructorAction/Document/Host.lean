import ConstructorAction.Error

namespace ConstructorAction.Document

/-!
Hosts of documents. An action reads documents and asks for edits through a host; a host may turn an
edit down, and then no document changes (`LawfulHost`). `Workspace` keeps documents in memory;
`Guarded` is a workspace that becomes read-only after some number of requests.
-/

class Host (σ : Type) where
  buffer? : σ → DocumentId → Option Buffer
  /-- Applies a batch to one document, or says why not. -/
  applyEdits : σ → DocumentId → List TextEdit → Except ActionError Unit × σ

export Host (buffer? applyEdits)

/-- A batch of edits lands as a whole in the document it names, or changes no document. -/
class LawfulHost (σ : Type) [Host σ] : Prop where
  buffer?_of_error {host : σ} {id : DocumentId} {edits : List TextEdit} {reason : ActionError}
    (refused : (applyEdits host id edits).1 = .error reason) (other : DocumentId) :
    buffer? (applyEdits host id edits).2 other = buffer? host other
  buffer?_of_ok {host : σ} {id : DocumentId} {edits : List TextEdit}
    (applied : (applyEdits host id edits).1 = .ok ()) :
    ∃ before after, buffer? host id = some before ∧ before.apply edits = .ok after ∧
      ∀ other, buffer? (applyEdits host id edits).2 other =
        if other = id then some after else buffer? host other

structure Workspace where
  buffers : List Buffer := []
  deriving DecidableEq, Repr, Inhabited

namespace Workspace

def find? (workspace : Workspace) (id : DocumentId) : Option Buffer :=
  workspace.buffers.find? fun buffer => buffer.id = id

/-- Adds a document, or puts it in the place of the one with its name. -/
def put (workspace : Workspace) (buffer : Buffer) : Workspace :=
  ⟨buffer :: workspace.buffers.filter fun other => other.id ≠ buffer.id⟩

/-- Opens a document anew. -/
def «open» (workspace : Workspace) (id : DocumentId) (text : String) : Workspace :=
  workspace.put { id, text }

def applyEdits (workspace : Workspace) (id : DocumentId) (edits : List TextEdit) :
    Except ActionError Unit × Workspace :=
  match workspace.find? id with
  | none => (.error (.unknownDocument id), workspace)
  | some buffer =>
      match buffer.apply edits with
      | .error reason => (.error (.editRejected id reason), workspace)
      | .ok after => (.ok (), workspace.put after)

theorem find?_put (workspace : Workspace) (buffer : Buffer) (id : DocumentId) :
    (workspace.put buffer).find? id =
      if id = buffer.id then some buffer else workspace.find? id := by
  by_cases same : id = buffer.id
  · simp [find?, put, same]
  · have other : ¬ buffer.id = id := fun equal => same equal.symm
    simp only [find?, put, List.find?_cons, other, decide_false, if_neg same, List.find?_filter]
    congr 1
    funext candidate
    by_cases found : candidate.id = id
    · simp [found, same]
    · simp [found]

theorem id_of_find? {workspace : Workspace} {id : DocumentId} {buffer : Buffer}
    (found : workspace.find? id = some buffer) : buffer.id = id := by
  simpa [find?] using List.find?_some found

end Workspace

theorem Buffer.id_of_apply {buffer after : Buffer} {edits : List TextEdit}
    (applied : buffer.apply edits = .ok after) : after.id = buffer.id := by
  obtain ⟨text, _, rfl⟩ := Buffer.apply_ok_iff.mp applied
  rfl

instance : Host Workspace where
  buffer? := Workspace.find?
  applyEdits := Workspace.applyEdits

instance : LawfulHost Workspace where
  buffer?_of_error {host id edits reason} refused other := by
    simp only [applyEdits, Workspace.applyEdits] at refused ⊢
    split at refused
    · simp
    · split at refused
      · simp
      · simp at refused
  buffer?_of_ok {host id edits} applied := by
    simp only [applyEdits, buffer?, Workspace.applyEdits] at applied ⊢
    split at applied
    · simp at applied
    · next buffer found =>
        split at applied
        · simp at applied
        · next after landed =>
            refine ⟨buffer, after, found, landed, fun other => ?_⟩
            simp only [Workspace.find?_put, Buffer.id_of_apply landed,
              Workspace.id_of_find? found]

/-- A workspace that takes `editsLeft` more requests for edits, refused ones included. -/
structure Guarded where
  workspace : Workspace := {}
  editsLeft : Option Nat := none
  deriving DecidableEq, Repr, Inhabited

namespace Guarded

def applyEdits (guarded : Guarded) (id : DocumentId) (edits : List TextEdit) :
    Except ActionError Unit × Guarded :=
  match guarded.editsLeft with
  | some 0 => (.error (.editRejected id .readOnly), guarded)
  | left =>
      let (result, workspace) := guarded.workspace.applyEdits id edits
      (result, ⟨workspace, left.map (· - 1)⟩)

def «open» (guarded : Guarded) (id : DocumentId) (text : String) : Guarded :=
  { guarded with workspace := guarded.workspace.open id text }

end Guarded

instance : Host Guarded where
  buffer? guarded := guarded.workspace.find?
  applyEdits := Guarded.applyEdits

instance : LawfulHost Guarded where
  buffer?_of_error {host id edits reason} refused other := by
    simp only [applyEdits, buffer?, Guarded.applyEdits] at refused ⊢
    split at refused
    · simp
    · exact LawfulHost.buffer?_of_error (σ := Workspace) refused other
  buffer?_of_ok {host id edits} applied := by
    simp only [applyEdits, buffer?, Guarded.applyEdits] at applied ⊢
    split at applied
    · simp at applied
    · exact LawfulHost.buffer?_of_ok (σ := Workspace) applied

end ConstructorAction.Document
