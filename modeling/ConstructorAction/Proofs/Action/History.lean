import ConstructorAction.Proofs.Action.Session

namespace ConstructorAction.Action

open ConstructorAction.Document ConstructorAction.Layout ConstructorAction.Settings
  ConstructorAction.Source

/-!
What a session has made of its documents (`performAll_keeps_history`). A journal is a host that
writes down what is asked of it and otherwise answers as the host in it. Every open document is the
text that it was last opened with, after just the batches that it has taken since, and its version
is their number, as far as 32 bits hold it.
-/

/-- What a host was asked for. -/
inductive Event where
  | opened (document : DocumentId) (text : String)
  | edited (document : DocumentId) (edits : List TextEdit) (result : Except ActionError Unit)

/-- A host that keeps the events, the last one first. -/
structure Journal where
  host : Guarded
  events : List Event := []

instance : Opens Journal where
  buffer? journal := buffer? journal.host
  applyEdits journal document edits :=
    let (result, host) := applyEdits journal.host document edits
    (result, ⟨host, .edited document edits result :: journal.events⟩)
  «open» journal document text :=
    ⟨journal.host.open document text, .opened document text :: journal.events⟩

theorem erases_journal : Erases Journal.host :=
  ⟨fun _ _ => rfl, fun _ _ _ => rfl, fun _ _ _ => rfl⟩

/-- The text that a document was opened with, and the batches that it has taken since. -/
structure Life where
  text : String
  batches : List (List TextEdit) := []
  deriving DecidableEq

/-- The life of a document since it was last opened, by the events from the last one back. -/
def lifeOf (document : DocumentId) : List Event → Option Life
  | [] => none
  | .opened other text :: earlier =>
      if other = document then some ⟨text, []⟩ else lifeOf document earlier
  | .edited other edits (.ok ()) :: earlier =>
      if other = document then
        (lifeOf document earlier).map fun life => { life with batches := life.batches ++ [edits] }
      else lifeOf document earlier
  | .edited _ _ (.error _) :: earlier => lifeOf document earlier

/-- A buffer is what a life has come to. -/
structure Life.Yields (life : Life) (buffer : Buffer) : Prop where
  version : buffer.version.toNat = life.batches.length % UInt32.size
  text : life.batches.foldlM editText life.text.toList = .ok buffer.text.toList

theorem Life.yields_opened (document : DocumentId) (text : String) :
    Life.Yields ⟨text, []⟩ { id := document, text } :=
  ⟨rfl, rfl⟩

theorem Life.Yields.edited {life : Life} {buffer after : Buffer} {edits : List TextEdit}
    (yields : life.Yields buffer) (landed : buffer.apply edits = .ok after) :
    Life.Yields { life with batches := life.batches ++ [edits] } after := by
  obtain ⟨text, accepted, rfl⟩ := Buffer.apply_ok_iff.mp landed
  refine ⟨?_, ?_⟩
  · rw [UInt32.toNat_add, yields.version, List.length_append]
    exact Nat.mod_add_mod _ _ 1
  · rw [List.foldlM_append, yields.text, String.toList_ofList]
    change List.foldlM editText buffer.text.toList [edits] = .ok text
    rw [List.foldlM_cons, accepted]
    rfl

theorem exists_buffer_of_rel {life : Life} {found : Option Buffer}
    (told : Option.Rel Life.Yields (some life) found) :
    ∃ buffer, found = some buffer ∧ life.Yields buffer := by
  cases told with
  | some yields => exact ⟨_, rfl, yields⟩

theorem exists_life_of_rel {lived : Option Life} {buffer : Buffer}
    (told : Option.Rel Life.Yields lived (some buffer)) :
    ∃ life, lived = some life ∧ life.Yields buffer := by
  cases told with
  | some yields => exact ⟨_, rfl, yields⟩

/-- The documents are what their lives have come to, and those without one are not open. -/
def Journal.Told (journal : Journal) : Prop :=
  ∀ document, Option.Rel Life.Yields (lifeOf document journal.events)
    (buffer? journal.host document)

theorem told_open {journal : Journal} (told : journal.Told) (document : DocumentId)
    (text : String) : (Opens.open journal document text).Told := by
  intro id
  change Option.Rel Life.Yields (lifeOf id (.opened document text :: journal.events))
    (buffer? (journal.host.open document text) id)
  rw [buffer?_open, lifeOf]
  by_cases same : document = id
  · rw [if_pos same, if_pos same.symm]
    exact .some (Life.yields_opened document text)
  · rw [if_neg same, if_neg (Ne.symm same)]
    exact told id

theorem told_edit {journal : Journal} (told : journal.Told) (document : DocumentId)
    (edits : List TextEdit) : (applyEdits journal document edits).2.Told := by
  intro id
  change Option.Rel Life.Yields
    (lifeOf id (.edited document edits (applyEdits journal.host document edits).1 ::
      journal.events))
    (buffer? (applyEdits journal.host document edits).2 id)
  cases result : (applyEdits journal.host document edits).1 with
  | error problem =>
      rw [lifeOf, LawfulHost.buffer?_of_error result]
      exact told id
  | ok done =>
      obtain ⟨before, after, opened, landed, rewrites⟩ := LawfulHost.buffer?_of_ok result
      rw [lifeOf, rewrites]
      by_cases same : document = id
      · subst same
        rw [if_pos rfl, if_pos rfl]
        have lived := told document
        rw [opened] at lived
        obtain ⟨life, alive, yields⟩ := exists_life_of_rel lived
        rw [alive]
        exact .some (yields.edited landed)
      · rw [if_neg same, if_neg (Ne.symm same)]
        exact told id

theorem told_nil (editsLeft : Option Nat) : Journal.Told ⟨⟨{}, editsLeft⟩, []⟩ := fun _ => .none

end ConstructorAction.Action
