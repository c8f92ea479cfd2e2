import ConstructorAction.Layout.LineEdits
import ConstructorAction.Proofs.Document.Batch

namespace ConstructorAction.Layout

open ConstructorAction.Document ConstructorAction.Text

/-!
The edits between two lists of lines turn the one into the other. The spans of the edits are
followed along the rows of the document: a row whose line differs gets a new content and keeps its
ending, and the rows that are added or left out at the end meet the last row in common behind its
content.
-/

theorem endOf_append_singleton (front : List (List Char)) (line : List Char) :
    endOf (front ++ [line]) = ⟨front.length, line.length⟩ := by
  simp [endOf]

theorem replacements_append_left {line : Nat} {kept formatted : List (List Char)}
    (paired : kept.length = formatted.length) (gone : List (List Char)) :
    replacements line (kept ++ gone) formatted = replacements line kept formatted := by
  induction kept generalizing line formatted with
  | nil =>
      have empty : formatted = [] := List.length_eq_zero_iff.mp (by simpa using paired.symm)
      subst empty
      cases gone <;> rfl
  | cons old kept ih =>
      cases formatted with
      | nil => simp at paired
      | cons new formatted =>
          have rest : replacements (line + 1) (kept ++ gone) formatted =
              replacements (line + 1) kept formatted :=
            ih (by simpa using paired)
          simp only [List.cons_append, replacements, rest]

theorem replacements_append_right {line : Nat} {current shown : List (List Char)}
    (paired : current.length = shown.length) (added : List (List Char)) :
    replacements line current (shown ++ added) = replacements line current shown := by
  induction current generalizing line shown with
  | nil =>
      have empty : shown = [] := List.length_eq_zero_iff.mp (by simpa using paired.symm)
      subst empty
      cases added <;> rfl
  | cons old current ih =>
      cases shown with
      | nil => simp at paired
      | cons new shown =>
          have rest : replacements (line + 1) current (shown ++ added) =
              replacements (line + 1) current shown :=
            ih (by simpa using paired)
          simp only [List.cons_append, replacements, rest]

theorem lineEdits_paired {current formatted : List (List Char)}
    (paired : current.length = formatted.length) :
    lineEdits current formatted = replacements 0 current formatted := by
  simp [lineEdits, paired]

theorem lineEdits_shrunk {kept gone formatted : List (List Char)}
    (paired : kept.length = formatted.length) (present : gone ≠ []) :
    lineEdits (kept ++ gone) formatted =
      replacements 0 kept formatted ++ [⟨⟨endOf kept, endOf (kept ++ gone)⟩, ""⟩] := by
  have positive := List.length_pos_iff.mpr present
  have common : min (kept.length + gone.length) formatted.length = kept.length := by omega
  simp [lineEdits, common, positive, replacements_append_left paired]

theorem lineEdits_grown {current shown added : List (List Char)}
    (paired : current.length = shown.length) (nonempty : current ≠ []) (present : added ≠ []) :
    lineEdits current (shown ++ added) =
      replacements 0 current shown ++
        [.insertion (endOf current) (String.ofList ('\n' :: joinLines added))] := by
  have positive := List.length_pos_iff.mpr present
  have common : min current.length (shown.length + added.length) = current.length := by omega
  have started : ¬ current.length = 0 := fun empty => nonempty (List.length_eq_zero_iff.mp empty)
  have rest : (shown ++ added).drop current.length = added := by
    rw [paired]
    exact List.drop_left
  have more : current.length < shown.length + added.length := by omega
  simp only [lineEdits, List.length_append, common, List.take_length, Nat.lt_irrefl, if_false,
    more, if_true, started, rest, replacements_append_right paired]

theorem lineEdits_nil {formatted : List (List Char)} (present : formatted ≠ []) :
    lineEdits [] formatted =
      [.insertion ⟨0, 0⟩ (String.ofList (joinLines formatted ++ ['\n']))] := by
  have positive := List.length_pos_iff.mpr present
  simp [lineEdits, replacements, endOf, positive]

/-- Two lists up to their last common place, behind which one of them ends. -/
theorem exists_common_split {α β : Type} {left : List α} {right : List β}
    (leftPresent : left ≠ []) (rightPresent : right ≠ []) :
    ∃ front last rest otherFront otherLast otherRest,
      left = front ++ last :: rest ∧ right = otherFront ++ otherLast :: otherRest ∧
        front.length = otherFront.length ∧ (rest = [] ∨ otherRest = []) := by
  induction left generalizing right with
  | nil => exact absurd rfl leftPresent
  | cons a left ih =>
      obtain ⟨b, right, rfl⟩ := List.exists_cons_of_ne_nil rightPresent
      by_cases stop : left = [] ∨ right = []
      · exact ⟨[], a, left, [], b, right, rfl, rfl, rfl, stop⟩
      · obtain ⟨leftMore, rightMore⟩ := not_or.mp stop
        obtain ⟨front, last, rest, otherFront, otherLast, otherRest, rfl, rfl, paired, ended⟩ :=
          ih leftMore rightMore
        exact ⟨a :: front, last, rest, b :: otherFront, otherLast, otherRest, rfl, rfl,
          by simp [paired], ended⟩

/-- The spans of the replacements, `offset` being where the first row starts. -/
def replacementSpans (offset : Nat) : List Row → List (List Char) → List Span
  | row :: rows, new :: formatted =>
      let later := replacementSpans (offset + row.text.length) rows formatted
      if row.content = new then later else ⟨offset, offset + row.content.length, new⟩ :: later
  | _, _ => []

theorem replacementSpans_bounds {offset : Nat} {rows : List Row} {formatted : List (List Char)} :
    ∀ span ∈ replacementSpans offset rows formatted,
      offset ≤ span.start ∧ span.start ≤ span.stop ∧
        span.stop ≤ offset + (rowsText rows).length := by
  induction rows generalizing offset formatted with
  | nil => simp [replacementSpans]
  | cons row rows ih =>
      cases formatted with
      | nil => simp [replacementSpans]
      | cons new formatted =>
          intro span member
          have size : (rowsText (row :: rows)).length =
              row.text.length + (rowsText rows).length := by
            simp [rowsText_cons]
          have within : row.content.length ≤ row.text.length := by simp [Row.text]
          unfold replacementSpans at member
          by_cases same : row.content = new
          · rw [if_pos same] at member
            have bound := ih span member
            omega
          · rw [if_neg same] at member
            rcases List.mem_cons.mp member with rfl | inLater
            · dsimp only
              omega
            · have bound := ih span inLater
              omega

theorem replacementSpans_precedes (offset : Nat) (rows : List Row)
    (formatted : List (List Char)) :
    (replacementSpans offset rows formatted).Pairwise Span.Precedes := by
  induction rows generalizing offset formatted with
  | nil => simp [replacementSpans]
  | cons row rows ih =>
      cases formatted with
      | nil => simp [replacementSpans]
      | cons new formatted =>
          have rest := ih (offset + row.text.length) formatted
          unfold replacementSpans
          split
          · exact rest
          · refine .cons (fun span member => ?_) rest
            have bound := replacementSpans_bounds span member
            have within : row.content.length ≤ row.text.length := by simp [Row.text]
            change offset + row.content.length ≤ span.start
            omega

/-- The edits of the lines are at the rows: this many rows stand before them. -/
theorem resolveAll_replacements {before current : List Row}
    (arranged : Arranged (before ++ current)) (formatted : List (List Char)) :
    resolveAll (rowsText (before ++ current))
        (replacements before.length (current.map Row.content) formatted) =
      .ok (replacementSpans (rowsText before).length current formatted) := by
  induction current generalizing before formatted with
  | nil => rfl
  | cons row later ih =>
      cases formatted with
      | nil => rfl
      | cons new formatted =>
          have regroup : before ++ row :: later = (before ++ [row]) ++ later := by simp
          have offset : (rowsText (before ++ [row])).length =
              (rowsText before).length + row.text.length := by
            simp
          have moved : Arranged ((before ++ [row]) ++ later) := regroup ▸ arranged
          have rest := ih moved formatted
          rw [← regroup, offset, List.length_append, List.length_singleton] at rest
          simp only [List.map_cons, replacements, replacementSpans]
          by_cases same : row.content = new
          · rw [if_pos same, if_pos same]
            exact rest
          · have start := offset?_rowsText arranged (Nat.zero_le row.content.length)
            have stop := offset?_rowsText arranged (Nat.le_refl row.content.length)
            have resolved : TextEdit.resolve (rowsText (before ++ row :: later))
                ⟨⟨⟨before.length, 0⟩, ⟨before.length, row.content.length⟩⟩, String.ofList new⟩ =
                  .ok ⟨(rowsText before).length,
                    (rowsText before).length + row.content.length, new⟩ :=
              TextEdit.resolve_eq_ok_iff.mpr ⟨⟨start, stop, by simp⟩, by simp⟩
            simp only [if_neg same, resolveAll, resolved, rest]

theorem resolveAll_append {text : List Char} {edits others : List TextEdit}
    {spans otherSpans : List Span} (first : resolveAll text edits = .ok spans)
    (second : resolveAll text others = .ok otherSpans) :
    resolveAll text (edits ++ others) = .ok (spans ++ otherSpans) := by
  obtain ⟨denotes, directed⟩ := resolveAll_eq_ok_iff.mp first
  obtain ⟨otherDenotes, otherDirected⟩ := resolveAll_eq_ok_iff.mp second
  refine resolveAll_eq_ok_iff.mpr ⟨List.rel_append denotes otherDenotes, ?_⟩
  intro span member
  rcases List.mem_append.mp member with inFirst | inSecond
  · exact directed span inFirst
  · exact otherDirected span inSecond

/-- Rows with other contents and the same endings. -/
def refilled : List Row → List (List Char) → List Row
  | row :: rows, new :: formatted => ⟨new, row.ending⟩ :: refilled rows formatted
  | _, _ => []

theorem content_refilled {rows : List Row} {formatted : List (List Char)}
    (paired : rows.length = formatted.length) :
    (refilled rows formatted).map Row.content = formatted := by
  induction rows generalizing formatted with
  | nil => exact (List.length_eq_zero_iff.mp (by simpa using paired.symm)).symm
  | cons row rows ih =>
      cases formatted with
      | nil => simp at paired
      | cons new formatted =>
          have rest := ih (show rows.length = formatted.length by simpa using paired)
          simp [refilled, rest]

theorem mem_refilled {rows : List Row} {formatted : List (List Char)} {row : Row}
    (member : row ∈ refilled rows formatted) :
    row.content ∈ formatted ∧ ∃ old ∈ rows, row.ending = old.ending := by
  induction rows generalizing formatted with
  | nil => simp [refilled] at member
  | cons first rows ih =>
      cases formatted with
      | nil => simp [refilled] at member
      | cons new formatted =>
          rcases List.mem_cons.mp member with rfl | inLater
          · exact ⟨List.mem_cons_self, first, List.mem_cons_self, rfl⟩
          · obtain ⟨content, old, inRows, ending⟩ := ih inLater
            exact ⟨List.mem_cons_of_mem new content, old, List.mem_cons_of_mem first inRows, ending⟩

/-- A span over the text at hand is replaced by its new text. -/
theorem splice_span (offset : Nat) (inner rest new : List Char) (later : List Span) :
    splice offset (inner ++ rest) (⟨offset, offset + inner.length, new⟩ :: later) =
      new ++ splice (offset + inner.length) rest later := by
  simp [splice]

/-- The content of one row is replaced, if it has to be. -/
theorem splice_row {offset : Nat} {row : Row} {tail : List Span}
    (behind : ∀ span ∈ tail,
      offset + row.content.length ≤ span.start ∧ span.start ≤ span.stop)
    (new rest : List Char) :
    splice offset (row.content ++ rest) (replacementSpans offset [row] [new] ++ tail) =
      new ++ splice (offset + row.content.length) rest tail := by
  simp only [replacementSpans]
  split
  · next same =>
      subst same
      exact splice_append behind rest
  · exact splice_span offset row.content rest new tail

theorem replacementSpans_cons (offset : Nat) (row : Row) (rows : List Row) (new : List Char)
    (formatted : List (List Char)) :
    replacementSpans offset (row :: rows) (new :: formatted) =
      replacementSpans offset [row] [new] ++
        replacementSpans (offset + row.text.length) rows formatted := by
  simp only [replacementSpans]
  split <;> rfl

theorem replacementSpans_append {rows : List Row} {formatted : List (List Char)}
    (paired : rows.length = formatted.length) (offset : Nat) (moreRows : List Row)
    (moreFormatted : List (List Char)) :
    replacementSpans offset (rows ++ moreRows) (formatted ++ moreFormatted) =
      replacementSpans offset rows formatted ++
        replacementSpans (offset + (rowsText rows).length) moreRows moreFormatted := by
  induction rows generalizing offset formatted with
  | nil =>
      have empty : formatted = [] := List.length_eq_zero_iff.mp (by simpa using paired.symm)
      subst empty
      rfl
  | cons row rows ih =>
      cases formatted with
      | nil => simp at paired
      | cons new formatted =>
          have rest := ih (show rows.length = formatted.length by simpa using paired)
            (offset + row.text.length)
          rw [List.cons_append, List.cons_append, replacementSpans_cons, rest,
            replacementSpans_cons offset row rows, rowsText_cons, List.length_append,
            List.append_assoc, Nat.add_assoc]

/-- The rows up to some place are refilled, and the spans behind them wait. -/
theorem splice_replacementSpans {offset : Nat} {rows : List Row} {formatted : List (List Char)}
    {tail : List Span} (paired : rows.length = formatted.length)
    (behind : ∀ span ∈ tail,
      offset + (rowsText rows).length ≤ span.start ∧ span.start ≤ span.stop)
    (rest : List Char) :
    splice offset (rowsText rows ++ rest) (replacementSpans offset rows formatted ++ tail) =
      rowsText (refilled rows formatted) ++
        splice (offset + (rowsText rows).length) rest tail := by
  induction rows generalizing offset formatted with
  | nil =>
      have empty : formatted = [] := List.length_eq_zero_iff.mp (by simpa using paired.symm)
      subst empty
      rfl
  | cons row rows ih =>
      cases formatted with
      | nil => simp at paired
      | cons new formatted =>
          have size : offset + (rowsText (row :: rows)).length =
              offset + row.text.length + (rowsText rows).length := by
            simp [Nat.add_assoc]
          have endingSize : offset + row.content.length + row.ending.text.length =
              offset + row.text.length := by
            simp [Row.text, Nat.add_assoc]
          let others := replacementSpans (offset + row.text.length) rows formatted ++ tail
          have behindRow : ∀ span ∈ others,
              offset + row.content.length + row.ending.text.length ≤ span.start ∧
                span.start ≤ span.stop := by
            intro span member
            rw [endingSize]
            rcases List.mem_append.mp member with inRows | inTail
            · have bound := replacementSpans_bounds span inRows
              exact ⟨bound.1, bound.2.1⟩
            · have bound := behind span inTail
              rw [size] at bound
              exact ⟨by omega, bound.2⟩
          have behindContent : ∀ span ∈ others,
              offset + row.content.length ≤ span.start ∧ span.start ≤ span.stop :=
            fun span member => ⟨by have := behindRow span member; omega, (behindRow span member).2⟩
          have further : splice (offset + row.text.length) (rowsText rows ++ rest) others =
              rowsText (refilled rows formatted) ++
                splice (offset + row.text.length + (rowsText rows).length) rest tail :=
            ih (by simpa using paired) fun span member => by
              have bound := behind span member
              rw [size] at bound
              exact bound
          calc splice offset (rowsText (row :: rows) ++ rest)
                (replacementSpans offset (row :: rows) (new :: formatted) ++ tail)
              = splice offset (row.content ++ (row.ending.text ++ (rowsText rows ++ rest)))
                  (replacementSpans offset [row] [new] ++ others) := by
                rw [replacementSpans_cons]
                simp [Row.text, others]
            _ = new ++ (row.ending.text ++
                  splice (offset + row.text.length) (rowsText rows ++ rest) others) := by
                rw [splice_row behindContent, splice_append behindRow, endingSize]
            _ = rowsText (refilled (row :: rows) (new :: formatted)) ++
                  splice (offset + (rowsText (row :: rows)).length) rest tail := by
                rw [further, size]
                simp [refilled, Row.text]

theorem replacementSpans_common {front rest : List Row} {last : Row}
    {formatted : List (List Char)} (paired : front.length = formatted.length) (offset : Nat)
    (new : List Char) :
    replacementSpans offset (front ++ last :: rest) (formatted ++ [new]) =
      replacementSpans offset front formatted ++
        replacementSpans (offset + (rowsText front).length) [last] [new] := by
  have ended : replacementSpans (offset + (rowsText front).length + last.text.length) rest [] =
      [] := by
    cases rest <;> rfl
  rw [replacementSpans_append paired, replacementSpans_cons, ended, List.append_nil]

theorem stop_replacementSpans_row {offset : Nat} {row : Row} {new : List Char} {span : Span}
    (member : span ∈ replacementSpans offset [row] [new]) :
    span.start = offset ∧ span.stop = offset + row.content.length := by
  simp only [replacementSpans] at member
  split at member
  · simp at member
  · rw [List.mem_singleton.mp member]
    exact ⟨rfl, rfl⟩

/-- The lines up to the last common one are replaced, and the edits behind its content follow. -/
theorem editText_replacements {front rest : List Row} {last : Row}
    {formatted : List (List Char)} {new : List Char} {others : List TextEdit} {tail : List Span}
    (arranged : Arranged (front ++ last :: rest)) (paired : front.length = formatted.length)
    (resolved : resolveAll (rowsText (front ++ last :: rest)) others = .ok tail)
    (following : tail.Pairwise Span.Precedes)
    (behind : ∀ span ∈ tail, (rowsText front).length + last.content.length ≤ span.start) :
    editText (rowsText (front ++ last :: rest))
        (replacements 0 ((front ++ [last]).map Row.content) (formatted ++ [new]) ++ others) =
      .ok (rowsText (refilled front formatted) ++ (new ++
        splice ((rowsText front).length + last.content.length)
          (last.ending.text ++ rowsText rest) tail)) := by
  have kept : replacements 0 ((front ++ last :: rest).map Row.content) (formatted ++ [new]) =
      replacements 0 ((front ++ [last]).map Row.content) (formatted ++ [new]) := by
    have regroup : front ++ last :: rest = (front ++ [last]) ++ rest := by simp
    rw [regroup, List.map_append]
    exact replacements_append_left (by simp [paired]) _
  have spans : replacementSpans 0 (front ++ last :: rest) (formatted ++ [new]) =
      replacementSpans 0 front formatted ++
        replacementSpans (0 + (rowsText front).length) [last] [new] :=
    replacementSpans_common paired 0 new
  have whole : Arranged ([] ++ (front ++ last :: rest)) := arranged
  have first := resolveAll_replacements whole (formatted ++ [new])
  rw [List.nil_append, List.length_nil, kept, rowsText_nil, List.length_nil, spans,
    Nat.zero_add] at first
  have firstFollowing := replacementSpans_precedes 0 (front ++ last :: rest) (formatted ++ [new])
  rw [spans, Nat.zero_add] at firstFollowing
  have directed := (resolveAll_eq_ok_iff.mp resolved).2
  have meeting : ∀ span ∈ replacementSpans 0 front formatted ++
        replacementSpans (rowsText front).length [last] [new],
      ∀ other ∈ tail, span.Precedes other := by
    intro span member other inTail
    have reach := behind other inTail
    unfold Span.Precedes
    rcases List.mem_append.mp member with inFront | inLast
    · have bound := replacementSpans_bounds span inFront
      omega
    · have stop := (stop_replacementSpans_row inLast).2
      omega
  have behindFront : ∀ span ∈ replacementSpans (rowsText front).length [last] [new] ++ tail,
      0 + (rowsText front).length ≤ span.start ∧ span.start ≤ span.stop := by
    intro span member
    rcases List.mem_append.mp member with inLast | inTail
    · have place := stop_replacementSpans_row inLast
      omega
    · have reach := behind span inTail
      exact ⟨by omega, directed span inTail⟩
  have accepted := editText_of_precedes (resolveAll_append first resolved)
    (List.pairwise_append.mpr ⟨firstFollowing, following, meeting⟩)
  rw [accepted, List.append_assoc, rowsText_append, rowsText_cons, Row.text, List.append_assoc,
    splice_replacementSpans paired behindFront, Nat.zero_add,
    splice_row fun span member => ⟨behind span member, directed span member⟩]

/-- The end of the content of a row, by its lines. -/
theorem offset?_endOf {front later : List Row} {row : Row}
    (arranged : Arranged (front ++ row :: later)) :
    offset? (rowsText (front ++ row :: later)) (endOf ((front ++ [row]).map Row.content)) =
      some ((rowsText front).length + row.content.length) := by
  have place : endOf ((front ++ [row]).map Row.content) = ⟨front.length, row.content.length⟩ := by
    rw [List.map_append, List.map_singleton, endOf_append_singleton, List.length_map]
  rw [place]
  exact offset?_rowsText arranged (Nat.le_refl row.content.length)

/-- Rows at the end are left out: one edit takes everything from the last common content up to the
last ending. -/
theorem editText_shrunk {front middle : List Row} {last final : Row}
    {formatted : List (List Char)} {new : List Char}
    (arranged : Arranged (front ++ last :: (middle ++ [final])))
    (paired : front.length = formatted.length) :
    editText (rowsText (front ++ last :: (middle ++ [final])))
        (lineEdits ((front ++ last :: (middle ++ [final])).map Row.content)
          (formatted ++ [new])) =
      .ok (rowsText (refilled front formatted) ++ (new ++ final.ending.text)) := by
  let start := (rowsText front).length + last.content.length
  let gap := last.ending.text ++ rowsText middle ++ final.content
  have shown : (front ++ last :: (middle ++ [final])).map Row.content =
      (front ++ [last]).map Row.content ++ (middle ++ [final]).map Row.content := by
    simp
  have edits := lineEdits_shrunk
    (show ((front ++ [last]).map Row.content).length = (formatted ++ [new]).length by
      simp [paired])
    (show (middle ++ [final]).map Row.content ≠ [] by simp)
  rw [← shown] at edits
  have regroup : front ++ last :: (middle ++ [final]) = (front ++ last :: middle) ++ [final] := by
    simp
  have stop := offset?_endOf (regroup ▸ arranged)
  rw [← regroup] at stop
  have size : (rowsText (front ++ last :: middle)).length + final.content.length =
      start + gap.length := by
    simp only [start, gap, rowsText_append, rowsText_cons, Row.text, List.length_append]
    omega
  have resolved : resolveAll (rowsText (front ++ last :: (middle ++ [final])))
      [⟨⟨endOf ((front ++ [last]).map Row.content),
        endOf ((front ++ last :: (middle ++ [final])).map Row.content)⟩, ""⟩] =
        .ok [⟨start, start + gap.length, []⟩] :=
    resolveAll_eq_ok_iff.mpr
      ⟨.cons ⟨offset?_endOf arranged, stop.trans (congrArg some size), rfl⟩ .nil, by simp⟩
  rw [edits, editText_replacements arranged paired resolved (List.pairwise_singleton _ _)
    (by simp [start])]
  have rest : last.ending.text ++ rowsText (middle ++ [final]) = gap ++ final.ending.text := by
    simp [gap, Row.text]
  rw [rest, splice_span]
  rfl

/-- Lines are added at the end: they are inserted between the last content and its ending. -/
theorem editText_grown {front : List Row} {last : Row} {formatted : List (List Char)}
    {new : List Char} {added : List (List Char)} (arranged : Arranged (front ++ [last]))
    (paired : front.length = formatted.length) (present : added ≠ []) :
    editText (rowsText (front ++ [last]))
        (lineEdits ((front ++ [last]).map Row.content) (formatted ++ [new] ++ added)) =
      .ok (rowsText (refilled front formatted) ++
        (new ++ ('\n' :: joinLines added ++ last.ending.text))) := by
  let place := (rowsText front).length + last.content.length
  have edits := lineEdits_grown
    (show ((front ++ [last]).map Row.content).length = (formatted ++ [new]).length by
      simp [paired])
    (show (front ++ [last]).map Row.content ≠ [] by simp) present
  have resolved : resolveAll (rowsText (front ++ [last]))
      [.insertion (endOf ((front ++ [last]).map Row.content))
        (String.ofList ('\n' :: joinLines added))] =
        .ok [⟨place, place, '\n' :: joinLines added⟩] :=
    resolveAll_eq_ok_iff.mpr
      ⟨.cons ⟨offset?_endOf arranged, offset?_endOf arranged, by simp [TextEdit.insertion]⟩ .nil,
        by simp⟩
  rw [edits, editText_replacements arranged paired resolved (List.pairwise_singleton _ _)
    (by simp [place])]
  simp [splice, place]

/-- As many lines as before: every row is refilled. -/
theorem editText_paired {front : List Row} {last : Row} {formatted : List (List Char)}
    {new : List Char} (arranged : Arranged (front ++ [last]))
    (paired : front.length = formatted.length) :
    editText (rowsText (front ++ [last]))
        (lineEdits ((front ++ [last]).map Row.content) (formatted ++ [new])) =
      .ok (rowsText (refilled front formatted) ++ (new ++ last.ending.text)) := by
  have edits := lineEdits_paired
    (show ((front ++ [last]).map Row.content).length = (formatted ++ [new]).length by
      simp [paired])
  have accepted : editText (rowsText (front ++ [last]))
      (replacements 0 ((front ++ [last]).map Row.content) (formatted ++ [new]) ++ []) =
        .ok (rowsText (refilled front formatted) ++ (new ++
          splice ((rowsText front).length + last.content.length)
            (last.ending.text ++ rowsText []) [])) :=
    editText_replacements arranged paired rfl .nil (by simp)
  rw [edits]
  simpa [splice] using accepted

/-- Lines one behind the other; the last one has the ending given. -/
def chained (ending : Ending) : List Char → List (List Char) → List Row
  | line, [] => [⟨line, ending⟩]
  | line, next :: later => ⟨line, .lineFeed⟩ :: chained ending next later

theorem content_chained (ending : Ending) (line : List Char) (later : List (List Char)) :
    (chained ending line later).map Row.content = line :: later := by
  induction later generalizing line with
  | nil => rfl
  | cons next later ih => simp [chained, ih]

theorem rowsText_chained (ending : Ending) (line : List Char) (later : List (List Char)) :
    rowsText (chained ending line later) = joinLines (line :: later) ++ ending.text := by
  induction later generalizing line with
  | nil => simp [chained, Row.text, joinLines, List.intercalate]
  | cons next later ih =>
      rw [chained, rowsText_cons, ih, joinLines_cons_cons]
      simp [Row.text, Ending.text]

/-- A line that a document can hold as it is: it has no line feed, and a carriage return at its end
would be taken for a part of the ending. -/
def Whole (line : List Char) : Prop := '\n' ∉ line ∧ line.getLast? ≠ some '\r'

theorem Whole.isLine {line : List Char} (whole : Whole line) (ending : Ending) :
    Row.IsLine ⟨line, ending⟩ where
  lineFeed_notMem := whole.1
  hasReturn last := absurd last whole.2

theorem arranged_chained {ending : Ending} {line : List Char} {later : List (List Char)}
    (whole : ∀ other ∈ line :: later, Whole other)
    (shown : ending = .missing → (line :: later).getLast? ≠ some []) :
    Arranged (chained ending line later) := by
  induction later generalizing line with
  | nil =>
      refine ⟨(whole line List.mem_cons_self).isLine ending, fun missing empty => ?_⟩
      exact shown missing (by simpa using empty)
  | cons next later ih =>
      have rest := ih (fun other member => whole other (List.mem_cons_of_mem line member))
        (fun missing => by simpa using shown missing)
      have closed : ∀ row ∈ [(⟨line, .lineFeed⟩ : Row)],
          row.IsLine ∧ row.ending.isClosed = true := by
        intro row member
        rw [List.mem_singleton.mp member]
        exact ⟨(whole line List.mem_cons_self).isLine _, rfl⟩
      exact Arranged.append closed rest

theorem closed_refilled {front rest : List Row} {formatted : List (List Char)}
    (arranged : Arranged (front ++ rest)) (present : rest ≠ [])
    (whole : ∀ line ∈ formatted, Whole line) :
    ∀ row ∈ refilled front formatted, row.IsLine ∧ row.ending.isClosed = true := by
  intro row member
  obtain ⟨content, old, inFront, ending⟩ := mem_refilled member
  refine ⟨(whole row.content content).isLine row.ending, ?_⟩
  rw [ending]
  exact arranged.isClosed present old inFront

/-- Refilled rows and lines behind them read back as the lines that they were made of. -/
theorem lines_refilled_append {front rest : List Row} {formatted added : List (List Char)}
    {new : List Char} {ending : Ending} (arranged : Arranged (front ++ rest)) (present : rest ≠ [])
    (paired : front.length = formatted.length)
    (whole : ∀ line ∈ formatted ++ new :: added, Whole line)
    (shown : ending = .missing → (new :: added).getLast? ≠ some []) :
    lines (rowsText (refilled front formatted) ++ (joinLines (new :: added) ++ ending.text)) =
      formatted ++ new :: added := by
  have frontWhole : ∀ line ∈ formatted, Whole line := fun line member =>
    whole line (List.mem_append_left _ member)
  have endWhole : ∀ line ∈ new :: added, Whole line := fun line member =>
    whole line (List.mem_append_right formatted member)
  have result := lines_rowsText (Arranged.append (closed_refilled arranged present frontWhole)
    (arranged_chained endWhole shown))
  rwa [rowsText_append, rowsText_chained, List.map_append, content_refilled paired,
    content_chained] at result

theorem rowsText_of_missing {front : List Row} {final : Row} (missing : final.ending = .missing) :
    rowsText (front ++ [final]) = rowsText front ++ final.content := by
  simp [Row.text, missing, Ending.text]

/-- A last line without any ending does not end in a line feed. -/
theorem getLast?_rowsText_of_missing {front : List Row} {final : Row}
    (arranged : Arranged (front ++ [final])) (missing : final.ending = .missing) :
    (rowsText (front ++ [final])).getLast? ≠ some '\n' := by
  have content : final.content ≠ [] := arranged.append_right.2 missing
  rw [rowsText_of_missing missing, List.getLast?_append_of_ne_nil _ content]
  exact fun last => arranged.append_right.1.lineFeed_notMem (List.mem_of_getLast? last)

/-- Only a text whose last line has no ending at all may need a last line with content. -/
theorem getLast?_ne_of_missing {front : List Row} {final : Row} {formatted : List (List Char)}
    (arranged : Arranged (front ++ [final]))
    (shown : rowsText (front ++ [final]) = [] ∨
      (rowsText (front ++ [final])).getLast? = some '\n' ∨ formatted.getLast? ≠ some [])
    (missing : final.ending = .missing) : formatted.getLast? ≠ some [] := by
  rcases shown with empty | lineFeed | other
  · rw [rowsText_of_missing missing] at empty
    exact absurd (List.append_eq_nil_iff.mp empty).2 (arranged.append_right.2 missing)
  · exact absurd lineFeed (getLast?_rowsText_of_missing arranged missing)
  · exact other

theorem lines_joinLines_append {ending : Ending} {line : List Char} {later : List (List Char)}
    (whole : ∀ other ∈ line :: later, Whole other)
    (shown : ending = .missing → (line :: later).getLast? ≠ some []) :
    lines (joinLines (line :: later) ++ ending.text) = line :: later := by
  rw [← rowsText_chained, lines_rowsText (arranged_chained whole shown), content_chained]

/-- An empty document is filled by one insertion. -/
theorem lines_editText_of_nil {formatted : List (List Char)} (present : formatted ≠ [])
    (whole : ∀ line ∈ formatted, Whole line) :
    ∃ result, editText [] (lineEdits [] formatted) = .ok result ∧ lines result = formatted := by
  obtain ⟨line, later, rfl⟩ := List.exists_cons_of_ne_nil present
  let text := joinLines (line :: later) ++ Ending.lineFeed.text
  have resolved : resolveAll [] [.insertion ⟨0, 0⟩ (String.ofList text)] = .ok [⟨0, 0, text⟩] :=
    resolveAll_eq_ok_iff.mpr ⟨.cons ⟨rfl, rfl, by simp [TextEdit.insertion]⟩ .nil, by simp⟩
  have accepted := editText_of_precedes resolved (List.pairwise_singleton _ _)
  rw [lineEdits_nil present]
  refine ⟨text, accepted.trans ?_, lines_joinLines_append whole (by simp)⟩
  simp [splice]

/-- The edits between the lines of a text and other lines leave just these lines. -/
theorem lines_editText_lineEdits {rows : List Row} {formatted : List (List Char)}
    (arranged : Arranged rows) (present : formatted ≠ [])
    (whole : ∀ line ∈ formatted, Whole line)
    (shown : rowsText rows = [] ∨ (rowsText rows).getLast? = some '\n' ∨
      formatted.getLast? ≠ some []) :
    ∃ result, editText (rowsText rows) (lineEdits (rows.map Row.content) formatted) =
      .ok result ∧ lines result = formatted := by
  by_cases nonempty : rows = []
  · subst nonempty
    exact lines_editText_of_nil present whole
  obtain ⟨front, last, rest, kept, new, added, rfl, rfl, paired, ended⟩ :=
    exists_common_split nonempty present
  rcases List.eq_nil_or_concat rest with rfl | ⟨middle, final, rfl⟩
  · have missing := getLast?_ne_of_missing arranged shown
    have read := lines_refilled_append arranged (List.cons_ne_nil last []) paired whole
      fun none => by simpa using missing none
    by_cases more : added = []
    · subst more
      rw [joinLines_singleton] at read
      exact ⟨_, editText_paired arranged paired, read⟩
    · obtain ⟨next, later, rfl⟩ := List.exists_cons_of_ne_nil more
      have regroup : kept ++ new :: next :: later = kept ++ [new] ++ next :: later := by simp
      rw [joinLines_cons_cons, List.append_assoc] at read
      refine ⟨_, ?_, read⟩
      rw [regroup]
      exact editText_grown arranged paired more
  · have none : added = [] := ended.resolve_left (by simp)
    subst none
    have regroup : front ++ last :: (middle ++ [final]) = (front ++ last :: middle) ++ [final] := by
      simp
    rw [List.concat_eq_append] at arranged shown ⊢
    have missing := getLast?_ne_of_missing (regroup ▸ arranged) (regroup ▸ shown)
    have read := lines_refilled_append arranged (List.cons_ne_nil last _) paired whole
      fun none => by simpa using missing none
    rw [joinLines_singleton] at read
    exact ⟨_, editText_shrunk arranged paired, read⟩

/-- The edits between the lines of a document and other lines are accepted and leave just these
lines. There must be some; each must be one line to the document; and if the document does not end
in a line feed the last one must not be empty, as nothing would mark it. -/
theorem lines_apply_lineEdits (buffer : Buffer) (formatted : List (List Char))
    (present : formatted ≠ [])
    (whole : ∀ line ∈ formatted, '\n' ∉ line ∧ line.getLast? ≠ some '\r')
    (shown : buffer.text = "" ∨ buffer.text.toList.getLast? = some '\n' ∨
      formatted.getLast? ≠ some []) :
    ∃ after, buffer.apply (lineEdits buffer.lines formatted) = .ok after ∧
      after.lines = formatted := by
  have shownText : buffer.text.toList = [] ∨ buffer.text.toList.getLast? = some '\n' ∨
      formatted.getLast? ≠ some [] :=
    shown.imp_left fun empty => by simp [empty]
  rw [← rowsText_rowsOf buffer.text.toList] at shownText
  obtain ⟨result, accepted, same⟩ :=
    lines_editText_lineEdits (arranged_rowsOf buffer.text.toList) present whole shownText
  rw [rowsText_rowsOf, ← lines_eq_content] at accepted
  exact ⟨_, Buffer.apply_ok_iff.mpr ⟨result, accepted, rfl⟩, by simpa [Buffer.lines] using same⟩

/-- Two edits start at the end of the last line here, since that line is empty. -/
theorem lines_apply_lineEdits_of_empty_last_line :
    let buffer : Buffer := { id := "a.cs", text := "a\r\n\n" }
    let formatted := [['b'], ['c'], [], ['d']]
    formatted ≠ [] ∧ (∀ line ∈ formatted, '\n' ∉ line ∧ line.getLast? ≠ some '\r') ∧
      buffer.text.toList.getLast? = some '\n' ∧
      ∃ after, buffer.apply (lineEdits buffer.lines formatted) = .ok after ∧
        after.lines = formatted := by
  intro buffer formatted
  have present : formatted ≠ [] := List.cons_ne_nil _ _
  have whole : ∀ line ∈ formatted, '\n' ∉ line ∧ line.getLast? ≠ some '\r' := by decide
  have lineFeed : buffer.text.toList.getLast? = some '\n' := by decide
  exact ⟨present, whole, lineFeed,
    lines_apply_lineEdits buffer formatted present whole (.inr (.inl lineFeed))⟩

end ConstructorAction.Layout
