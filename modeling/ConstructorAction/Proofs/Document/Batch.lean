import ConstructorAction.Proofs.Document.Offset
import ConstructorAction.Proofs.Sorting
import Mathlib.Data.List.Perm.Basic

namespace ConstructorAction.Document

open ConstructorAction.Text

/-!
A batch of edits as one substitution. The spans of a batch that is accepted do not overlap, and the
text after it is the text before it with every span replaced at once (`substitute`): the order of
the batch decides between insertions at one place and nothing else.
-/

/-- Two spans that do not overlap; they may touch. -/
def Span.Apart (left right : Span) : Prop :=
  left.stop ≤ right.start ∨ right.stop ≤ left.start

/-- A span that ends before another one starts, or where it starts. -/
def Span.Precedes (left right : Span) : Prop := left.stop ≤ right.start

theorem Span.Apart.symm {left right : Span} (apart : left.Apart right) : right.Apart left :=
  Or.symm apart

/-- The span that an edit stands for in a text. -/
structure TextEdit.Denotes (text : List Char) (edit : TextEdit) (span : Span) : Prop where
  start : offset? text edit.range.start = some span.start
  stop : offset? text edit.range.stop = some span.stop
  newText : span.newText = edit.newText.toList

theorem TextEdit.resolve_eq_ok_iff {text : List Char} {edit : TextEdit} {span : Span} :
    edit.resolve text = .ok span ↔ edit.Denotes text span ∧ span.start ≤ span.stop := by
  unfold TextEdit.resolve
  constructor
  · intro resolved
    split at resolved
    · contradiction
    · next start foundStart =>
        split at resolved
        · contradiction
        · next stop foundStop =>
            split at resolved
            · contradiction
            · next directed =>
                cases resolved
                exact ⟨⟨foundStart, foundStop, rfl⟩, Nat.le_of_not_lt directed⟩
  · rintro ⟨⟨start, stop, newText⟩, directed⟩
    simp [start, stop, ← newText, Nat.not_lt.mpr directed]

theorem resolveAll_eq_ok_iff {text : List Char} {edits : List TextEdit} {spans : List Span} :
    resolveAll text edits = .ok spans ↔
      List.Forall₂ (TextEdit.Denotes text) edits spans ∧
        ∀ span ∈ spans, span.start ≤ span.stop := by
  induction edits generalizing spans with
  | nil =>
      simp only [resolveAll, Except.ok.injEq, List.forall₂_nil_left_iff]
      constructor
      · rintro rfl
        simp
      · exact fun empty => empty.1.symm
  | cons edit later ih =>
      constructor
      · intro resolved
        unfold resolveAll at resolved
        split at resolved
        · contradiction
        · next span first =>
            split at resolved
            · contradiction
            · next rest others =>
                cases resolved
                obtain ⟨denotes, directed⟩ := TextEdit.resolve_eq_ok_iff.mp first
                obtain ⟨allDenote, allDirected⟩ := ih.mp others
                exact ⟨.cons denotes allDenote, List.forall_mem_cons.mpr ⟨directed, allDirected⟩⟩
      · rintro ⟨denotes, directed⟩
        cases denotes with
        | cons first rest =>
            obtain ⟨headDirected, tailDirected⟩ := List.forall_mem_cons.mp directed
            simp [resolveAll, TextEdit.resolve_eq_ok_iff.mpr ⟨first, headDirected⟩,
              ih.mpr ⟨rest, tailDirected⟩]

theorem TextEdit.Denotes.stop_le {text : List Char} {edit : TextEdit} {span : Span}
    (denotes : edit.Denotes text span) : span.stop ≤ text.length :=
  offset?_le denotes.stop

theorem Span.ordered_iff {left right : Span} : left.ordered right = true ↔
    left.start < right.start ∨ left.start = right.start ∧ left.stop ≤ right.stop := by
  simp [Span.ordered]

theorem sorts_ordered : Sorts Span.ordered where
  trans a b c first second := by
    rw [Span.ordered_iff] at *
    omega
  total a b := by
    rw [Bool.or_eq_true, Span.ordered_iff, Span.ordered_iff]
    omega

theorem pairwise_mergeSort_ordered (spans : List Span) :
    (spans.mergeSort Span.ordered).Pairwise fun left right => left.ordered right = true :=
  List.pairwise_mergeSort sorts_ordered.trans sorts_ordered.total spans

/-- Neighbours are enough: spans between two others keep these apart. -/
theorem separated_iff {spans : List Span} (directed : ∀ span ∈ spans, span.start ≤ span.stop) :
    separated spans = true ↔ spans.Pairwise Span.Precedes := by
  induction spans with
  | nil => simp [separated]
  | cons left later ih =>
      cases later with
      | nil => simp [separated]
      | cons right later =>
          have rest := ih fun span member => directed span (List.mem_cons_of_mem left member)
          simp only [separated, Bool.and_eq_true, decide_eq_true_eq, rest]
          constructor
          · rintro ⟨first, pairwise⟩
            refine .cons (fun span member => ?_) pairwise
            rcases List.mem_cons.mp member with rfl | inLater
            · exact first
            · have width := directed right (by simp)
              have gap := List.rel_of_pairwise_cons pairwise inLater
              exact Nat.le_trans first (Nat.le_trans width gap)
          · intro pairwise
            exact ⟨List.rel_of_pairwise_cons pairwise List.mem_cons_self, pairwise.of_cons⟩

/-- Spans that follow each other are in order; a touching empty span counts as the earlier one. -/
theorem Span.Precedes.ordered {left right : Span} (precedes : left.Precedes right)
    (leftDirected : left.start ≤ left.stop) (rightDirected : right.start ≤ right.stop) :
    left.ordered right = true := by
  rw [Span.ordered_iff]
  unfold Span.Precedes at precedes
  omega

theorem Span.Apart.precedes {left right : Span} (apart : left.Apart right)
    (order : left.ordered right = true) (directed : right.start ≤ right.stop) :
    left.Precedes right := by
  rw [Span.ordered_iff] at order
  unfold Span.Precedes
  rcases apart with before | after <;> omega

theorem pairwise_precedes_mergeSort_iff {spans : List Span}
    (directed : ∀ span ∈ spans, span.start ≤ span.stop) :
    (spans.mergeSort Span.ordered).Pairwise Span.Precedes ↔ spans.Pairwise Span.Apart := by
  have shuffled := List.mergeSort_perm spans Span.ordered
  rw [← shuffled.pairwise_iff fun {_ _} => Span.Apart.symm]
  constructor
  · exact List.Pairwise.imp fun precedes => .inl precedes
  · intro apart
    refine (apart.and (pairwise_mergeSort_ordered spans)).imp_of_mem ?_
    rintro left right - rightMember ⟨apart, order⟩
    exact apart.precedes order (directed right (shuffled.mem_iff.mp rightMember))

theorem editText_eq_ok_iff {text result : List Char} {edits : List TextEdit} :
    editText text edits = .ok result ↔
      ∃ spans, resolveAll text edits = .ok spans ∧ spans.Pairwise Span.Apart ∧
        result = splice 0 text (spans.mergeSort Span.ordered) := by
  unfold editText
  cases resolved : resolveAll text edits with
  | error reason => simp
  | ok spans =>
      have directed := (resolveAll_eq_ok_iff.mp resolved).2
      have accepted : separated (spans.mergeSort Span.ordered) = true ↔
          spans.Pairwise Span.Apart :=
        (separated_iff fun span member => directed span (List.mem_mergeSort.mp member)).trans
          (pairwise_precedes_mergeSort_iff directed)
      by_cases apart : spans.Pairwise Span.Apart
      · simp [accepted.mpr apart, apart, eq_comm]
      · simp [mt accepted.mp apart, apart]

/-- What is written at an offset: the insertions there, as they are listed, and then the new text
of the span that starts there. -/
def writtenAt (spans : List Span) (offset : Nat) : List Char :=
  (spans.filter fun span => span.start = offset && span.stop = offset).flatMap Span.newText ++
    (spans.filter fun span => span.start = offset && offset < span.stop).flatMap Span.newText

/-- Whether the character at an offset is inside a span. -/
def coveredAt (spans : List Span) (offset : Nat) : Bool :=
  spans.any fun span => span.start ≤ offset && offset < span.stop

/-- A text with all spans replaced at once. Offsets are those of the text before; `offset` is that
of the first character given. -/
def substitute (spans : List Span) (offset : Nat) : List Char → List Char
  | [] => writtenAt spans offset
  | c :: rest =>
      writtenAt spans offset ++ (if coveredAt spans offset then [] else [c]) ++
        substitute spans (offset + 1) rest

theorem writtenAt_of_lt {spans : List Span} {offset : Nat}
    (ahead : ∀ span ∈ spans, offset < span.start) : writtenAt spans offset = [] := by
  have none : ∀ span ∈ spans, ¬ span.start = offset := fun span member same => by
    have later := ahead span member
    omega
  have insertions : (spans.filter fun span => span.start = offset && span.stop = offset) = [] :=
    List.filter_eq_nil_iff.mpr fun span member => by simp [none span member]
  have replacements : (spans.filter fun span => span.start = offset && offset < span.stop) = [] :=
    List.filter_eq_nil_iff.mpr fun span member => by simp [none span member]
  simp [writtenAt, insertions, replacements]

theorem coveredAt_of_lt {spans : List Span} {offset : Nat}
    (ahead : ∀ span ∈ spans, offset < span.start) : coveredAt spans offset = false := by
  simp only [coveredAt, List.any_eq_false, Bool.and_eq_true, decide_eq_true_eq, not_and]
  intro span member started
  have later := ahead span member
  omega

@[simp] theorem substitute_nil (offset : Nat) (text : List Char) :
    substitute [] offset text = text := by
  induction text generalizing offset with
  | nil => rfl
  | cons c rest ih => simp [substitute, writtenAt, coveredAt, ih]

/-- Text in front of all spans stays. -/
theorem substitute_append {spans : List Span} {offset : Nat} {front : List Char}
    (ahead : ∀ span ∈ spans, offset + front.length ≤ span.start) (rest : List Char) :
    substitute spans offset (front ++ rest) =
      front ++ substitute spans (offset + front.length) rest := by
  induction front generalizing offset with
  | nil => rfl
  | cons c front ih =>
      have notYet : ∀ span ∈ spans, offset < span.start := fun span member => by
        have later := ahead span member
        simp only [List.length_cons] at later
        omega
      have further : substitute spans (offset + 1) (front ++ rest) =
          front ++ substitute spans (offset + 1 + front.length) rest :=
        ih fun span member => by
          have later := ahead span member
          simp only [List.length_cons] at later
          omega
      simp only [List.cons_append, substitute, writtenAt_of_lt notYet, coveredAt_of_lt notYet,
        further, List.length_cons]
      simp [Nat.add_comm, Nat.add_left_comm]

/-- A span that the text given starts behind does not count any more. -/
theorem substitute_cons_of_lt {span : Span} {later : List Span} {offset : Nat}
    (started : span.start < offset) (passed : span.stop ≤ offset) (text : List Char) :
    substitute (span :: later) offset text = substitute later offset text := by
  have written : writtenAt (span :: later) offset = writtenAt later offset := by
    simp [writtenAt, Nat.ne_of_lt started]
  have covered : coveredAt (span :: later) offset = coveredAt later offset := by
    simp [coveredAt, Nat.not_lt.mpr passed]
  cases text with
  | nil => exact written
  | cons c rest =>
      have further : substitute (span :: later) (offset + 1) rest =
          substitute later (offset + 1) rest :=
        substitute_cons_of_lt (by omega) (by omega) rest
      simp only [substitute, written, covered, further]

/-- The rest of a span that was entered is left out. -/
theorem substitute_inside {span : Span} {later : List Span} {offset : Nat} {inner : List Char}
    (entered : span.start < offset) (reach : offset + inner.length = span.stop)
    (behind : ∀ other ∈ later, span.stop ≤ other.start) (rest : List Char) :
    substitute (span :: later) offset (inner ++ rest) = substitute later span.stop rest := by
  induction inner generalizing offset with
  | nil =>
      have same : offset = span.stop := by simpa using reach
      subst same
      exact substitute_cons_of_lt entered (Nat.le_refl _) rest
  | cons c inner ih =>
      simp only [List.length_cons] at reach
      have ahead : ∀ other ∈ later, offset < other.start := fun other member => by
        have gap := behind other member
        omega
      have written : writtenAt (span :: later) offset = [] := by
        have apart : ¬ span.start = offset := by omega
        have tail := writtenAt_of_lt ahead
        simpa [writtenAt, apart] using tail
      have covered : coveredAt (span :: later) offset = true := by
        simp [coveredAt, Nat.le_of_lt entered, show offset < span.stop by omega]
      have further : substitute (span :: later) (offset + 1) (inner ++ rest) =
          substitute later span.stop rest :=
        ih (by omega) (by omega)
      simp [substitute, written, covered, further]

/-- The first span is written in place of the text that it covers. -/
theorem substitute_span {span : Span} {later : List Span} {inner : List Char}
    (width : span.start + inner.length = span.stop)
    (behind : ∀ other ∈ later, span.stop ≤ other.start) (rest : List Char) :
    substitute (span :: later) span.start (inner ++ rest) =
      span.newText ++ substitute later span.stop rest := by
  cases inner with
  | nil =>
      have empty : span.start = span.stop := by simpa using width
      have written : writtenAt (span :: later) span.start =
          span.newText ++ writtenAt later span.start := by
        simp [writtenAt, empty]
      rw [List.nil_append, ← empty]
      cases rest with
      | nil => exact written
      | cons c rest =>
          have covered : coveredAt (span :: later) span.start = coveredAt later span.start := by
            simp [coveredAt, empty]
          have further : substitute (span :: later) (span.start + 1) rest =
              substitute later (span.start + 1) rest :=
            substitute_cons_of_lt (by omega) (by omega) rest
          simp only [substitute, written, covered, further, List.append_assoc]
  | cons c inner =>
      simp only [List.length_cons] at width
      have ahead : ∀ other ∈ later, span.start < other.start := fun other member => by
        have gap := behind other member
        omega
      have written : writtenAt (span :: later) span.start = span.newText := by
        have notEmpty : ¬ span.stop = span.start := by omega
        have tail := writtenAt_of_lt ahead
        simp only [writtenAt, List.append_eq_nil_iff] at tail
        simp [writtenAt, notEmpty, show span.start < span.stop by omega, tail.1, tail.2]
      have covered : coveredAt (span :: later) span.start = true := by
        simp [coveredAt, show span.start < span.stop by omega]
      have further : substitute (span :: later) (span.start + 1) (inner ++ rest) =
          substitute later span.stop rest :=
        substitute_inside (by omega) (by omega) behind rest
      simp [substitute, written, covered, further]

/-- Writing the new texts one behind the other is substituting them all at once. -/
theorem splice_eq_substitute {passed : Nat} {text : List Char} {spans : List Span}
    (following : spans.Pairwise Span.Precedes)
    (bounds : ∀ span ∈ spans, passed ≤ span.start ∧ span.start ≤ span.stop ∧
      span.stop ≤ passed + text.length) :
    splice passed text spans = substitute spans passed text := by
  induction spans generalizing passed text with
  | nil => simp [splice]
  | cons span later ih =>
      obtain ⟨fromPassed, directed, inText⟩ := bounds span List.mem_cons_self
      have behind : ∀ other ∈ later, span.stop ≤ other.start :=
        fun other member => List.rel_of_pairwise_cons following member
      let front := text.take (span.start - passed)
      let inner := (text.drop (span.start - passed)).take (span.stop - span.start)
      let rest := text.drop (span.stop - passed)
      have frontLength : passed + front.length = span.start := by
        simp only [front, List.length_take]
        omega
      have innerLength : span.start + inner.length = span.stop := by
        simp only [inner, List.length_take, List.length_drop]
        omega
      have whole : text = front ++ (inner ++ rest) := by
        have behindInner :
            rest = (text.drop (span.start - passed)).drop (span.stop - span.start) := by
          simp only [rest, List.drop_drop]
          congr 1
          omega
        simp only [front, inner, behindInner, List.take_append_drop]
      have first : ∀ other ∈ span :: later, passed + front.length ≤ other.start := by
        intro other member
        rw [frontLength]
        rcases List.mem_cons.mp member with rfl | inLater
        · exact Nat.le_refl _
        · exact Nat.le_trans directed (behind other inLater)
      have continued : splice span.stop rest later = substitute later span.stop rest :=
        ih following.of_cons fun other member => by
          have bound := bounds other (List.mem_cons_of_mem span member)
          have gap := behind other member
          simp only [rest, List.length_drop]
          omega
      calc splice passed text (span :: later)
          = front ++ span.newText ++ splice span.stop rest later := rfl
        _ = front ++ (span.newText ++ substitute later span.stop rest) := by
            rw [continued, List.append_assoc]
        _ = front ++ substitute (span :: later) span.start (inner ++ rest) := by
            rw [substitute_span innerLength behind]
        _ = substitute (span :: later) passed (front ++ (inner ++ rest)) := by
            rw [substitute_append first, frontLength]
        _ = substitute (span :: later) passed text := by rw [← whole]

theorem substitute_congr {spans others : List Span}
    (written : ∀ offset, writtenAt spans offset = writtenAt others offset)
    (covered : ∀ offset, coveredAt spans offset = coveredAt others offset)
    (offset : Nat) (text : List Char) :
    substitute spans offset text = substitute others offset text := by
  induction text generalizing offset with
  | nil => exact written offset
  | cons c rest ih => simp only [substitute, written, covered, ih]

theorem coveredAt_of_perm {spans others : List Span} (shuffled : spans.Perm others)
    (offset : Nat) : coveredAt spans offset = coveredAt others offset :=
  shuffled.any_eq

/-- At most one span that covers something starts at an offset. -/
theorem pairwise_starting {spans : List Span} (apart : spans.Pairwise Span.Apart) (offset : Nat) :
    (spans.filter fun span => span.start = offset && offset < span.stop).Pairwise
      fun _ _ => False := by
  refine (apart.filter _).imp_of_mem ?_
  intro left right leftMember rightMember between
  simp only [List.mem_filter, Bool.and_eq_true, decide_eq_true_eq] at leftMember rightMember
  rcases between with before | after <;> omega

theorem writtenAt_mergeSort {spans : List Span} (apart : spans.Pairwise Span.Apart)
    (offset : Nat) : writtenAt (spans.mergeSort Span.ordered) offset = writtenAt spans offset := by
  have insertions : (spans.filter fun span => span.start = offset && span.stop = offset).Pairwise
      fun left right => left.ordered right = true := by
    apply List.pairwise_of_forall_mem_list
    intro left leftMember right rightMember
    simp only [List.mem_filter, Bool.and_eq_true, decide_eq_true_eq] at leftMember rightMember
    rw [Span.ordered_iff]
    omega
  have replacements :
      (spans.filter fun span => span.start = offset && offset < span.stop).Pairwise
        fun left right => left.ordered right = true :=
    (pairwise_starting apart offset).imp False.elim
  simp only [writtenAt, sorts_ordered.filter_mergeSort insertions,
    sorts_ordered.filter_mergeSort replacements]

/-- Sorting does not change what a batch amounts to. -/
theorem substitute_mergeSort {spans : List Span} (apart : spans.Pairwise Span.Apart)
    (offset : Nat) (text : List Char) :
    substitute (spans.mergeSort Span.ordered) offset text = substitute spans offset text :=
  substitute_congr (writtenAt_mergeSort apart)
    (coveredAt_of_perm (List.mergeSort_perm spans Span.ordered)) offset text

theorem filter_eq_of_perm {spans others : List Span} {chosen : Span → Bool}
    (shuffled : spans.Perm others) (single : (spans.filter chosen).Pairwise fun _ _ => False) :
    spans.filter chosen = others.filter chosen := by
  have chosenShuffled := shuffled.filter chosen
  have othersSingle := (chosenShuffled.pairwise_iff fun {_ _} impossible => impossible).mp single
  exact chosenShuffled.eq_of_pairwise (fun _ _ _ _ impossible _ => impossible.elim) single
    othersSingle

/-- Two spans that are not both empty at one place. -/
def Span.InsertApart (left right : Span) : Prop :=
  ¬ (left.start = left.stop ∧ right.start = right.stop ∧ left.start = right.start)

/-- Without two insertions at one place the order of a batch does not matter. -/
theorem substitute_of_perm {spans others : List Span} (shuffled : spans.Perm others)
    (apart : spans.Pairwise Span.Apart) (insertions : spans.Pairwise Span.InsertApart)
    (offset : Nat) (text : List Char) :
    substitute spans offset text = substitute others offset text := by
  have single (place : Nat) :
      (spans.filter fun span => span.start = place && span.stop = place).Pairwise
        fun _ _ => False := by
    refine (insertions.filter _).imp_of_mem ?_
    intro left right leftMember rightMember different
    simp only [List.mem_filter, Bool.and_eq_true, decide_eq_true_eq] at leftMember rightMember
    exact different (by omega)
  have written (place : Nat) : writtenAt spans place = writtenAt others place := by
    simp only [writtenAt, filter_eq_of_perm shuffled (single place),
      filter_eq_of_perm shuffled (pairwise_starting apart place)]
  exact substitute_congr written (coveredAt_of_perm shuffled) offset text

/-- Text in front of all spans is not touched. -/
theorem splice_append {passed : Nat} {front : List Char} {spans : List Span}
    (ahead : ∀ span ∈ spans, passed + front.length ≤ span.start ∧ span.start ≤ span.stop)
    (rest : List Char) :
    splice passed (front ++ rest) spans = front ++ splice (passed + front.length) rest spans := by
  cases spans with
  | nil => rfl
  | cons span later =>
      obtain ⟨first, directed⟩ := ahead span List.mem_cons_self
      have whole : front.take (span.start - passed) = front := List.take_of_length_le (by omega)
      have gone : front.drop (span.stop - passed) = [] := List.drop_of_length_le (by omega)
      simp [splice, List.take_append, List.drop_append, whole, gone, Nat.sub_sub]

def Span.replaceIn (span : Span) (text : List Char) : List Char :=
  text.take span.start ++ span.newText ++ text.drop span.stop

/-- Replacing the spans one by one from the last to the first gives the same text: what is replaced
behind a span moves none of the offsets before it. -/
theorem splice_eq_foldr_replaceIn {text : List Char} {spans : List Span}
    (following : spans.Pairwise Span.Precedes)
    (bounds : ∀ span ∈ spans, span.start ≤ span.stop ∧ span.stop ≤ text.length) :
    splice 0 text spans = spans.foldr Span.replaceIn text := by
  induction spans with
  | nil => rfl
  | cons span later ih =>
      obtain ⟨directed, inText⟩ := bounds span List.mem_cons_self
      have rest := ih following.of_cons fun other member =>
        bounds other (List.mem_cons_of_mem span member)
      have reach : (text.take span.stop).length = span.stop := by
        rw [List.length_take]
        omega
      have untouched : splice 0 text later =
          text.take span.stop ++ splice span.stop (text.drop span.stop) later := by
        have ahead : ∀ other ∈ later,
            0 + (text.take span.stop).length ≤ other.start ∧ other.start ≤ other.stop := by
          intro other member
          have gap := List.rel_of_pairwise_cons following member
          have bound := bounds other (List.mem_cons_of_mem span member)
          rw [reach, Nat.zero_add]
          exact ⟨gap, bound.1⟩
        have moved := splice_append ahead (text.drop span.stop)
        simpa [reach] using moved
      have front : (splice 0 text later).take span.start = text.take span.start := by
        rw [untouched, List.take_append_of_le_length (by omega), List.take_take,
          Nat.min_eq_left directed]
      have back : (splice 0 text later).drop span.stop =
          splice span.stop (text.drop span.stop) later := by
        rw [untouched]
        exact List.drop_left' reach
      rw [List.foldr_cons, ← rest, Span.replaceIn, front, back]
      rfl

theorem bounds_of_denotes {text : List Char} {edits : List TextEdit} {spans : List Span}
    (denotes : List.Forall₂ (TextEdit.Denotes text) edits spans) :
    ∀ span ∈ spans, span.stop ≤ text.length := by
  induction denotes with
  | nil => simp
  | cons first _ ih => exact List.forall_mem_cons.mpr ⟨first.stop_le, ih⟩

/-- A batch is accepted exactly if its spans are in the text, directed and apart, and then its text
is the substitution of all of them. -/
theorem editText_eq_ok_iff_substitute {text result : List Char} {edits : List TextEdit} :
    editText text edits = .ok result ↔
      ∃ spans, List.Forall₂ (TextEdit.Denotes text) edits spans ∧
        (∀ span ∈ spans, span.start ≤ span.stop) ∧ spans.Pairwise Span.Apart ∧
        result = substitute spans 0 text := by
  have spliced {spans : List Span} (denotes : List.Forall₂ (TextEdit.Denotes text) edits spans)
      (directed : ∀ span ∈ spans, span.start ≤ span.stop) (apart : spans.Pairwise Span.Apart) :
      splice 0 text (spans.mergeSort Span.ordered) = substitute spans 0 text := by
    rw [← substitute_mergeSort apart]
    refine splice_eq_substitute ((pairwise_precedes_mergeSort_iff directed).mpr apart) ?_
    intro span member
    have inSpans := List.mem_mergeSort.mp member
    have inText := bounds_of_denotes denotes span inSpans
    exact ⟨Nat.zero_le _, directed span inSpans, by omega⟩
  rw [editText_eq_ok_iff]
  constructor
  · rintro ⟨spans, resolved, apart, rfl⟩
    obtain ⟨denotes, directed⟩ := resolveAll_eq_ok_iff.mp resolved
    exact ⟨spans, denotes, directed, apart, spliced denotes directed apart⟩
  · rintro ⟨spans, denotes, directed, apart, rfl⟩
    exact ⟨spans, resolveAll_eq_ok_iff.mpr ⟨denotes, directed⟩, apart,
      (spliced denotes directed apart).symm⟩

/-- A batch whose spans follow each other as they are listed. -/
theorem editText_of_precedes {text : List Char} {edits : List TextEdit} {spans : List Span}
    (resolved : resolveAll text edits = .ok spans) (following : spans.Pairwise Span.Precedes) :
    editText text edits = .ok (splice 0 text spans) := by
  have directed := (resolveAll_eq_ok_iff.mp resolved).2
  have inOrder : spans.Pairwise fun left right => left.ordered right = true :=
    following.imp_of_mem fun leftMember rightMember precedes =>
      precedes.ordered (directed _ leftMember) (directed _ rightMember)
  have apart : spans.Pairwise Span.Apart := following.imp fun precedes => .inl precedes
  exact editText_eq_ok_iff.mpr
    ⟨spans, resolved, apart, by rw [List.mergeSort_of_pairwise inOrder]⟩

/-- A single insertion is accepted exactly if its position is in the text. -/
theorem editText_insertion_eq_ok_iff {text result : List Char} {position : Position}
    {newText : String} : editText text [.insertion position newText] = .ok result ↔
      ∃ offset, offset? text position = some offset ∧
        result = text.take offset ++ newText.toList ++ text.drop offset := by
  have written (offset : Nat) : splice 0 text [⟨offset, offset, newText.toList⟩] =
      text.take offset ++ newText.toList ++ text.drop offset := by
    simp [splice]
  constructor
  · intro accepted
    obtain ⟨spans, resolved, _, rfl⟩ := editText_eq_ok_iff.mp accepted
    obtain ⟨denotes, _⟩ := resolveAll_eq_ok_iff.mp resolved
    obtain ⟨⟨start, stop, new⟩, _, first, rest, rfl⟩ := List.forall₂_cons_left_iff.mp denotes
    obtain rfl := List.forall₂_nil_left_iff.mp rest
    obtain rfl : start = stop := Option.some.inj (first.start.symm.trans first.stop)
    obtain rfl : new = newText.toList := first.newText
    refine ⟨start, first.start, ?_⟩
    rw [List.mergeSort_singleton, written]
  · rintro ⟨offset, found, rfl⟩
    have resolved : resolveAll text [.insertion position newText] =
        .ok [⟨offset, offset, newText.toList⟩] := by
      refine resolveAll_eq_ok_iff.mpr ⟨.cons ⟨found, found, rfl⟩ .nil, ?_⟩
      simp
    rw [editText_of_precedes resolved (List.pairwise_singleton _ _), written]

/-- Two edits that are not both insertions at one position. -/
def TextEdit.InsertApart (left right : TextEdit) : Prop :=
  ¬ (left.range.isEmpty = true ∧ right.range.isEmpty = true ∧
    left.range.start = right.range.start)

theorem TextEdit.InsertApart.denotes {text : List Char} {left right : TextEdit}
    {leftSpan rightSpan : Span} (apart : left.InsertApart right)
    (leftDenotes : left.Denotes text leftSpan) (rightDenotes : right.Denotes text rightSpan) :
    leftSpan.InsertApart rightSpan := by
  rintro ⟨leftEmpty, rightEmpty, same⟩
  refine apart ⟨Range.isEmpty_iff.mpr ?_, Range.isEmpty_iff.mpr ?_, ?_⟩
  · exact offset?_injective leftDenotes.start (leftEmpty ▸ leftDenotes.stop)
  · exact offset?_injective rightDenotes.start (rightEmpty ▸ rightDenotes.stop)
  · exact offset?_injective leftDenotes.start (same ▸ rightDenotes.start)

theorem pairwise_insertApart {text : List Char} {edits : List TextEdit} {spans : List Span}
    (denotes : List.Forall₂ (TextEdit.Denotes text) edits spans)
    (apart : edits.Pairwise TextEdit.InsertApart) : spans.Pairwise Span.InsertApart := by
  induction denotes with
  | nil => exact .nil
  | @cons edit span later rest first others ih =>
      refine .cons (fun other member => ?_) (ih apart.of_cons)
      obtain ⟨place, inRest, rfl⟩ := List.mem_iff_getElem.mp member
      have inLater : place < later.length := others.length_eq ▸ inRest
      have between := List.rel_of_pairwise_cons apart (List.getElem_mem inLater)
      exact between.denotes first (others.get inLater inRest)

/-- The spans of a batch in another order. -/
theorem denotes_of_perm {text : List Char} {edits others : List TextEdit} {spans : List Span}
    (shuffled : others.Perm edits) (denotes : List.Forall₂ (TextEdit.Denotes text) edits spans) :
    ∃ otherSpans, List.Forall₂ (TextEdit.Denotes text) others otherSpans ∧
      otherSpans.Perm spans :=
  List.perm_comp_forall₂ shuffled denotes

theorem editText_ok_of_perm {text result : List Char} {edits others : List TextEdit}
    (shuffled : others.Perm edits) (accepted : editText text edits = .ok result) :
    ∃ otherResult, editText text others = .ok otherResult ∧
      (edits.Pairwise TextEdit.InsertApart → otherResult = result) := by
  obtain ⟨spans, denotes, directed, apart, rfl⟩ := editText_eq_ok_iff_substitute.mp accepted
  obtain ⟨otherSpans, otherDenotes, spansShuffled⟩ := denotes_of_perm shuffled denotes
  have otherDirected : ∀ span ∈ otherSpans, span.start ≤ span.stop := fun span member =>
    directed span (spansShuffled.mem_iff.mp member)
  have otherApart := (spansShuffled.pairwise_iff fun {_ _} => Span.Apart.symm).mpr apart
  refine ⟨substitute otherSpans 0 text, editText_eq_ok_iff_substitute.mpr
    ⟨otherSpans, otherDenotes, otherDirected, otherApart, rfl⟩, fun insertions => ?_⟩
  exact (substitute_of_perm spansShuffled.symm apart (pairwise_insertApart denotes insertions)
    0 text).symm

/-- Applying a batch replaces the ranges of its edits in the text before it, all at once. It is
accepted exactly if every position is in the text, no range ends before it starts and no two
ranges overlap. Its order decides between insertions at one position and nothing else. -/
theorem Buffer.apply_simultaneous (buffer : Buffer) (edits : List TextEdit) :
    (∀ after, buffer.apply edits = .ok after ↔
      ∃ spans, List.Forall₂ (TextEdit.Denotes buffer.text.toList) edits spans ∧
        (∀ span ∈ spans, span.start ≤ span.stop) ∧ spans.Pairwise Span.Apart ∧
        after = { buffer with
          text := String.ofList (substitute spans 0 buffer.text.toList)
          version := buffer.version + 1 }) ∧
    ∀ others, others.Perm edits →
      ((∃ after, buffer.apply others = .ok after) ↔ ∃ after, buffer.apply edits = .ok after) ∧
      (edits.Pairwise TextEdit.InsertApart →
        ∀ after, buffer.apply edits = .ok after → buffer.apply others = .ok after) := by
  have shuffle {edits others : List TextEdit} (shuffled : others.Perm edits) {after : Buffer}
      (applied : buffer.apply edits = .ok after) :
      ∃ otherAfter, buffer.apply others = .ok otherAfter ∧
        (edits.Pairwise TextEdit.InsertApart → otherAfter = after) := by
    obtain ⟨text, accepted, rfl⟩ := Buffer.apply_ok_iff.mp applied
    obtain ⟨otherText, otherAccepted, same⟩ := editText_ok_of_perm shuffled accepted
    exact ⟨_, Buffer.apply_ok_iff.mpr ⟨otherText, otherAccepted, rfl⟩, fun insertions => by
      rw [same insertions]⟩
  refine ⟨fun after => ?_, fun others shuffled => ⟨⟨?_, ?_⟩, ?_⟩⟩
  · rw [Buffer.apply_ok_iff]
    constructor
    · rintro ⟨text, accepted, rfl⟩
      obtain ⟨spans, denotes, directed, apart, rfl⟩ := editText_eq_ok_iff_substitute.mp accepted
      exact ⟨spans, denotes, directed, apart, rfl⟩
    · rintro ⟨spans, denotes, directed, apart, rfl⟩
      exact ⟨_, editText_eq_ok_iff_substitute.mpr ⟨spans, denotes, directed, apart, rfl⟩, rfl⟩
  · rintro ⟨after, applied⟩
    obtain ⟨back, accepted, _⟩ := shuffle shuffled.symm applied
    exact ⟨back, accepted⟩
  · rintro ⟨after, applied⟩
    obtain ⟨other, accepted, _⟩ := shuffle shuffled applied
    exact ⟨other, accepted⟩
  · intro insertions after applied
    obtain ⟨other, accepted, same⟩ := shuffle shuffled applied
    rw [accepted, same insertions]

/-- An insertion at the start of a replaced range goes before the new text, wherever it is
listed. -/
theorem Buffer.apply_simultaneous_of_touching :
    let buffer : Buffer := { id := "a.cs", text := "abc" }
    let replacement : TextEdit := ⟨⟨⟨0, 0⟩, ⟨0, 2⟩⟩, "x"⟩
    let insertion : TextEdit := .insertion ⟨0, 0⟩ "y"
    [insertion, replacement].Perm [replacement, insertion] ∧
      [replacement, insertion].Pairwise TextEdit.InsertApart ∧
      buffer.apply [replacement, insertion] = .ok { id := "a.cs", text := "yxc", version := 1 } ∧
      buffer.apply [insertion, replacement] =
        .ok { id := "a.cs", text := "yxc", version := 1 } := by
  intro buffer replacement insertion
  have shuffled : [insertion, replacement].Perm [replacement, insertion] := .swap _ _ _
  have insertions : [replacement, insertion].Pairwise TextEdit.InsertApart := by
    simp [TextEdit.InsertApart, replacement, insertion, Range.isEmpty]
  have whole := Buffer.apply_simultaneous buffer [replacement, insertion]
  have applied : buffer.apply [replacement, insertion] =
      .ok { id := "a.cs", text := "yxc", version := 1 } := by
    let spans : List Span := [⟨0, 2, ['x']⟩, ⟨0, 0, ['y']⟩]
    have denotes : List.Forall₂ (TextEdit.Denotes buffer.text.toList)
        [replacement, insertion] spans :=
      .cons ⟨by decide +kernel, by decide +kernel, by decide⟩
        (.cons ⟨by decide +kernel, by decide +kernel, by decide⟩ .nil)
    have directed : ∀ span ∈ spans, span.start ≤ span.stop := by decide
    have apart : spans.Pairwise Span.Apart := by
      simp [spans, Span.Apart]
    exact (whole.1 _).mpr ⟨spans, denotes, directed, apart, by decide +kernel⟩
  exact ⟨shuffled, insertions, applied, (whole.2 _ shuffled).2 insertions _ applied⟩

end ConstructorAction.Document
