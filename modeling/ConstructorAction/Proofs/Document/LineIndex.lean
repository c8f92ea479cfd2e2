import ConstructorAction.Proofs.Document.Batch
import ConstructorAction.Text.Utf8

namespace ConstructorAction.Document

open ConstructorAction.Text

/-!
The bytes at which the lines of a text start. The index of a text has one entry for each of its
pieces (`lineStartsOf_eq`), at the bytes in front of the piece (`exists_stands`).
-/

def byteLength (text : List Char) : Nat := (toUtf8 text).length

@[simp] theorem byteLength_nil : byteLength [] = 0 := rfl

@[simp] theorem byteLength_append (front back : List Char) :
    byteLength (front ++ back) = byteLength front + byteLength back := by
  simp [byteLength, toUtf8]

theorem byteLength_cons (c : Char) (rest : List Char) :
    byteLength (c :: rest) = c.utf8Size + byteLength rest := by
  simp [byteLength, toUtf8, String.length_utf8EncodeChar]

theorem length_le_byteLength (text : List Char) : text.length ≤ byteLength text := by
  induction text with
  | nil => exact Nat.le_refl 0
  | cons c rest ih =>
      have size := c.utf8Size_pos
      rw [byteLength_cons, List.length_cons]
      omega

/-- A text before and from a byte on, which starts a character or ends the text. -/
def cutAt : Nat → List Char → List Char × List Char
  | 0, text => ([], text)
  | _ + 1, [] => ([], [])
  | offset + 1, c :: rest =>
      let (front, back) := cutAt (offset + 1 - c.utf8Size) rest
      (c :: front, back)

theorem cutAt_append (front back : List Char) :
    cutAt (byteLength front) (front ++ back) = (front, back) := by
  induction front with
  | nil => simp [cutAt]
  | cons c rest ih =>
      obtain ⟨size, same⟩ := Nat.exists_eq_add_of_lt c.utf8Size_pos
      have bytes : byteLength (c :: rest) = size + byteLength rest + 1 := by
        rw [byteLength_cons]
        omega
      have left : size + byteLength rest + 1 - c.utf8Size = byteLength rest := by omega
      rw [bytes, List.cons_append, cutAt, left, ih]

/-- The byte after each line feed; `offset` is that of the first byte given. -/
def lineStartsFrom (offset : Nat) : List UInt8 → List Nat
  | [] => []
  | byte :: later =>
      if byte = 10 then (offset + 1) :: lineStartsFrom (offset + 1) later
      else lineStartsFrom (offset + 1) later

def lineStartsOf (text : List Char) : List Nat := 0 :: lineStartsFrom 0 (toUtf8 text)

theorem lineFeed_ne_ofNat {n : Nat} (other : n % 256 ≠ 10) : (10 : UInt8) ≠ UInt8.ofNat n := by
  intro same
  have code := congrArg UInt8.toNat same
  rw [UInt8.toNat_ofNat'] at code
  exact other code.symm

/-- Every byte of a character of several bytes has its first bit set. -/
theorem lineFeed_notMem_utf8 {c : Char} (other : c ≠ '\n') : 10 ∉ String.utf8EncodeChar c := by
  have differ : c.val.toNat ≠ 10 := fun same => other (Char.ext (UInt32.toNat_inj.mp same))
  unfold String.utf8EncodeChar
  dsimp only
  generalize c.val.toNat = code at differ
  split
  · next small =>
      rw [List.mem_singleton]
      exact lineFeed_ne_ofNat (by omega)
  · split
    · simp only [List.mem_cons, List.not_mem_nil, or_false, not_or]
      exact ⟨lineFeed_ne_ofNat (by omega), lineFeed_ne_ofNat (by omega)⟩
    · split
      · simp only [List.mem_cons, List.not_mem_nil, or_false, not_or]
        exact ⟨lineFeed_ne_ofNat (by omega), lineFeed_ne_ofNat (by omega),
          lineFeed_ne_ofNat (by omega)⟩
      · simp only [List.mem_cons, List.not_mem_nil, or_false, not_or]
        exact ⟨lineFeed_ne_ofNat (by omega), lineFeed_ne_ofNat (by omega),
          lineFeed_ne_ofNat (by omega), lineFeed_ne_ofNat (by omega)⟩

theorem lineStartsFrom_append {front : List UInt8} (clean : 10 ∉ front) (offset : Nat)
    (later : List UInt8) :
    lineStartsFrom offset (front ++ later) = lineStartsFrom (offset + front.length) later := by
  induction front generalizing offset with
  | nil => rfl
  | cons byte rest ih =>
      obtain ⟨first, others⟩ := not_or.mp (mt List.mem_cons.mpr clean)
      rw [List.cons_append, lineStartsFrom, if_neg (Ne.symm first), ih others, List.length_cons]
      congr 1
      omega

/-- The starts of pieces that a line feed stands behind each of. -/
def startsOf (offset : Nat) : List (List Char) → List Nat
  | [] => []
  | piece :: later => offset :: startsOf (offset + byteLength piece + 1) later

theorem startsOf_pieces (offset : Nat) (text : List Char) :
    startsOf offset (pieces text) = offset :: lineStartsFrom offset (toUtf8 text) := by
  induction text generalizing offset with
  | nil => rfl
  | cons c rest ih =>
      have bytes : toUtf8 (c :: rest) = String.utf8EncodeChar c ++ toUtf8 rest := rfl
      rw [pieces]
      by_cases same : c = '\n'
      · subst same
        rw [if_pos rfl, startsOf, ih]
        rfl
      · obtain ⟨piece, later, cut⟩ := List.exists_cons_of_ne_nil (pieces_ne_nil rest)
        have inner := ih (offset + c.utf8Size)
        rw [cut, startsOf] at inner
        rw [if_neg same, cut, bytes, lineStartsFrom_append (lineFeed_notMem_utf8 same),
          String.length_utf8EncodeChar, startsOf, byteLength_cons, ← (List.cons.inj inner).2]
        congr 2
        omega

theorem lineStartsOf_eq (text : List Char) : lineStartsOf text = startsOf 0 (pieces text) :=
  (startsOf_pieces 0 text).symm

/-- Where a piece stands in its text, and what the index and the count of characters have for it. -/
structure Stands (all : List (List Char)) (offset line : Nat) (piece front back : List Char) :
    Prop where
  whole : joinLines all = front ++ piece ++ back
  start : (startsOf offset all)[line]? = some (offset + byteLength front)
  ends : back = [] ∧ (startsOf offset all)[line + 1]? = none ∨
    ∃ rest, back = '\n' :: rest ∧
      (startsOf offset all)[line + 1]? = some (offset + byteLength front + byteLength piece + 1)
  before (character : Nat) :
    (all.take line).foldr (fun piece count => piece.length + 1 + count) character =
      front.length + character

theorem exists_stands {all : List (List Char)} {line : Nat} {piece : List Char}
    (found : all[line]? = some piece) (offset : Nat) :
    ∃ front back, Stands all offset line piece front back := by
  induction all generalizing line offset with
  | nil => simp at found
  | cons first later ih =>
      cases line with
      | zero =>
          obtain rfl : first = piece := by simpa using found
          cases later with
          | nil =>
              exact ⟨[], [], by simp [joinLines_singleton], rfl, .inl ⟨rfl, rfl⟩, fun _ => by simp⟩
          | cons next later =>
              refine ⟨[], _, (joinLines_cons_cons first next later), rfl, .inr ⟨_, rfl, rfl⟩,
                fun _ => by simp⟩
      | succ line =>
          -- the first piece and its line feed come in front of all that stands before the piece
          rw [List.getElem?_cons_succ] at found
          obtain ⟨front, back, stands⟩ := ih found (offset + byteLength first + 1)
          obtain ⟨next, rest, more⟩ := List.exists_cons_of_ne_nil (List.ne_nil_of_mem
            (List.mem_of_getElem? found))
          have ahead : byteLength (first ++ '\n' :: front) =
              byteLength first + 1 + byteLength front := by
            rw [byteLength_append, byteLength_cons, show '\n'.utf8Size = 1 from rfl]
            omega
          have place : offset + byteLength first + 1 + byteLength front =
              offset + byteLength (first ++ '\n' :: front) := by omega
          refine ⟨first ++ '\n' :: front, back, ?_, ?_, ?_, fun character => ?_⟩
          · rw [more, joinLines_cons_cons, ← more, stands.whole]
            simp
          · rw [startsOf, List.getElem?_cons_succ, stands.start, place]
          · rw [startsOf, List.getElem?_cons_succ, ← place]
            exact stands.ends
          · rw [List.take_succ_cons, List.foldr_cons, stands.before, List.length_append,
              List.length_cons]
            omega

theorem length_startsOf (offset : Nat) (all : List (List Char)) :
    (startsOf offset all).length = all.length := by
  induction all generalizing offset with
  | nil => rfl
  | cons piece later ih => rw [startsOf, List.length_cons, List.length_cons, ih]

theorem getLast?_pieces_eq_nil_iff {text : List Char} (present : text ≠ []) :
    (pieces text).getLast? = some [] ↔ text.getLast? = some '\n' := by
  induction text with
  | nil => exact absurd rfl present
  | cons c rest ih =>
      obtain ⟨piece, later, cut⟩ := List.exists_cons_of_ne_nil (pieces_ne_nil rest)
      by_cases empty : rest = []
      · subst empty
        by_cases same : c = '\n'
        · simp [pieces, same]
        · simp [pieces, same]
      · obtain ⟨next, others, more⟩ := List.exists_cons_of_ne_nil empty
        have last : (c :: rest).getLast? = rest.getLast? := by
          rw [more, List.getLast?_cons_cons]
        rw [last, ← ih empty, pieces, cut]
        by_cases same : c = '\n'
        · rw [if_pos same, List.getLast?_cons_cons]
        · rw [if_neg same]
          cases later with
          | nil =>
              have whole := joinLines_pieces rest
              rw [cut, joinLines_singleton] at whole
              simp [whole, empty]
          | cons other later => rw [List.getLast?_cons_cons, List.getLast?_cons_cons]

theorem getElem?_of_dropFinalEmpty {all : List (List Char)} {line : Nat} {piece : List Char}
    (found : (dropFinalEmpty all)[line]? = some piece) : all[line]? = some piece := by
  unfold dropFinalEmpty at found
  split at found
  · rw [List.getElem?_dropLast] at found
    split at found
    · exact found
    · cases found
  · exact found

def bytesBefore (text : List Char) (offset : Nat) : Nat := byteLength (text.take offset)

theorem bytesBefore_lt {text : List Char} {start stop : Nat} (before : start < stop)
    (inside : stop ≤ text.length) : bytesBefore text start < bytesBefore text stop := by
  have parts : text.take stop = text.take start ++ (text.drop start).take (stop - start) := by
    rw [← List.take_add, Nat.add_sub_cancel' (Nat.le_of_lt before)]
  have wide := length_le_byteLength ((text.drop start).take (stop - start))
  rw [List.length_take, List.length_drop] at wide
  rw [bytesBefore, bytesBefore, parts, byteLength_append]
  omega

theorem bytesBefore_lt_iff {text : List Char} {start stop : Nat} (startInside : start ≤ text.length)
    (stopInside : stop ≤ text.length) :
    bytesBefore text start < bytesBefore text stop ↔ start < stop := by
  constructor
  · intro less
    rcases Nat.lt_trichotomy start stop with before | same | after
    · exact before
    · subst same
      omega
    · have greater := bytesBefore_lt after startInside
      omega
  · exact fun before => bytesBefore_lt before stopInside

/-- The bytes in front of a character are those of the pieces before its piece and those in front of
it in its own. -/
theorem Stands.bytesBefore {all : List (List Char)} {line character : Nat}
    {piece front back : List Char} (stands : Stands all 0 line piece front back)
    (inside : character ≤ (withoutReturn piece).length) :
    bytesBefore (joinLines all) (front.length + character) =
      byteLength front + Document.bytesBefore (withoutReturn piece) character := by
  have text : joinLines all = front ++ (withoutReturn piece ++
      ((if piece.getLast? = some '\r' then ['\r'] else []) ++ back)) := by
    rw [← List.append_assoc (withoutReturn piece), withoutReturn_append, ← List.append_assoc,
      ← stands.whole]
  rw [Document.bytesBefore, text, List.take_length_add_append,
    List.take_append_of_le_length inside, byteLength_append, Document.bytesBefore]

theorem cutAt_bytesBefore {text other : List Char} {offset : Nat}
    (same : other.take offset = text.take offset) :
    cutAt (bytesBefore text offset) other = (other.take offset, other.drop offset) := by
  have cut := cutAt_append (other.take offset) (other.drop offset)
  rwa [List.take_append_drop, same, ← bytesBefore, ← same] at cut

end ConstructorAction.Document
