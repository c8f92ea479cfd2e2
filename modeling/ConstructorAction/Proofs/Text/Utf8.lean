import ConstructorAction.Text.Utf8
import Mathlib.Tactic.SplitIfs

namespace ConstructorAction.Text

/-!
Text that is written as bytes and read again. The bytes of a character are read as this character,
whatever follows them (`readChar_utf8`), so that no text is lost (`ofUtf8Lossy_toUtf8`).
-/

variable {first second : UInt8} {rest : List UInt8}

theorem isContinuation_iff {byte : UInt8} :
    isContinuation byte = true ↔ 128 ≤ byte.toNat ∧ byte.toNat ≤ 191 := by
  simp [isContinuation, UInt8.le_iff_toNat_le]

theorem toNat_ofNat_of_lt {code : Nat} (small : code < 256) : (UInt8.ofNat code).toNat = code := by
  rw [UInt8.toNat_ofNat']
  exact Nat.mod_eq_of_lt small

/-- A byte for the last six bits of a number. -/
def tailByte (code : Nat) : UInt8 := UInt8.ofNat (code % 64 + 128)

theorem toNat_tailByte (code : Nat) : (tailByte code).toNat = code % 64 + 128 :=
  toNat_ofNat_of_lt (by omega)

theorem isContinuation_tailByte (code : Nat) : isContinuation (tailByte code) = true := by
  rw [isContinuation_iff, toNat_tailByte]
  omega

theorem continuations_tailByte (count value code : Nat) (rest : List UInt8) :
    continuations (count + 1) value (tailByte code :: rest) =
      continuations count (value * 64 + code % 64) rest := by
  have bits : (tailByte code).toNat % 64 = code % 64 := by
    rw [toNat_tailByte]
    omega
  rw [continuations, if_pos (isContinuation_tailByte code), bits]

/-- The first two bytes of a sequence with so many more. A second byte is too low if there is a
shorter sequence, and too high if there is no such character. -/
def Leads (more : Nat) (first second : Nat) : Prop :=
  more = 0 ∧ 194 ≤ first ∧ first ≤ 223 ∨
    more = 1 ∧ 224 ≤ first ∧ first ≤ 239 ∧ (first = 224 → 160 ≤ second) ∧
      (first = 237 → second ≤ 159) ∨
    more = 2 ∧ 240 ≤ first ∧ first ≤ 244 ∧ (first = 240 → 144 ≤ second) ∧
      (first = 244 → second ≤ 143)

theorem secondByte?_of_leads {more : Nat} (continues : isContinuation second = true)
    (leads : Leads more first.toNat second.toNat) :
    ∃ low high, secondByte? first = some (low, high, more) ∧ low ≤ second ∧ second ≤ high := by
  have found (low high : UInt8) (kind : Nat) (same : more = kind)
      (lower : low.toNat ≤ second.toNat) (upper : second.toNat ≤ high.toNat) :
      ∃ least most, some (low, high, kind) = some (least, most, more) ∧
        least.toNat ≤ second.toNat ∧ second.toNat ≤ most.toNat :=
    ⟨low, high, by rw [same], lower, upper⟩
  rw [isContinuation_iff] at continues
  unfold Leads at leads
  unfold secondByte?
  simp only [UInt8.le_iff_toNat_le, Bool.and_eq_true, decide_eq_true_eq, beq_iff_eq,
    ← UInt8.toNat_inj, UInt8.reduceToNat]
  split_ifs
  all_goals first
    | omega
    | exact found _ _ _ (by omega) (by simp only [UInt8.reduceToNat]; omega)
        (by simp only [UInt8.reduceToNat]; omega)

/-- A sequence of two bytes or more. -/
theorem readChar_of_leads {more lead head code : Nat} {behind : List UInt8}
    (leads : Leads more lead (head % 64 + 128))
    (read : continuations more
      (lead % (if more = 0 then 32 else if more = 1 then 16 else 8) * 64 + head % 64) rest =
        (some code, behind)) :
    readChar (UInt8.ofNat lead) (tailByte head :: rest) = (some (Char.ofNat code), behind) := by
  have bounds : 128 ≤ lead ∧ lead < 256 := by
    unfold Leads at leads
    omega
  have value : (UInt8.ofNat lead).toNat = lead := toNat_ofNat_of_lt bounds.2
  have several : ¬ UInt8.ofNat lead < 0x80 := by
    rw [UInt8.lt_iff_toNat_lt, value]
    exact Nat.not_lt_of_le bounds.1
  have bits : (tailByte head).toNat % 64 = head % 64 := by
    rw [toNat_tailByte]
    omega
  obtain ⟨low, high, kind, lower, upper⟩ := secondByte?_of_leads (isContinuation_tailByte head)
    (show Leads more (UInt8.ofNat lead).toNat (tailByte head).toNat by rwa [value, toNat_tailByte])
  unfold readChar
  rw [if_neg several, kind]
  simp [lower, upper, value, bits, read]

section Sizes

variable {code : Nat}

theorem readChar_one (small : code ≤ 127) :
    readChar (UInt8.ofNat code) rest = (some (Char.ofNat code), rest) := by
  have value : (UInt8.ofNat code).toNat = code := toNat_ofNat_of_lt (by omega)
  have single : UInt8.ofNat code < 0x80 := by
    rw [UInt8.lt_iff_toNat_lt, value]
    simp only [UInt8.reduceToNat]
    omega
  unfold readChar
  rw [if_pos single, value]

theorem readChar_two (large : 127 < code) (small : code ≤ 2047) :
    readChar (UInt8.ofNat (code / 64 % 32 + 192)) (tailByte code :: rest) =
      (some (Char.ofNat code), rest) := by
  have leads : Leads 0 (code / 64 % 32 + 192) (code % 64 + 128) := by
    unfold Leads
    omega
  have bits : (code / 64 % 32 + 192) % 32 * 64 + code % 64 = code := by omega
  refine readChar_of_leads leads ?_
  rw [if_pos rfl, bits, continuations]

theorem readChar_three (large : 2047 < code) (small : code ≤ 65535)
    (valid : code < 55296 ∨ 57343 < code) :
    readChar (UInt8.ofNat (code / 4096 % 16 + 224))
        (tailByte (code / 64) :: tailByte code :: rest) =
      (some (Char.ofNat code), rest) := by
  have leads : Leads 1 (code / 4096 % 16 + 224) (code / 64 % 64 + 128) := by
    unfold Leads
    omega
  have bits : ((code / 4096 % 16 + 224) % 16 * 64 + code / 64 % 64) * 64 + code % 64 = code := by
    omega
  refine readChar_of_leads leads ?_
  rw [if_neg (by decide), if_pos rfl, continuations_tailByte, bits, continuations]

theorem readChar_four (large : 65535 < code) (small : code < 1114112) :
    readChar (UInt8.ofNat (code / 262144 % 8 + 240))
        (tailByte (code / 4096) :: tailByte (code / 64) :: tailByte code :: rest) =
      (some (Char.ofNat code), rest) := by
  have leads : Leads 2 (code / 262144 % 8 + 240) (code / 4096 % 64 + 128) := by
    unfold Leads
    omega
  have bits : (((code / 262144 % 8 + 240) % 8 * 64 + code / 4096 % 64) * 64 + code / 64 % 64) * 64 +
      code % 64 = code := by omega
  refine readChar_of_leads leads ?_
  rw [if_neg (by decide), if_neg (by decide), continuations_tailByte, continuations_tailByte, bits,
    continuations]

end Sizes

/-- The bytes of a character are read as this character, and no others are. -/
theorem readChar_utf8 (c : Char) (rest : List UInt8) :
    ∃ first behind, String.utf8EncodeChar c ++ rest = first :: behind ∧
      readChar first behind = (some c, rest) := by
  have valid : c.val.toNat < 55296 ∨ 57343 < c.val.toNat ∧ c.val.toNat < 1114112 := c.valid
  have same : Char.ofNat c.val.toNat = c := Char.ofNat_toNat c
  unfold String.utf8EncodeChar
  dsimp only
  generalize c.val.toNat = code at valid same
  subst same
  split
  · next small => exact ⟨_, _, rfl, readChar_one small⟩
  · next several =>
      have large : 127 < code := Nat.lt_of_not_le several
      split
      · next small => exact ⟨_, _, rfl, readChar_two large small⟩
      · next larger =>
          have large : 2047 < code := Nat.lt_of_not_le larger
          split
          · next small => exact ⟨_, _, rfl, readChar_three large small (valid.imp_right And.left)⟩
          · next largest => exact ⟨_, _, rfl, readChar_four (Nat.lt_of_not_le largest) (by omega)⟩

theorem decodeBytes_toUtf8 (text : List Char) : decodeBytes (toUtf8 text) = text.map some := by
  induction text with
  | nil => exact decodeBytes.eq_1
  | cons c rest ih =>
      obtain ⟨first, behind, bytes, read⟩ := readChar_utf8 c (toUtf8 rest)
      rw [toUtf8, List.flatMap_cons, ← toUtf8, bytes, decodeBytes, read, ih, List.map_cons]

/-- What was written is read again. -/
theorem ofUtf8Lossy_toUtf8 (text : List Char) : ofUtf8Lossy (toUtf8 text) = text := by
  rw [ofUtf8Lossy, decodeBytes_toUtf8, List.map_map]
  exact List.map_id text

theorem toUtf8_injective {text other : List Char} (same : toUtf8 text = toUtf8 other) :
    text = other := by
  rw [← ofUtf8Lossy_toUtf8 text, same, ofUtf8Lossy_toUtf8]

/-- The bytes are those that a string is kept in. -/
theorem toUtf8_toList (text : String) : toUtf8 text.toList = text.toUTF8.data.toList := by
  have bytes : text.toByteArray = text.toList.utf8Encode := by
    rw [← String.toByteArray_ofList, String.ofList_toList]
  rw [String.toUTF8, bytes, List.utf8Encode, toUtf8, List.data_toByteArray]

end ConstructorAction.Text
