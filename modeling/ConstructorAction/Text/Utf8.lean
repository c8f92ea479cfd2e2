namespace ConstructorAction.Text

/-!
UTF-8 read from bytes: strictly, or with U+FFFD for what is no character. A broken sequence counts
as one up to the byte that cannot continue it.
-/

def isContinuation (byte : UInt8) : Bool := 0x80 ≤ byte && byte ≤ 0xBF

/-- The bytes that may follow a first byte of a sequence, and the number of further bytes. -/
def secondByte? (first : UInt8) : Option (UInt8 × UInt8 × Nat) :=
  if 0xC2 ≤ first && first ≤ 0xDF then some (0x80, 0xBF, 0)
  else if first == 0xE0 then some (0xA0, 0xBF, 1)
  else if first == 0xED then some (0x80, 0x9F, 1)
  else if 0xE1 ≤ first && first ≤ 0xEF then some (0x80, 0xBF, 1)
  else if first == 0xF0 then some (0x90, 0xBF, 2)
  else if 0xF1 ≤ first && first ≤ 0xF3 then some (0x80, 0xBF, 2)
  else if first == 0xF4 then some (0x80, 0x8F, 2)
  else none

/-- Takes up to `count` continuation bytes; the value is none if one is missing. -/
def continuations : Nat → Nat → List UInt8 → Option Nat × List UInt8
  | 0, value, rest => (some value, rest)
  | count + 1, value, byte :: rest =>
      if isContinuation byte then continuations count (value * 64 + byte.toNat % 64) rest
      else (none, byte :: rest)
  | _ + 1, _, [] => (none, [])

/-- The character that starts with a byte, and the bytes behind it. -/
def readChar (first : UInt8) (rest : List UInt8) : Option Char × List UInt8 :=
  if first < 0x80 then (some (Char.ofNat first.toNat), rest)
  else
    match secondByte? first, rest with
    | some (low, high, more), second :: rest =>
        if low ≤ second && second ≤ high then
          let lead := first.toNat % (if more = 0 then 32 else if more = 1 then 16 else 8)
          let (value, rest) := continuations more (lead * 64 + second.toNat % 64) rest
          (value.map Char.ofNat, rest)
        else (none, second :: rest)
    | _, rest => (none, rest)

theorem length_continuations_le (count value : Nat) (rest : List UInt8) :
    (continuations count value rest).2.length ≤ rest.length := by
  fun_induction continuations count value rest with
  | case1 value rest => exact Nat.le_refl _
  | case2 count value byte rest continues ih => exact Nat.le_succ_of_le ih
  | case3 count value byte rest broken => exact Nat.le_refl _
  | case4 count value => exact Nat.le_refl _

theorem length_readChar_le (first : UInt8) (rest : List UInt8) :
    (readChar first rest).2.length ≤ rest.length := by
  unfold readChar
  split
  · exact Nat.le_refl _
  · split
    · next low high more second rest _ =>
        split
        · exact Nat.le_succ_of_le (length_continuations_le _ _ _)
        · exact Nat.le_refl _
    · exact Nat.le_refl _

/-- One entry for each character, none for each broken sequence. -/
def decodeBytes : List UInt8 → List (Option Char)
  | [] => []
  | first :: rest => (readChar first rest).1 :: decodeBytes (readChar first rest).2
termination_by bytes => bytes.length
decreasing_by exact Nat.lt_succ_of_le (length_readChar_le first rest)

/-- The text of bytes that are UTF-8 throughout. -/
def ofUtf8? (bytes : List UInt8) : Option (List Char) :=
  (decodeBytes bytes).mapM id

def ofUtf8Lossy (bytes : List UInt8) : List Char :=
  (decodeBytes bytes).map fun decoded => decoded.getD '\uFFFD'

def toUtf8 (text : List Char) : List UInt8 :=
  text.flatMap String.utf8EncodeChar

end ConstructorAction.Text
