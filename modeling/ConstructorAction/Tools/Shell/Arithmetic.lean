import ConstructorAction.Tools.Shell.Program

namespace ConstructorAction.Tools.Shell

/-!
Arithmetic of the command interpreter: expressions over signed numbers of 64 bits, with variables
that may be assigned. An operand whose value cannot matter is read and not evaluated.
-/

def largest : Int := 9223372036854775807

def smallest : Int := -9223372036854775808

def wrapped (value : Int) : Int := (value + 9223372036854775808) % 18446744073709551616 +
  smallest

def clamped (value : Int) : Int := max smallest (min largest value)

/-- Digits of a number by their base: hexadecimal ones behind `0x`, octal ones behind `0`. -/
def digitsByStart (text : ByteText) : Nat × ByteText × ByteText :=
  let take := fun (base : Nat) (isDigit : Char → Bool) (text : ByteText) =>
    let digits := text.takeWhile isDigit
    (base, digits, text.drop digits.length)
  match text with
  | '0' :: x :: c :: rest =>
      if (x = 'x' ∨ x = 'X') ∧ isHexDigit c then take 16 isHexDigit (c :: rest)
      else take 8 isOctalDigit text
  | '0' :: _ => take 8 isOctalDigit text
  | _ => take 10 Char.isDigit text

/-- A number at the start of a text behind blanks and a sign, in base ten unless `anyBase`; none
if there are no digits. -/
def readNumber? (anyBase : Bool) (text : ByteText) : Option (Int × ByteText) :=
  let text := text.dropWhile isSpaceByte
  let (isNegative, unsigned) := match text with
    | '-' :: rest => (true, rest)
    | '+' :: rest => (false, rest)
    | rest => (false, rest)
  let (base, digits, rest) :=
    if anyBase then digitsByStart unsigned
    else
      let digits := unsigned.takeWhile Char.isDigit
      (10, digits, unsigned.drop digits.length)
  if digits.isEmpty then none
  else
    let value : Int := valueInBase base digits
    some (if isNegative then -value else value, rest)

def number? (anyBase : Bool) (text : ByteText) : Option Int := do
  let (value, rest) ← readNumber? anyBase text
  if rest.all isSpaceByte ∧ clamped value = value then some value else none

def decimal (value : Int) : ByteText :=
  if value < 0 then '-' :: Nat.toDigits 10 value.natAbs else Nat.toDigits 10 value.natAbs

inductive BinaryOperator where
  | multiply
  | divide
  | remainder
  | add
  | subtract
  | shiftLeft
  | shiftRight
  | less
  | atMost
  | greater
  | atLeast
  | equal
  | different
  | bitAnd
  | bitXor
  | bitOr
  deriving DecidableEq, Repr, Inhabited

def BinaryOperator.level : BinaryOperator → Nat
  | multiply | divide | remainder => 0
  | add | subtract => 1
  | shiftLeft | shiftRight => 2
  | less | atMost | greater | atLeast => 3
  | equal | different => 4
  | bitAnd => 5
  | bitXor => 6
  | bitOr => 7

inductive Sign where
  | number (value : Int)
  | name (name : ByteText)
  | binary (operator : BinaryOperator)
  /-- An assignment, of the result of an operator if there is one. -/
  | assign (operator : Option BinaryOperator)
  | not
  | complement
  | and_
  | or_
  | question
  | colon
  | opening
  | closing
  | unknown
  | stop
  deriving DecidableEq, Repr, Inhabited

def signs : List (String × Sign) :=
  [("<<=", .assign (some .shiftLeft)), (">>=", .assign (some .shiftRight)),
   ("<<", .binary .shiftLeft), (">>", .binary .shiftRight), ("<=", .binary .atMost),
   (">=", .binary .atLeast), ("==", .binary .equal), ("!=", .binary .different),
   ("&&", .and_), ("||", .or_), ("*=", .assign (some .multiply)),
   ("/=", .assign (some .divide)), ("%=", .assign (some .remainder)),
   ("+=", .assign (some .add)), ("-=", .assign (some .subtract)),
   ("&=", .assign (some .bitAnd)), ("^=", .assign (some .bitXor)),
   ("|=", .assign (some .bitOr)), ("=", .assign none), ("<", .binary .less),
   (">", .binary .greater), ("*", .binary .multiply), ("/", .binary .divide),
   ("%", .binary .remainder), ("+", .binary .add), ("-", .binary .subtract),
   ("&", .binary .bitAnd), ("^", .binary .bitXor), ("|", .binary .bitOr), ("!", .not),
   ("~", .complement), ("?", .question), (":", .colon), ("(", .opening), (")", .closing)]

/-- The next sign and what follows it. Nothing is passed over behind an unknown character. -/
def nextSign (text : ByteText) : Sign × ByteText :=
  match text.dropWhile fun c => c == ' ' || c == '\t' || c == '\n' with
  | [] => (.stop, [])
  | c :: rest =>
      let text := c :: rest
      if c.isDigit then
        let (base, digits, rest) := digitsByStart text
        (.number (clamped (valueInBase base digits)), rest)
      else if isNameStart c then
        let name := text.takeWhile isNameChar
        (.name name, text.drop name.length)
      else
        match signs.find? fun entry => entry.1.toList.isPrefixOf text with
        | some (written, sign) => (sign, text.drop written.length)
        | none => (.unknown, text)

inductive ArithmeticFault where
  /-- The expression is at fault. -/
  | expression (reason : String)
  /-- The value of a variable is not a number. -/
  | value (text : ByteText)
  deriving DecidableEq, Repr

/-- An evaluation under way: the sign that was read last, what follows it, and the variables. -/
structure Calculation where
  sign : Sign
  rest : ByteText
  lookup : ByteText → Option ByteText
  /-- What was assigned, the last first. -/
  assigned : List (ByteText × Int) := []
  deriving Inhabited

abbrev Calculate := StateT Calculation (Except ArithmeticFault)

def shiftCount (count : Int) : Nat := (count % 64).toNat

/-- The number of 64 bits that has the bits of a natural number. -/
def ofBits (bits : Nat) : Int := wrapped bits

def bits (value : Int) : Nat := (value % 18446744073709551616).toNat

def flag (holds : Bool) : Int := if holds then 1 else 0

def BinaryOperator.apply (operator : BinaryOperator) (a b : Int) :
    Except ArithmeticFault Int :=
  match operator with
  | multiply => .ok (wrapped (a * b))
  | divide => if b = 0 then .error (.expression "division by zero") else .ok (wrapped (a.tdiv b))
  | remainder => if b = 0 then .error (.expression "division by zero") else .ok (a.tmod b)
  | add => .ok (wrapped (a + b))
  | subtract => .ok (wrapped (a - b))
  | shiftLeft => .ok (wrapped (a * Nat.pow 2 (shiftCount b)))
  | shiftRight => .ok (a / Nat.pow 2 (shiftCount b))
  | less => .ok (flag (a < b))
  | atMost => .ok (flag (a ≤ b))
  | greater => .ok (flag (a > b))
  | atLeast => .ok (flag (a ≥ b))
  | equal => .ok (flag (a = b))
  | different => .ok (flag (a ≠ b))
  | bitAnd => .ok (ofBits (bits a &&& bits b))
  | bitXor => .ok (ofBits (bits a ^^^ bits b))
  | bitOr => .ok (ofBits (bits a ||| bits b))

namespace Calculate

def advance : Calculate Sign := fun state =>
  let (sign, rest) := nextSign state.rest
  .ok (sign, { state with sign, rest })

def fail {α : Type} (reason : String) : Calculate α := fun _ => .error (.expression reason)

/-- The value of a variable; what is not set is zero. -/
def valueOf (name : ByteText) : Calculate Int := fun state =>
  match state.assigned.lookup name with
  | some value => .ok (value, state)
  | none =>
      let text := (state.lookup name).getD []
      if text.all isSpaceByte then .ok (0, state)
      else
        match number? true text with
        | some value => .ok (value, state)
        | none => .error (.value text)

def assign (name : ByteText) (value : Int) : Calculate Unit :=
  modify fun state => { state with assigned := (name, value) :: state.assigned }

end Calculate

/-! Every function starts with the current sign as the first of its expression, and leaves the one
behind the expression. -/

mutual

def readOperand : Nat → Bool → Calculate Int
  | 0, _ => return 0
  | fuel + 1, isSkipped => do
      let sign := (← get).sign
      let below := do
        let _ ← Calculate.advance
        readOperand fuel isSkipped
      match sign with
      | .number value =>
          let _ ← Calculate.advance
          return value
      | .name name =>
          let _ ← Calculate.advance
          if isSkipped then return 0 else Calculate.valueOf name
      | .opening =>
          let _ ← Calculate.advance
          let value ← readAssignment fuel isSkipped
          if (← get).sign = .closing then
            let _ ← Calculate.advance
            return value
          else Calculate.fail "expecting ')'"
      | .binary .add => below
      | .binary .subtract => return wrapped (-(← below))
      | .not => return flag ((← below) = 0)
      | .complement => return -(← below) - 1
      | _ => Calculate.fail "expecting primary"

/-- Applies operators to a first operand, those of lower levels first. Operators of `level` and
above are left. -/
def readBinary : Nat → Bool → Nat → Int → Calculate Int
  | 0, _, _, first => return first
  | fuel + 1, isSkipped, level, first => do
      match (← get).sign with
      | .binary operator =>
          if level ≤ operator.level then return first
          else
            let _ ← Calculate.advance
            let second ← readOperand fuel isSkipped
            let second ← readBinary fuel isSkipped operator.level second
            let value ←
              if isSkipped then pure second
              else
                match operator.apply first second with
                | .ok value => pure value
                | .error fault => throw fault
            readBinary fuel isSkipped level value
      | _ => return first

def readConjunction : Nat → Bool → Calculate Int
  | 0, _ => return 0
  | fuel + 1, isSkipped => do
      let first ← readBinary fuel isSkipped 8 (← readOperand fuel isSkipped)
      if (← get).sign = .and_ then
        let _ ← Calculate.advance
        let second ← readConjunction fuel (isSkipped || first = 0)
        return flag (first ≠ 0 ∧ second ≠ 0)
      else return first

def readDisjunction : Nat → Bool → Calculate Int
  | 0, _ => return 0
  | fuel + 1, isSkipped => do
      let first ← readConjunction fuel isSkipped
      if (← get).sign = .or_ then
        let _ ← Calculate.advance
        let second ← readDisjunction fuel (isSkipped || first ≠ 0)
        return flag (first ≠ 0 ∨ second ≠ 0)
      else return first

def readConditional : Nat → Bool → Calculate Int
  | 0, _ => return 0
  | fuel + 1, isSkipped => do
      let condition ← readDisjunction fuel isSkipped
      if (← get).sign = .question then
        let _ ← Calculate.advance
        let yes ← readAssignment fuel (isSkipped || condition = 0)
        if (← get).sign = .colon then
          let _ ← Calculate.advance
          let no ← readConditional fuel (isSkipped || condition ≠ 0)
          return if condition ≠ 0 then yes else no
        else Calculate.fail "expecting ':'"
      else return condition

/-- An assignment, if a name is followed by its sign, and otherwise any other expression. -/
def readAssignment : Nat → Bool → Calculate Int
  | 0, _ => return 0
  | fuel + 1, isSkipped => do
      let state ← get
      match state.sign, nextSign state.rest with
      | .name name, (.assign operator, _) =>
          let _ ← Calculate.advance
          let _ ← Calculate.advance
          let value ← readAssignment fuel isSkipped
          if isSkipped then return value
          else
            let value ← match operator with
              | none => pure value
              | some operator =>
                  match operator.apply (← Calculate.valueOf name) value with
                  | .ok value => pure value
                  | .error fault => throw fault
            Calculate.assign name value
            return value
      | _, _ => readConditional fuel isSkipped

end

/-- The value of an expression, and the variables that it assigns, in order. -/
def calculate (lookup : ByteText → Option ByteText) (text : ByteText) :
    Except ArithmeticFault (Int × List (ByteText × Int)) :=
  let (sign, rest) := nextSign text
  match readAssignment (text.length * 8 + 16) false { sign, rest, lookup } with
  | .error fault => .error fault
  | .ok (value, state) =>
      if state.sign = .stop then .ok (value, state.assigned.reverse)
      else .error (.expression "expecting EOF")

end ConstructorAction.Tools.Shell
