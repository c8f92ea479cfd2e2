import ConstructorAction.Tools.Filter
import ConstructorAction.Tools.Shell.Arithmetic

namespace ConstructorAction.Tools.Shell

open ConstructorAction.Files

/-!
Conditions on texts, numbers and files, written as a list of arguments. What an argument is depends
on those around it: an operator without operands is a text like any other.
-/

inductive UnaryTest where
  | isEmpty
  | isNotEmpty
  | exists_
  | isFile
  | isDirectory
  | isDevice
  | isReadable
  | isWritable
  | isRunnable
  | hasContent
  | isTerminal
  /-- Holds for nothing that can be there. -/
  | never
  deriving DecidableEq, Repr, Inhabited

inductive BinaryTest where
  | textEqual
  | textDifferent
  | textLess
  | textGreater
  | equal
  | different
  | atLeast
  | greater
  | atMost
  | less
  /-- Files are of one age, and the same only as themselves. -/
  | newer
  | older
  | sameFile
  deriving DecidableEq, Repr, Inhabited

inductive TestOperator where
  | unary (test : UnaryTest)
  | binary (test : BinaryTest)
  | not
  | and_
  | or_
  | opening
  | closing
  deriving DecidableEq, Repr, Inhabited

def testOperators : List (String × TestOperator) :=
  [("-r", .unary .isReadable), ("-w", .unary .isWritable), ("-x", .unary .isRunnable),
   ("-e", .unary .exists_), ("-f", .unary .isFile), ("-d", .unary .isDirectory),
   ("-c", .unary .isDevice), ("-b", .unary .never), ("-p", .unary .never),
   ("-u", .unary .never), ("-g", .unary .never), ("-k", .unary .never),
   ("-s", .unary .hasContent), ("-t", .unary .isTerminal), ("-z", .unary .isEmpty),
   ("-n", .unary .isNotEmpty), ("-h", .unary .never), ("-O", .unary .exists_),
   ("-G", .unary .exists_), ("-L", .unary .never), ("-S", .unary .never),
   ("=", .binary .textEqual), ("!=", .binary .textDifferent), ("<", .binary .textLess),
   (">", .binary .textGreater), ("-eq", .binary .equal), ("-ne", .binary .different),
   ("-ge", .binary .atLeast), ("-gt", .binary .greater), ("-le", .binary .atMost),
   ("-lt", .binary .less), ("-nt", .binary .newer), ("-ot", .binary .older),
   ("-ef", .binary .sameFile), ("!", .not), ("-a", .and_), ("-o", .or_), ("(", .opening),
   (")", .closing)]

def testOperator? (text : ByteText) : Option TestOperator :=
  (testOperators.find? fun entry => entry.1.toList == text).map (·.2)

def isBinaryTest (text : ByteText) : Bool :=
  match testOperator? text with
  | some (.binary _) => true
  | _ => false

inductive ConditionFault where
  | operand (operator : ByteText)
  | unexpectedOperator (text : ByteText)
  | openParenthesis
  | openBracket
  | number (text : ByteText)
  deriving DecidableEq, Repr

def ConditionFault.message : ConditionFault → ByteText
  | .operand operator => operator ++ ofString ": argument expected"
  | .unexpectedOperator text =>
      (if text.isEmpty then [] else text ++ ofString ": ") ++ ofString "unexpected operator"
  | .openParenthesis => ofString "closing paren expected"
  | .openBracket => ofString "missing ]"
  | .number text => ofString "Illegal number: " ++ text

def wholeNumber (text : ByteText) : Except ConditionFault Int :=
  match number? false text with
  | some value => .ok value
  | none => .error (.number text)

def isBefore : ByteText → ByteText → Bool
  | [], second => !second.isEmpty
  | _ :: _, [] => false
  | a :: first, b :: second => a < b || (a == b && isBefore first second)

def UnaryTest.holds (test : UnaryTest) (disk : Disk) (text : ByteText) :
    Except ConditionFault Bool :=
  let node := (disk.find text).toOption
  match test with
  | .isEmpty => .ok text.isEmpty
  | .isNotEmpty => .ok !text.isEmpty
  | .never => .ok false
  | .isTerminal => do
      let _ ← wholeNumber text
      .ok false
  | .exists_ | .isReadable | .isWritable => .ok node.isSome
  | .isFile => .ok (match node with
      | some (.file _ _) => true
      | _ => false)
  | .isDevice => .ok (match node with
      | some (.device .nowhere) | some (.device .zeros) | some (.device .full) => true
      | _ => false)
  | .isDirectory | .isRunnable => .ok (match node with
      | some (.directory _) | some (.system _) | some .above => true
      | _ => false)
  | .hasContent => .ok (match node with
      | some (.file _ bytes) => !bytes.isEmpty
      | some (.device _) | none => false
      | some _ => true)

/-- What a test says of two texts. All files are of the same age. -/
def BinaryTest.holds (test : BinaryTest) (disk : Disk) (first second : ByteText) :
    Except ConditionFault Bool :=
  let compare := fun (holds : Int → Int → Bool) => do
    let a ← wholeNumber first
    let b ← wholeNumber second
    Except.ok (holds a b)
  match test with
  | .textEqual => .ok (first == second)
  | .textDifferent => .ok (first != second)
  | .textLess => .ok (isBefore first second)
  | .textGreater => .ok (isBefore second first)
  | .equal => compare fun a b => a == b
  | .different => compare fun a b => a != b
  | .atLeast => compare fun a b => b ≤ a
  | .greater => compare fun a b => b < a
  | .atMost => compare fun a b => a ≤ b
  | .less => compare fun a b => a < b
  | .newer | .older => .ok false
  | .sameFile => .ok (match disk.find first, disk.find second with
      | .ok first, .ok second => first == second
      | _, _ => false)

/-- What the argument at the front is. A test without its operand is a text, and so is one in
front of a comparison. -/
def frontOperator? (arguments : List ByteText) : Option TestOperator :=
  match arguments with
  | [] => none
  | first :: later =>
      match testOperator? first with
      | some (.unary test) =>
          match later with
          | [] => none
          | [_] => some (.unary test)
          | second :: _ => if isBinaryTest second then none else some (.unary test)
      | some .opening => if later.isEmpty then none else some .opening
      | operator => operator

mutual

/-- The conditions between `-o`. What is left starts with the last argument that was used. -/
def readAlternatives : Nat → Disk → List ByteText → Except ConditionFault (Bool × List ByteText)
  | 0, _, arguments => .ok (false, arguments)
  | fuel + 1, disk, arguments => do
      let (first, rest) ← readAll fuel disk arguments
      if frontOperator? rest.tail = some .or_ then
        let (second, rest) ← readAlternatives fuel disk (rest.drop 2)
        .ok (first || second, rest)
      else .ok (first, rest)

/-- The conditions between `-a`. -/
def readAll : Nat → Disk → List ByteText → Except ConditionFault (Bool × List ByteText)
  | 0, _, arguments => .ok (false, arguments)
  | fuel + 1, disk, arguments => do
      let (first, rest) ← readNegation fuel disk arguments
      if frontOperator? rest.tail = some .and_ then
        let (second, rest) ← readAll fuel disk (rest.drop 2)
        .ok (first && second, rest)
      else .ok (first, rest)

def readNegation : Nat → Disk → List ByteText → Except ConditionFault (Bool × List ByteText)
  | 0, _, arguments => .ok (false, arguments)
  | fuel + 1, disk, arguments => do
      if frontOperator? arguments = some .not then
        let later := arguments.tail
        let (holds, rest) ← readNegation fuel disk (if later.isEmpty then [] else later)
        .ok (!holds, if later.isEmpty then arguments else rest)
      else readPrimary fuel disk arguments

def readPrimary : Nat → Disk → List ByteText → Except ConditionFault (Bool × List ByteText)
  | 0, _, arguments => .ok (false, arguments)
  | fuel + 1, disk, arguments => do
      match arguments, frontOperator? arguments with
      | [], _ => .ok (false, [])
      | _ :: later, some .opening =>
          if frontOperator? later = some .closing then .ok (false, later)
          else
            let (holds, rest) ← readAlternatives fuel disk later
            if frontOperator? rest.tail = some .closing then .ok (holds, rest.tail)
            else .error .openParenthesis
      | operator :: later, some (.unary test) =>
          match later with
          | [] => .error (.operand operator)
          | operand :: _ => do .ok (← test.holds disk operand, later)
      | first :: later, _ =>
          match frontOperator? later with
          | some (.binary test) =>
              match later with
              | operator :: second :: rest => do
                  let _ := operator
                  .ok (← test.holds disk first second, second :: rest)
              | operator :: [] => .error (.operand operator)
              | [] => .ok (!first.isEmpty, arguments)
          | _ => .ok (!first.isEmpty, arguments)

end

def readWhole (disk : Disk) (arguments : List ByteText) : Except ConditionFault Bool := do
  let (holds, rest) ← readAlternatives (arguments.length * 8 + 16) disk arguments
  match rest with
  | text :: _ :: _ => .error (.unexpectedOperator text)
  | _ => .ok holds

/-- Evaluates three arguments or four by their number, so that texts that look like operators do
no harm. Being negated twice is being negated. -/
def readFew (disk : Disk) : Bool → List ByteText → Except ConditionFault Bool
  | negated, [first, operator, second] =>
      match testOperator? operator with
      | some (.binary test) => (test.holds disk first second).map (· != negated)
      | _ =>
          if first = ['('] ∧ second = [')'] then (readWhole disk [operator]).map (· != negated)
          else if first = ['!'] then (readWhole disk [operator, second]).map (!·)
          else (readWhole disk [first, operator, second]).map (· != negated)
  | negated, arguments => (readWhole disk arguments).map (· != negated)

/-- Evaluates the arguments of a condition; without any, it does not hold. -/
def condition (disk : Disk) (arguments : List ByteText) : Except ConditionFault Bool :=
  match arguments with
  | [] => .ok false
  | [first, second, third, fourth] =>
      if first = ['('] ∧ fourth = [')'] then readWhole disk [second, third]
      else if first = ['!'] then readFew disk true [second, third, fourth]
      else readWhole disk arguments
  | arguments => readFew disk false arguments

end ConstructorAction.Tools.Shell
