import ConstructorAction.Tools.Filter
import ConstructorAction.Tools.LineSort.Order

namespace ConstructorAction.Tools

open ConstructorAction.Files

/-!
The filter that sorts the lines of its operands, checks their order, or merges what is sorted.
-/

namespace LineSort

def options : List OptionForm :=
  [⟨"b", ["ignore-leading-blanks"], .never⟩, ⟨"check", ["check"], .optional⟩,
   ⟨"compress-program", ["compress-program"], .always⟩,
   ⟨"d", ["dictionary-order"], .never⟩, ⟨"f", ["ignore-case"], .never⟩,
   ⟨"files0-from", ["files0-from"], .always⟩, ⟨"g", ["general-numeric-sort"], .never⟩,
   ⟨"i", ["ignore-nonprinting"], .never⟩, ⟨"k", ["key"], .always⟩, ⟨"m", ["merge"], .never⟩,
   ⟨"M", ["month-sort"], .never⟩, ⟨"n", ["numeric-sort"], .never⟩,
   ⟨"h", ["human-numeric-sort"], .never⟩, ⟨"V", ["version-sort"], .never⟩,
   ⟨"R", ["random-sort"], .never⟩, ⟨"random-source", ["random-source"], .always⟩,
   ⟨"sort", ["sort"], .always⟩, ⟨"o", ["output"], .always⟩, ⟨"r", ["reverse"], .never⟩,
   ⟨"s", ["stable"], .never⟩, ⟨"batch-size", ["batch-size"], .always⟩,
   ⟨"buffer-size", ["buffer-size"], .always⟩, ⟨"t", ["field-separator"], .always⟩,
   ⟨"T", ["temporary-directory"], .always⟩, ⟨"u", ["unique"], .never⟩,
   ⟨"z", ["zero-terminated"], .never⟩, ⟨"parallel", ["parallel"], .always⟩,
   ⟨"c", [], .never⟩, ⟨"C", [], .never⟩, ⟨"S", [], .always⟩, ⟨"y", [], .always⟩]

/-- What is wrong with the size or count of an option. -/
inductive CountError where
  | invalid
  | badSuffix
  | tooLarge
  deriving DecidableEq, Repr

inductive SortError where
  | arguments (problem : OptionError)
  | incompatible (letters : String)
  | noCount (place : String) (text : ByteText)
  | badField (reason : String) (text : ByteText)
  | severalOutputs
  | severalCompressors
  | emptySeparator
  | longSeparator (text : ByteText)
  | severalSeparators
  /-- A value that is none of the names an option takes, or that may be several of them. -/
  | badChoice (isAmbiguous : Bool) (option : String) (value : ByteText) (choices : List String)
  | badCount (option : String) (value : ByteText) (problem : CountError)
  | noThreads
  | smallBatch (value : ByteText)
  | extraToCheck (name : ByteText) (letter : Char)
  | extraToNames (name : ByteText)
  /-- A file that cannot be used. -/
  | file (action : String) (name : ByteText) (reason : FileError)
  | noNames (source : ByteText)
  | emptyName (source : ByteText) (number : Nat)
  | stdinInNames
  deriving DecidableEq, Repr

def SortError.message : SortError → ByteText
  | .arguments problem => problem.message
  | .incompatible letters => ofString s!"options '-{letters}' are incompatible"
  | .noCount place text =>
      ofString s!"{place}: invalid count at start of " ++ quotedValue text
  | .badField reason text =>
      ofString s!"{reason}: invalid field specification " ++ quotedValue text
  | .severalOutputs => ofString "multiple output files specified"
  | .severalCompressors => ofString "multiple compress programs specified"
  | .emptySeparator => ofString "empty tab"
  | .longSeparator text => ofString "multi-character tab " ++ quotedValue text
  | .severalSeparators => ofString "incompatible tabs"
  | .badChoice isAmbiguous option value choices =>
      ofString (if isAmbiguous then "ambiguous argument " else "invalid argument ") ++
        quotedValue value ++ ofString s!" for '--{option}'\nValid arguments are:" ++
        choices.flatMap fun choice => ofString s!"\n  - {choice}"
  | .badCount option value problem =>
      let shown := '\'' :: value ++ ['\'']
      match problem with
      | .invalid => ofString s!"invalid {option} argument " ++ shown
      | .badSuffix => ofString s!"invalid suffix in {option} argument " ++ shown
      | .tooLarge => ofString s!"{option} argument " ++ shown ++ ofString " too large"
  | .noThreads => ofString "number in parallel must be nonzero"
  | .smallBatch value =>
      ofString "invalid --batch-size argument " ++ quotedValue value ++
        ofString "\nsort: minimum --batch-size argument is '2'"
  | .extraToCheck name letter =>
      ofString "extra operand " ++ quotedName name ++ ofString " not allowed with -" ++ [letter]
  | .extraToNames name =>
      ofString "extra operand " ++ quotedName name ++
        ofString "\nfile operands cannot be combined with --files0-from"
  | .file action name reason =>
      ofString s!"{action}: " ++ shownName name ++ ofString s!": {reason.reason}"
  | .noNames source => ofString "no input from " ++ quotedName source
  | .emptyName source number =>
      shownName source ++ ofString s!":{number}: invalid zero-length file name"
  | .stdinInNames =>
      ofString "when reading file names from stdin, no file name of '-' allowed"

/-- Whether a complaint ends by pointing to the help text. -/
def SortError.hasHint : SortError → Bool
  | .arguments _ | .badChoice .. | .extraToNames _ => true
  | _ => false

/-- The largest count; larger ones are taken for it. -/
def countLimit : Nat := Text.wordLimit - 1

def count? (text : ByteText) : Option (Nat × ByteText) :=
  let text := text.dropWhile isSpaceByte
  let text := if text.head? = some '+' then text.tail else text
  let digits := text.takeWhile Char.isDigit
  if digits.isEmpty then none
  else some (min countLimit (valueInBase 10 digits), text.drop digits.length)

def readCount (place : String) (text : ByteText) : Except SortError (Nat × ByteText) :=
  match count? text with
  | none => .error (.noCount place text)
  | some found => .ok found

/-- A count behind a point, or zero if there is no point. -/
def readCharacters (text : ByteText) : Except SortError (Nat × ByteText) :=
  match text with
  | '.' :: rest => readCount "invalid number after '.'" rest
  | text => .ok (0, text)

/-- A key as in `2.3n,4`: fields and characters are counted from one. -/
def readKey (text : ByteText) : Except SortError Key := do
  let (field, rest) ← readCount "invalid number at field start" text
  if field = 0 then .error (.badField "field number is zero" text)
  let (character, afterStart) ← readCharacters rest
  if character = 0 ∧ rest.head? = some '.' then
    .error (.badField "character offset is zero" text)
  let (order, rest) := KeyOrder.letters .start {} afterStart
  let start : KeyPlace := ⟨field - 1, character - 1⟩
  match rest with
  | [] => .ok { start, order }
  | ',' :: rest =>
      let (field, rest) ← readCount "invalid number after ','" rest
      if field = 0 then .error (.badField "field number is zero" text)
      let (characters, rest) ← readCharacters rest
      let (order, rest) := order.letters .stop rest
      if rest.isEmpty then .ok { start, stop := some ⟨field - 1, characters⟩, order }
      else .error (.badField "stray character in field spec" text)
  | _ => .error (.badField "stray character in field spec" text)

/-- The start of a key in the older form, which counts from zero. -/
def oldKeyStart? (text : ByteText) : Option Key := do
  let (fields, rest) ← count? text
  let (characters, rest) ←
    match rest with
    | '.' :: rest => count? rest
    | rest => some (0, rest)
  let (order, rest) := KeyOrder.letters .start {} rest
  if rest.isEmpty then some { start := ⟨fields, characters⟩, order } else none

def readOldKeyStop (key : Key) (text : ByteText) : Except SortError Key := do
  let (fields, rest) ← readCount "invalid number after '-'" text
  let (characters, rest) ← readCharacters rest
  let (order, rest) := key.order.letters .stop rest
  let fields := if characters = 0 ∧ fields ≠ 0 then fields - 1 else fields
  if rest.isEmpty then .ok { key with stop := some ⟨fields, characters⟩, order }
  else .error (.badField "stray character in field spec" ('-' :: text))

inductive Word where
  | option (given : GivenOption)
  | operand (name : ByteText)
  | oldKey (key : Key) (stop : Option ByteText)
  deriving Repr

def oldKeyStop? : Option ByteText → Option ByteText
  | some ('-' :: digit :: rest) => if digit.isDigit then some (digit :: rest) else none
  | _ => none

/-- Whether the option at the end is one whose value has to be a number, and `next` is none. -/
def refusesValue (given : List GivenOption) : Bool :=
  match given.getLast? with
  | some ⟨"y", some value⟩ => !value.all Char.isDigit
  | _ => false

def readWords : List ByteText → List Word × Option OptionError
  | [] => ([], none)
  | argument :: later =>
      let step := fun (words : List Word) (read : List Word × Option OptionError) =>
        (words ++ read.1, read.2)
      match argument, later with
      | ['-', '-'], later => (later.map .operand, none)
      | '-' :: letter :: text, later =>
          let (given, used) :=
            if letter = '-' then OptionForm.readName options later.head? text
            else OptionForm.readLetters options later.head? (letter :: text)
          match used, later with
          | .error problem, _ => (given.map .option, some problem)
          | .ok true, next :: later =>
              if refusesValue given then
                step (given.dropLast.map .option) (readWords (next :: later))
              else step (given.map .option) (readWords later)
          | .ok _, later => step (given.map .option) (readWords later)
      | '+' :: text, later =>
          match oldKeyStart? text, later with
          | none, later => step [.operand ('+' :: text)] (readWords later)
          | some key, [] => ([.oldKey key none], none)
          | some key, next :: later =>
              match oldKeyStop? (some next) with
              | some stop => step [.oldKey key (some stop)] (readWords later)
              | none => step [.oldKey key none] (readWords (next :: later))
      | operand, later => step [.operand operand] (readWords later)

/-- What is to be done. -/
structure Task where
  order : KeyOrder := {}
  keys : List Key := []
  separator : Option Char := none
  /-- The letter of a check. -/
  check : Option Char := none
  merge : Bool := false
  unique : Bool := false
  stable : Bool := false
  delimiter : Char := '\n'
  output : Option ByteText := none
  compressor : Option ByteText := none
  namesFrom : Option ByteText := none
  operands : List ByteText := []
  deriving Repr, Inhabited

/-- The names that an option takes for its value, on one line each, and what they stand for. -/
def choose (option : String) (choices : List (List String × Char)) (value : ByteText) :
    Except SortError Char :=
  let all := choices.flatMap fun (names, letter) => names.map (·, letter)
  let lines := choices.map fun (names, _) => String.intercalate ", " (names.map fun name =>
    s!"'{name}'")
  let found := all.filter fun (name, _) => value.isPrefixOf name.toList
  match all.find? (fun (name, _) => name.toList == value), found with
  | some (_, letter), _ => .ok letter
  | none, [] => .error (.badChoice false option value lines)
  | none, (_, letter) :: later =>
      if later.all fun other => other.2 == letter then .ok letter
      else .error (.badChoice true option value lines)

def orderChoices : List (List String × Char) :=
  [(["general-numeric"], 'g'), (["human-numeric"], 'h'), (["month"], 'M'), (["numeric"], 'n'),
   (["random"], 'R'), (["version"], 'V')]

def checkChoices : List (List String × Char) :=
  [(["quiet", "silent"], 'C'), (["diagnose-first"], 'c')]

def unitPower? (unit : Char) : Option Nat :=
  match unit with
  | 'k' | 'K' => some 1
  | 'm' | 'M' => some 2
  | 'g' | 'G' => some 3
  | 't' | 'T' => some 4
  | 'P' => some 5
  | 'E' => some 6
  | 'Z' => some 7
  | 'Y' => some 8
  | 'R' => some 9
  | 'Q' => some 10
  | _ => none

/-- Checks a size in bytes; without a unit it is counted in units of 1024. A unit alone counts
once. -/
def checkSize (option : String) (text : ByteText) : Except SortError Unit :=
  let refuse := fun problem => Except.error (SortError.badCount option text problem)
  let check := fun size : Nat => if size < Text.wordLimit then .ok () else refuse .tooLarge
  match count? text, text with
  | none, unit :: rest =>
      if (unitPower? unit).isNone then refuse .invalid
      else if rest.isEmpty then .ok ()
      else refuse .badSuffix
  | none, [] => refuse .invalid
  | some (value, []), _ => check (value * 1024)
  | some (value, [unit]), _ =>
      match unitPower? unit with
      | some power => check (value * Nat.pow 1024 power)
      | none =>
          if (unit = 'b' ∨ unit = '%') ∧ value < countLimit then .ok () else refuse .badSuffix
  | some _, _ => refuse .badSuffix

def readNumber (option : String) (text : ByteText) : Except SortError Nat :=
  match count? text with
  | none => .error (.badCount option text .invalid)
  | some (value, []) => .ok value
  | some _ => .error (.badCount option text .badSuffix)

def takeSeparator (task : Task) (value : ByteText) : Except SortError Task :=
  let set := fun mark : Char =>
    if task.separator.any (· != mark) then Except.error SortError.severalSeparators
    else .ok { task with separator := some mark }
  match value with
  | [] => .error .emptySeparator
  | [mark] => set mark
  | ['\\', '0'] => set '\x00'
  | text => .error (.longSeparator text)

def takeCheck (task : Task) (letter : Char) : Except SortError Task :=
  if task.check.any (· != letter) then .error (.incompatible "cC")
  else .ok { task with check := some letter }

def takeOption (task : Task) (given : GivenOption) : Except SortError Task := do
  let value := given.value.getD []
  match given.key with
  | "check" =>
      match given.value with
      | none => takeCheck task 'c'
      | some value => takeCheck task (← choose "check" checkChoices value)
  | "c" => takeCheck task 'c'
  | "C" => takeCheck task 'C'
  | "sort" =>
      let letter ← choose "sort" orderChoices value
      .ok { task with order := (task.order.letter? .both letter).getD task.order }
  | "k" => .ok { task with keys := task.keys ++ [← readKey value] }
  | "m" => .ok { task with merge := true }
  | "o" =>
      if task.output.any (· != value) then .error .severalOutputs
      else .ok { task with output := some value }
  | "compress-program" =>
      if task.compressor.any (· != value) then .error .severalCompressors
      else .ok { task with compressor := some value }
  | "files0-from" => .ok { task with namesFrom := some value }
  | "s" => .ok { task with stable := true }
  | "u" => .ok { task with unique := true }
  | "z" => .ok { task with delimiter := '\x00' }
  | "t" => takeSeparator task value
  | "S" => (checkSize "-S" value).map fun _ => task
  | "buffer-size" => (checkSize "--buffer-size" value).map fun _ => task
  | "batch-size" =>
      if (← readNumber "--batch-size" value) < 2 then .error (.smallBatch value) else .ok task
  | "parallel" =>
      if (← readNumber "--parallel" value) = 0 then .error .noThreads else .ok task
  | letter =>
      let order := letter.toList.head?.bind (task.order.letter? .both)
      .ok { task with order := order.getD task.order }

def takeWord (task : Task) (word : Word) : Except SortError Task :=
  match word with
  | .option given => takeOption task given
  | .operand name => .ok { task with operands := task.operands ++ [name] }
  | .oldKey key none => .ok { task with keys := task.keys ++ [key] }
  | .oldKey key (some stop) =>
      (readOldKeyStop key stop).map fun key => { task with keys := task.keys ++ [key] }

/-- Keys without an order of their own take the order of all. -/
def Task.lineOrder (task : Task) : Except SortError LineOrder :=
  let keys := task.keys.map fun key =>
    if key.order.isDefault && !key.order.reverse then { key with order := task.order } else key
  let keys := if keys.isEmpty && !task.order.isDefault then [{ order := task.order }] else keys
  match keys.findSome? fun key => key.order.clash? with
  | some letters => .error (.incompatible letters)
  | none =>
      .ok { keys
            separator := task.separator
            reverse := task.order.reverse
            stable := task.stable
            unique := task.unique }

/-- The texts of all operands; what was left of the standard input is returned with them. -/
def readOperands (invocation : Invocation) (action : String) :
    Bool → List ByteText → Except SortError (List ByteText) × Bool
  | readBefore, [] => (.ok [], readBefore)
  | readBefore, name :: later =>
      match invocation.operand readBefore name with
      | .error .isDirectory => (.error (.file "read failed" name .isDirectory), readBefore)
      | .error .closed =>
          let action := if action = "stat failed" then action else "read failed"
          (.error (.file action name .closed), readBefore)
      | .error reason => (.error (.file action name reason), readBefore)
      | .ok ⟨text, isStdin⟩ =>
          let (texts, readBefore) :=
            readOperands invocation action (readBefore || isStdin) later
          (texts.map (text :: ·), readBefore)

def missing? (invocation : Invocation) (names : List ByteText) : Option SortError :=
  names.findSome? fun name =>
    match invocation.operand false name with
    | .error .isDirectory | .error .closed | .ok _ => none
    | .error reason => some (.file "cannot read" name reason)

/-- The operands that a list of names gives, if one was asked for. -/
def operandNames (invocation : Invocation) (task : Task) :
    Except SortError (List ByteText × Bool) :=
  match task.namesFrom with
  | none => .ok (orStdin task.operands, false)
  | some source =>
      match task.operands with
      | extra :: _ => .error (.extraToNames extra)
      | [] =>
          match invocation.operand false source with
          | .error .isDirectory => .error (.file "read failed" source .isDirectory)
          | .error reason => .error (.file "open failed" source reason)
          | .ok ⟨text, isStdin⟩ =>
              let names := (recordsBy '\x00' text).map (contentBy '\x00')
              let bad := names.zipIdx.findSome? fun (name, index) =>
                if name.isEmpty then some (SortError.emptyName source (index + 1))
                else if name = ['-'] ∧ isStdin then some .stdinInNames
                else none
              match names, bad with
              | [], _ => .error (.noNames source)
              | _, some problem => .error problem
              | names, none => .ok (names, isStdin)

def SortError.status : SortError → Nat
  | .badChoice .. => 1
  | _ => 2

def failed (invocation : Invocation) (problem : SortError) : Filtered :=
  if problem.hasHint then invocation.usageError problem.status problem.message
  else .failure problem.status (invocation.message problem.message)

def Task.runCheck (task : Task) (invocation : Invocation) (order : LineOrder) (letter : Char)
    (names : List ByteText) : Filtered :=
  match names, task.output with
  | _ :: extra :: _, _ => failed invocation (.extraToCheck extra letter)
  | _, some _ => failed invocation (.incompatible (String.ofList [letter, 'o']))
  | names, none =>
      let (texts, readStdin) := readOperands invocation "open failed" false names
      let rest := if readStdin then some [] else none
      match texts with
      | .error problem => { failed invocation problem with rest }
      | .ok texts =>
          let lines := (recordsBy task.delimiter texts.flatten).map (contentBy task.delimiter)
          match order.disorder? 1 lines with
          | none => { rest }
          | some (number, line) =>
              let complaint := (names.head?.getD ['-']) ++ ofString s!":{number}: disorder: "
              let pieces := if letter = 'c' then
                  [⟨true, invocation.message complaint ++ line ++ [task.delimiter]⟩]
                else []
              { status := 1, pieces, rest }

/-- Sorts or merges, and writes the result where it is wanted. -/
def Task.runSort (task : Task) (invocation : Invocation) (order : LineOrder)
    (names : List ByteText) : Filtered :=
  let target : Except FileError (Option Node) :=
    match task.output with
    | none => .ok none
    | some name => (invocation.disk.findOrCreate name).map some
  match missing? invocation names, target with
  | some problem, _ => failed invocation problem
  | none, .error reason =>
      failed invocation (.file "open failed" (task.output.getD []) reason)
  | none, .ok target =>
      let refuse := fun _ : Unit =>
        failed invocation (.file "open failed" (task.output.getD []) .isDirectory)
      let action := if task.merge then "open failed" else "stat failed"
      let (texts, readStdin) := readOperands invocation action false names
      let rest := if readStdin then some [] else none
      let done : Filtered :=
        match texts with
        | .error problem => failed invocation problem
        | .ok texts =>
            let lists := texts.map fun text =>
              (recordsBy task.delimiter text).map (contentBy task.delimiter)
            let lines := if task.merge then order.merge lists else order.sort lists.flatten
            ({} : Filtered).write (lines.flatMap fun line => line ++ [task.delimiter])
      let done := { done with rest }
      match target with
      | none | some (.device .stdout) => done
      | some (.file route bytes) =>
          let result := if done.status = 0 then done.stdout else ofBytes bytes
          { done with
            pieces := done.pieces.filter (·.isError)
            disk := some (invocation.disk.put route result) }
      | some (.device .stderr) =>
          { done with pieces := done.pieces.map fun piece => { piece with isError := true } }
      | some (.device _) => { done with pieces := done.pieces.filter (·.isError) }
      | some _ => refuse ()

end LineSort

open LineSort

def sort (invocation : Invocation) : Filtered :=
  let (words, problem) := readWords invocation.arguments
  match words.foldlM takeWord {}, problem with
  | .error problem, _ => failed invocation problem
  | .ok _, some problem => failed invocation (.arguments problem)
  | .ok task, none =>
      match operandNames invocation task, task.lineOrder with
      | .error problem, _ => failed invocation problem
      | .ok _, .error problem => failed invocation problem
      | .ok (names, usedStdin), .ok order =>
          let done := match task.check with
            | some letter => task.runCheck invocation order letter names
            | none => task.runSort invocation order names
          if usedStdin then { done with rest := some [] } else done

end ConstructorAction.Tools
