import ConstructorAction.Tools.Shell.Token

namespace ConstructorAction.Tools.Shell

/-!
From text to programs. A program is read one line at a time, so that what a line does, such as
defining an alias, counts for the next. Words and commands are read together: a word may hold
commands.
-/

/-- Where in a word the reader is. -/
inductive Mode where
  | base
  | doubleQuoted
  | singleQuoted
  | arithmetic
  deriving DecidableEq, Repr, Inhabited

inductive CharRole where
  | plain
  | newline
  | backslash
  | singleQuote
  | doubleQuote
  /-- The quote that ends the mode. -/
  | endQuote
  | backquote
  | dollar
  | endBrace
  | opening
  | closing
  /-- Between quotes it would have a meaning, so that it is marked. -/
  | muted
  /-- Ends a word. -/
  | separator
  deriving DecidableEq, Repr, Inhabited

/-- What matters to patterns and to the places where a home directory may stand. -/
def mutedChars : ByteText := "!*?[=~:/-]".toList

def Mode.role (mode : Mode) (c : Char) : CharRole :=
  if c = '\n' then .newline
  else
    match mode with
    | .base =>
        match c with
        | '\\' => .backslash
        | '\'' => .singleQuote
        | '"' => .doubleQuote
        | '\x60' => .backquote
        | '$' => .dollar
        | '\x7d' => .endBrace
        | _ => if "<>();&| \t".contains c then .separator else .plain
    | .doubleQuoted =>
        match c with
        | '\\' => .backslash
        | '"' => .endQuote
        | '\x60' => .backquote
        | '$' => .dollar
        | '\x7d' => .endBrace
        | _ => if mutedChars.contains c then .muted else .plain
    | .singleQuoted =>
        if c = '\'' then .endQuote
        else if mutedChars.contains c || c == '\\' then .muted
        else .plain
    | .arithmetic =>
        match c with
        | '\\' => .backslash
        | '\x60' => .backquote
        | '$' => .dollar
        | '\x7d' => .endBrace
        | '(' => .opening
        | ')' => .closing
        | _ => .plain

/-- A part of a word that is read in one mode. -/
structure Level where
  mode : Mode
  isQuoted : Bool := false
  /-- Whether quotes were opened again inside of a reference. -/
  innerQuotes : Bool := false
  /-- How many references are open. -/
  nesting : Nat := 0
  quotedNesting : Nat := 0
  /-- Whether the level ends with the last of its references. -/
  isOwn : Bool := false
  parentheses : Nat := 0
  deriving DecidableEq, Repr, Inhabited

inductive Frame where
  | parameter (reference : ParameterReference)
  | arithmetic
  deriving DecidableEq, Repr, Inhabited

structure WordDraft where
  top : Level
  below : List Level := []
  /-- What was read so far, the last part first. -/
  parts : List Part := []
  /-- What is open, with the parts in front of it. -/
  frames : List (Frame × List Part) := []
  isQuoted : Bool := false
  deriving Inhabited

namespace WordDraft

def add (draft : WordDraft) (part : Part) : WordDraft := { draft with parts := part :: draft.parts }

def open_ (draft : WordDraft) (frame : Frame) : WordDraft :=
  { draft with frames := (frame, draft.parts) :: draft.frames, parts := [] }

def close (draft : WordDraft) : WordDraft :=
  match draft.frames with
  | [] => draft
  | (frame, before) :: frames =>
      let inside := draft.parts.reverse
      let part := match frame with
        | .parameter reference => Part.parameter reference inside
        | .arithmetic => .arithmetic inside
      { draft with frames, parts := part :: before }

def push (draft : WordDraft) (level : Level) : WordDraft :=
  { draft with top := level, below := draft.top :: draft.below }

def pop (draft : WordDraft) : WordDraft :=
  match draft.below with
  | [] => draft
  | top :: below => { draft with top, below }

/-- A closing brace, which ends a reference unless quotes are open in it. -/
def endBrace (draft : WordDraft) : WordDraft :=
  let top := draft.top
  if top.innerQuotes || top.nesting == 0 then draft.add (.char '\x7d')
  else
    let draft := draft.close
    let nesting := top.nesting - 1
    if nesting = 0 ∧ top.isOwn then draft.pop
    else
      { draft with
        top := { top with nesting, quotedNesting := top.quotedNesting - 1 } }

/-- Opens a reference that has a word. Patterns are read as if they were outside of quotes. -/
def openReference (draft : WordDraft) (reference : ParameterReference) : WordDraft :=
  let top := draft.top
  let mode := match reference.use, top.mode with
    | .trimmed _ _, _ => .base
    | _, .arithmetic => .doubleQuoted
    | _, mode => mode
  let draft :=
    if mode != top.mode || top.innerQuotes then
      draft.push { mode, isQuoted := mode != .base, isOwn := true }
    else draft
  let top := draft.top
  let quotedNesting := if top.isQuoted then top.quotedNesting + 1 else top.quotedNesting
  { draft with top := { top with nesting := top.nesting + 1, quotedNesting } }.open_
    (.parameter reference)

/-- Quotes of either kind, which leave a mark outside of documents. -/
def markQuote (draft : WordDraft) (inDocument : Bool) : WordDraft :=
  if inDocument then draft else draft.add .mark

def toggleInnerQuotes (draft : WordDraft) : WordDraft :=
  if draft.top.nesting = 0 then draft
  else { draft with top := { draft.top with innerQuotes := !draft.top.innerQuotes } }

def openQuote (draft : WordDraft) (mode : Mode) (inDocument : Bool) : WordDraft :=
  match mode with
  | .doubleQuoted =>
      ({ draft with top := { draft.top with mode, isQuoted := true } }).toggleInnerQuotes.markQuote
        inDocument
  | mode => { draft with top := { draft.top with mode } }.markQuote inDocument

/-- The quote that ends a mode. In a document, double quotes are plain. -/
def closeQuote (draft : WordDraft) (c : Char) (inDocument : Bool) : WordDraft :=
  if inDocument && draft.top.nesting == 0 then draft.add (.char c)
  else
    let draft :=
      if draft.top.quotedNesting = 0 then
        { draft with top := { draft.top with mode := .base, isQuoted := false } }
      else draft
    let draft := { draft with isQuoted := true }
    (if c = '"' then draft.toggleInnerQuotes else draft).markQuote inDocument

/-- A character behind a backslash. Between double quotes, the backslash stays in front of most. -/
def escape (draft : WordDraft) (inDocument : Bool) (c : Char) : WordDraft :=
  let top := draft.top
  let staysPlain := top.isQuoted && c != '\\' && c != '\x60' && c != '$' &&
    (c != '"' || (inDocument && top.nesting == 0)) && (c != '\x7d' || top.nesting == 0)
  let draft := if staysPlain then draft.add (.quoted '\\') else draft
  { draft.add (.quoted c) with isQuoted := true }

end WordDraft

/-- A word for a document or a command, and the mark of the document. -/
structure WordContext where
  document : Option (ByteText × Bool) := none
  endMark : Bool := false
  deriving DecidableEq, Repr, Inhabited

def WordContext.inDocument (context : WordContext) : Bool := context.document.isSome

/-- Whether a line is the end mark: the mark, and then the end of the line. -/
def Reading.endsDocument (mark : ByteText) (c : Option Char) (reading : Reading) : Option Reading :=
  match mark with
  | [] =>
      match c with
      | some '\n' => some { reading with line := reading.line + 1 }
      | none => some { reading with line := reading.line + 1 }
      | _ => none
  | first :: mark =>
      if c = some first then
        let (c, reading) := reading.next
        endsDocument mark c reading
      else none

namespace Reader

/-- Passes over tabs, starting with a character that was read. -/
def skipTabs : Nat → Option Char → Reader (Option Char)
  | 0, c => return c
  | fuel + 1, c => do if c = some '\t' then skipTabs fuel (← nextChar) else return c

/-- The first character of a line of a document; none if the document ends with the line. -/
def documentChar (context : WordContext) (c : Option Char) : Reader (Option Char) := do
  match context.document with
  | none => return c
  | some (mark, stripsTabs) =>
      let c ← if stripsTabs then skipTabs ((← get).source.length + 1) c else pure c
      match (← get).endsDocument mark c with
      | some reading =>
          set reading
          return none
      | none => return c

/-- The character after this one, with lines joined outside of single quotes. -/
def following (draft : WordDraft) : Reader (Option Char) :=
  if draft.top.mode = .singleQuoted then nextChar else nextJoined

def redirectionSign (sign : Char) : Reader RedirectionSign := do
  let c ← nextJoined
  if sign = '>' then
    match c with
    | some '>' => return .file .append
    | some '|' => return .file .replace
    | some '&' => return .duplicate
    | c =>
        putBack c
        return .file .write
  else
    match c with
    | some '<' =>
        let c ← nextJoined
        if c = some '-' then return .document true
        else
          putBack c
          return .document false
    | some '&' => return .duplicate
    | some '>' => return .file .readWrite
    | c =>
        putBack c
        return .file .read

/-- The text up to the closing backquote, with some backslashes taken away. -/
def backquotedText (isQuoted : Bool) : Nat → ByteText → Reader ByteText
  | 0, taken => return taken.reverse
  | fuel + 1, taken => do
      match ← nextJoined with
      | none => fault "EOF in backquote substitution"
      | some '\x60' => return taken.reverse
      | some '\\' =>
          match ← nextChar with
          | none => fault "EOF in backquote substitution"
          | some c =>
              if c == '\\' || c == '\x60' || c == '$' || (isQuoted && c == '"') then
                backquotedText isQuoted fuel (c :: taken)
              else backquotedText isQuoted fuel (c :: '\\' :: taken)
      | some '\n' =>
          countLine
          backquotedText isQuoted fuel ('\n' :: taken)
      | some c => backquotedText isQuoted fuel (c :: taken)

/-- What stands behind the name in braces: the use of the parameter. -/
def parameterUse (name : ByteText) (first : Option Char) : Reader ParameterReference := do
  let (emptyIsMissing, c) ←
    if first = some ':' then pure (true, ← nextJoined) else pure (false, first)
  let simple := fun use : ParameterUse => ({ name, use, emptyIsMissing } : ParameterReference)
  match c with
  | some '\x7d' => return simple .value
  | some '-' => return simple .otherwise
  | some '+' => return simple .instead
  | some '?' => return simple .required
  | some '=' => return simple .assigned
  | c =>
      if (c = some '%' ∨ c = some '#') ∧ !emptyIsMissing then
        let second ← nextJoined
        let atEnd := c == some '%'
        if second = c then return simple (.trimmed atEnd true)
        else
          putBack second
          return simple (.trimmed atEnd false)
      else return simple .invalid

def bracedReference : Reader ParameterReference := do
  let invalid := fun c : Option Char => do
    putBack c
    return ({ name := [], use := .invalid } : ParameterReference)
  let named := fun c : Char => do
    let wanted := if c.isDigit then Char.isDigit else isNameChar
    takeNameChars wanted ((← get).source.length + 1) [c]
  let length := fun (name : ByteText) (c : Option Char) => do
    putBack c
    let use := if c = some '\x7d' then ParameterUse.length else .invalid
    return ({ name, use } : ParameterReference)
  match ← nextJoined with
  | none => invalid none
  | some '\x7d' => invalid (some '\x7d')
  | some '#' =>
      let c ← nextJoined
      if c.any isNameChar then
        let name ← named (c.getD ' ')
        length name (← nextJoined)
      else
        let second ← nextJoined
        if c = some '\x7d' ∨ second ≠ some '\x7d' then
          putBack second
          parameterUse ['#'] c
        else if c.any isSpecialParameter then length (c.toList) second
        else invalid second
  | some c =>
      if isNameChar c then
        let name ← named c
        parameterUse name (← nextJoined)
      else if isSpecialParameter c then parameterUse [c] (← nextJoined)
      else invalid (← nextJoined)

end Reader

def isSpecialCommand (name : ByteText) : Bool :=
  [".", ":", "break", "continue", "eval", "exec", "exit", "export", "local", "readonly", "return",
    "set", "shift", "times", "trap", "unset"].contains (String.ofList name)

/-- Where a list of commands may end. -/
inductive ListKind where
  /-- At the end of the line. -/
  | line
  /-- In front of a token that ends lists, behind a command at least. -/
  | body
  /-- The same, and there may be no command. -/
  | optional
  deriving DecidableEq, Repr, Inhabited

def joinCommands (first : Option Command) (second : Command) : Command :=
  match first with
  | none => second
  | some first => .sequence first second

def inBackground (line : Nat) : Command → Command
  | .pipeline stages _ => .pipeline stages true
  | .redirected line body redirections => .background line body redirections
  | body => .background line body []

def RedirectionSign.descriptor (first : Char) : Nat := if first = '>' then 1 else 0

def duplicateSource (word : Word) : Option (Option Nat) :=
  match word with
  | [.char '-'] => some none
  | [.char c] => if c.isDigit then some (some (c.toNat - 48)) else none
  | _ => none

mutual

/-- Reads on in a word. The first character that does not belong to it comes back with it. -/
def readChars : Nat → WordContext → WordDraft → Option Char → Bool →
    Reader (WordDraft × Option Char)
  | 0, _, draft, _, _ => return (draft, none)
  | fuel + 1, context, draft, c, startsLine => do
      let c ← if startsLine then Reader.documentChar context c else pure c
      let goOn := fun draft : WordDraft => do
        readChars fuel context draft (← Reader.following draft) false
      let top := draft.top
      match c with
      | none => return (draft, none)
      | some c =>
          match top.mode.role c with
          | .newline =>
              if top.mode = .base ∧ top.nesting = 0 then return (draft, some c)
              else
                Reader.countLine
                let draft := draft.add (.char c)
                readChars fuel context draft (← Reader.following draft) true
          | .plain => goOn (draft.add (.char c))
          | .muted =>
              let isMarked := !context.inDocument || top.isQuoted || top.nesting != 0
              goOn (draft.add (if isMarked then .quoted c else .char c))
          | .backslash =>
              match ← Reader.nextChar with
              | none => goOn (draft.add (.quoted '\\'))
              | some c => goOn (draft.escape context.inDocument c)
          | .singleQuote => goOn (draft.openQuote .singleQuoted context.inDocument)
          | .doubleQuote => goOn (draft.openQuote .doubleQuoted context.inDocument)
          | .endQuote => goOn (draft.closeQuote c context.inDocument)
          | .dollar => goOn (← readReference fuel context draft)
          | .endBrace => goOn draft.endBrace
          | .opening =>
              goOn { draft.add (.char c) with
                top := { top with parentheses := top.parentheses + 1 } }
          | .closing =>
              if top.parentheses ≠ 0 then
                goOn { draft.add (.char c) with
                  top := { top with parentheses := top.parentheses - 1 } }
              else
                let second ← Reader.nextJoined
                if second = some ')' then goOn draft.close.pop
                else
                  Reader.putBack second
                  goOn (draft.add (.char c))
          | .backquote =>
              if context.endMark then goOn (draft.add (.char c))
              else goOn (draft.add (← readBackquoted fuel top.isQuoted))
          | .separator =>
              if top.nesting = 0 then return (draft, some c) else goOn (draft.add (.char c))

def readReference : Nat → WordContext → WordDraft → Reader WordDraft
  | 0, _, draft => return draft
  | fuel + 1, context, draft => do
      let c ← Reader.nextJoined
      let isStart := c.any fun c =>
        c == '(' || c == '\x7b' || isNameStart c || isSpecialParameter c
      if context.endMark || !isStart then
        Reader.putBack c
        return draft.add (.char '$')
      else
        match c with
        | some '(' =>
            let second ← Reader.nextJoined
            if second = some '(' then
              return (draft.push { mode := .arithmetic, isQuoted := true }).open_ .arithmetic
            else
              Reader.putBack second
              return draft.add (← readOutput fuel)
        | some '\x7b' =>
            let reference ← Reader.bracedReference
            if reference.use = .value then return draft.add (.parameter reference [])
            else return draft.openReference reference
        | c =>
            let first := c.getD ' '
            let name ←
              if isNameStart first then
                Reader.takeNameChars isNameChar ((← get).source.length + 1) [first]
              else pure [first]
            return draft.add (.parameter { name } [])

/-- A program between backquotes. It is read from its own text. -/
def readBackquoted : Nat → Bool → Reader Part
  | 0, _ => return .output none
  | fuel + 1, isQuoted => do
      let text ← Reader.backquotedText isQuoted ((← get).source.length + 1) []
      let around ← get
      set { around with source := sourceOf text, line := 1, pending := [], pushedBack := none }
      let program ← readList fuel .optional none false
      modify fun reading =>
        { reading with
          source := around.source
          line := around.line
          pending := around.pending
          pushedBack := none }
      return .output program

/-- A program between parentheses. Its documents end with it. -/
def readOutput : Nat → Reader Part
  | 0 => return .output none
  | fuel + 1 => do
      let pending := (← get).pending
      modify fun reading => { reading with pending := [] }
      let program ← readList fuel .optional none false
      match ← readToken fuel with
      | .closing => pure ()
      | token => Reader.unexpected token (some .closing)
      let source := (← get).source
      modify fun reading => { reading with source := [] }
      readDocuments fuel
      modify fun reading => { reading with source, pending }
      return .output program

def readWord : Nat → Option Char → Reader Token
  | 0, _ => return .endOfInput
  | fuel + 1, first => do
      let context : WordContext := { endMark := (← get).expected.endMark }
      let (draft, c) ← readChars fuel context { top := { mode := .base } } first false
      if draft.top.mode = .arithmetic then Reader.fault "Missing '))'"
      else if draft.top.mode ≠ .base then Reader.fault "Unterminated quoted string"
      else if draft.top.nesting ≠ 0 then Reader.fault "Missing '\x7d'"
      else
        let word := draft.parts.reverse
        let start := match word with
          | [] => some none
          | [.char digit] => if digit.isDigit then some (some (digit.toNat - 48)) else none
          | _ => none
        match c, start with
        | some sign, some descriptor =>
            if (sign = '<' ∨ sign = '>') ∧ !draft.isQuoted then
              let kind ← Reader.redirectionSign sign
              return .redirection (descriptor.getD (RedirectionSign.descriptor sign)) kind
            else
              Reader.putBack c
              return .word word draft.isQuoted
        | _, _ =>
            Reader.putBack c
            return .word word draft.isQuoted

def readRaw : Nat → Reader Token
  | 0 => return .endOfInput
  | fuel + 1 => do
      match (← get).pushedBack with
      | some token =>
          modify fun reading => { reading with pushedBack := none }
          return token
      | none =>
          let double := fun (sign : Char) (once twice : Token) => do
            let c ← Reader.nextJoined
            if c = some sign then return twice
            else
              Reader.putBack c
              return once
          match ← Reader.nextJoined with
          | none => return .endOfInput
          | some ' ' | some '\t' => readRaw fuel
          | some '#' =>
              modify fun reading =>
                { reading with
                  source := reading.source.dropWhile fun item => item != .char '\n' }
              readRaw fuel
          | some '\n' =>
              Reader.countLine
              return .newline
          | some '&' => double '&' .ampersand .and_
          | some '|' => double '|' .pipe .or_
          | some ';' => double ';' .semicolon .endOfChoice
          | some '(' => return .opening
          | some ')' => return .closing
          | some c => readWord fuel (some c)

/-- Passes over line feeds, and reads the documents behind them. -/
def skipNewlines : Nat → Token → Reader Token
  | 0, token => return token
  | fuel + 1, .newline => do
      readDocuments fuel
      skipNewlines fuel (← readRaw fuel)
  | _ + 1, token => return token

/-- The next token, seen as what is expected: a keyword, an alias. -/
def readTokenAs : Nat → Expectation → Reader Token
  | 0, _ => return .endOfInput
  | fuel + 1, expected => do
      let token ← readRaw fuel
      let token ← if expected.newlines then skipNewlines fuel token else pure token
      let expected := expected.or (← get).expected
      Reader.expect {}
      match token with
      | .word word false =>
          match keyword? word, expected.keywords with
          | some keyword, true => return .reserved keyword
          | _, _ =>
              let reading ← get
              match expected.aliases, plainText? word with
              | true, some name =>
                  match reading.active.contains name, reading.aliases.lookup name with
                  | false, some value =>
                      if !value.isEmpty then set (reading.insertAlias name value)
                      readTokenAs fuel expected
                  | _, _ => return token
              | _, _ => return token
      | token => return token

def readToken : Nat → Reader Token
  | 0 => return .endOfInput
  | fuel + 1 => do readTokenAs fuel (← get).expected

def readDocuments : Nat → Reader Unit
  | 0 => return
  | fuel + 1 => do
      match (← get).pending with
      | [] => return
      | document :: pending =>
          modify fun reading => { reading with pending }
          let level : Level :=
            if document.isLiteral then { mode := .singleQuoted }
            else { mode := .doubleQuoted, isQuoted := true }
          let first ← if document.isLiteral then Reader.nextChar else Reader.nextJoined
          let context : WordContext := { document := some (document.mark, document.stripsTabs) }
          let (draft, _) ← readChars fuel context { top := level } first true
          if draft.top.mode = .arithmetic then Reader.fault "Missing '))'"
          else if draft.top.nesting ≠ 0 then Reader.fault "Missing '\x7d'"
          else
            modify fun reading =>
              { reading with
                documents := (document.number, draft.parts.reverse) :: reading.documents }
            readDocuments fuel

def readTarget : Nat → Nat → RedirectionSign → Reader Redirection
  | 0, descriptor, _ => return .mk descriptor (.file .read) []
  | fuel + 1, descriptor, sign => do
      match sign with
      | .document _ => Reader.expect { endMark := true }
      | _ => pure ()
      match ← readToken fuel, sign with
      | .word word _, .file mode => return .mk descriptor (.file mode) word
      | .word word _, .duplicate =>
          return .mk descriptor (.duplicate (duplicateSource word)) word
      | .word word isQuoted, .document stripsTabs =>
          let mark := word.filterMap fun part =>
            match part with
            | .char c | .quoted c => some c
            | _ => none
          let number := (← get).nextDocument
          let document : PendingDocument := ⟨number, mark, stripsTabs, isQuoted⟩
          modify fun reading =>
            { reading with
              nextDocument := number + 1
              pending := reading.pending ++ [document] }
          return .mk descriptor (.document number (!isQuoted)) []
      | token, _ => Reader.unexpected token none

def readRedirections : Nat → List Redirection → Reader (List Redirection)
  | 0, found => return found.reverse
  | fuel + 1, found => do
      match ← readToken fuel with
      | .redirection descriptor sign =>
          readRedirections fuel ((← readTarget fuel descriptor sign) :: found)
      | token =>
          Reader.pushBack token
          return found.reverse

/-- A command that is made of words. Aliases are looked up as long as no word of the command
itself was read. -/
def readSimple : Nat → Nat → List Word → List Word → List Redirection → Reader Command
  | 0, line, assignments, words, redirections =>
      return .simple line assignments.reverse words.reverse redirections.reverse
  | fuel + 1, line, assignments, words, redirections => do
      Reader.expect { aliases := words.isEmpty }
      match ← readToken fuel with
      | .word word _ =>
          if words.isEmpty && (assignedName? word).isSome then
            readSimple fuel line (word :: assignments) words redirections
          else readSimple fuel line assignments (word :: words) redirections
      | .redirection descriptor sign =>
          let redirection ← readTarget fuel descriptor sign
          readSimple fuel line assignments words (redirection :: redirections)
      | token =>
          match token, words, assignments, redirections with
          | .opening, [word], [], [] =>
              match ← readToken fuel with
              | .closing => pure ()
              | token => Reader.unexpected token (some .closing)
              let name := (plainText? word).getD []
              if !isName name || isSpecialCommand name then Reader.fault "Bad function name"
              else
                Reader.expect { newlines := true, keywords := true, aliases := true }
                let line := (← get).line
                return .define line name (← readCommand fuel)
          | token, _, _, _ =>
              Reader.pushBack token
              return .simple line assignments.reverse words.reverse redirections.reverse

def readBody : Nat → Keyword → Reader (Option Command)
  | 0, _ => return none
  | fuel + 1, keyword => do
      let body ← readList fuel .body none false
      match ← readToken fuel with
      | .reserved found =>
          if found = keyword then return body
          else Reader.unexpected (.reserved found) (some (.reserved keyword))
      | token => Reader.unexpected token (some (.reserved keyword))

/-- A conditional behind its first keyword, without the last one. -/
def readBranch : Nat → Reader Command
  | 0 => return .branch none none none
  | fuel + 1 => do
      let condition ← readBody fuel .then_
      let body ← readList fuel .body none false
      match ← readToken fuel with
      | .reserved .elif => return .branch condition body (some (← readBranch fuel))
      | .reserved .else_ => return .branch condition body (← readList fuel .body none false)
      | token =>
          Reader.pushBack token
          return .branch condition body none

/-- The words of a loop; none if it runs over the parameters. -/
def readLoopWords : Nat → List Word → Reader (List Word)
  | 0, words => return words.reverse
  | fuel + 1, words => do
      match ← readToken fuel with
      | .word word _ => readLoopWords fuel (word :: words)
      | .newline | .semicolon => return words.reverse
      | token => Reader.unexpected token none

/-- The patterns of a choice, up to the closing parenthesis. -/
def readPatterns : Nat → Token → List Word → Reader (List Word)
  | 0, _, patterns => return patterns.reverse
  | fuel + 1, token, patterns => do
      let pattern := match token with
        | .word word _ => word
        | .reserved keyword => keyword.text.toList.map .char
        | _ => []
      match ← readToken fuel with
      | .pipe => readPatterns fuel (← readToken fuel) (pattern :: patterns)
      | .closing => return (pattern :: patterns).reverse
      | token => Reader.unexpected token (some .closing)

def readChoices : Nat → List (List Word × Option Command) →
    Reader (List (List Word × Option Command))
  | 0, choices => return choices.reverse
  | fuel + 1, choices => do
      Reader.expect { newlines := true, keywords := true }
      match ← readToken fuel with
      | .reserved .esac => return choices.reverse
      | token =>
          let token ← match token with
            | .opening => readToken fuel
            | token => pure token
          let patterns ← readPatterns fuel token []
          let body ← readList fuel .optional none false
          let choices := (patterns, body) :: choices
          Reader.expect { newlines := true, keywords := true }
          match ← readToken fuel with
          | .reserved .esac => return choices.reverse
          | .endOfChoice => readChoices fuel choices
          | token => Reader.unexpected token (some .endOfChoice)

def readCommand : Nat → Reader Command
  | 0 => return default
  | fuel + 1 => do
      let line := (← get).line
      let everything : Expectation := { newlines := true, keywords := true, aliases := true }
      let token ← readToken fuel
      let finish := fun body : Command => do
        Reader.expect { keywords := true, aliases := true }
        match body, ← readRedirections fuel [] with
        | body, [] => return body
        | .subshell line body _, redirections => return .subshell line body redirections
        | body, redirections => return .redirected line body redirections
      match token with
      | .reserved .if_ =>
          let body ← readBranch fuel
          match ← readToken fuel with
          | .reserved .fi => finish body
          | token => Reader.unexpected token (some (.reserved .fi))
      | .reserved .while_ =>
          let condition ← readBody fuel .do_
          finish (.loop .while_ condition (← readBody fuel .done))
      | .reserved .until_ =>
          let condition ← readBody fuel .do_
          finish (.loop .until_ condition (← readBody fuel .done))
      | .reserved .for_ =>
          match ← readToken fuel with
          | .word word false =>
              let name := (plainText? word).getD []
              if !isName name then Reader.fault "Bad for loop variable"
              else
                Reader.expect everything
                let words ← match ← readToken fuel with
                  | .reserved .in_ => readLoopWords fuel []
                  | token => do
                      match token with
                      | .semicolon => pure ()
                      | token => Reader.pushBack token
                      pure [[.mark, .parameter { name := ['@'] } [], .mark]]
                Reader.expect everything
                match ← readToken fuel with
                | .reserved .do_ => finish (.forEach line name words (← readBody fuel .done))
                | token => Reader.unexpected token (some (.reserved .do_))
          | _ => Reader.fault "Bad for loop variable"
      | .reserved .case_ =>
          match ← readToken fuel with
          | .word subject _ =>
              Reader.expect everything
              match ← readToken fuel with
              | .reserved .in_ => finish (.choose line subject (← readChoices fuel []))
              | token => Reader.unexpected token (some (.reserved .in_))
          | token => Reader.unexpected token (some (.word [] false))
      | .opening =>
          let body ← readList fuel .body none false
          match ← readToken fuel with
          | .closing => finish (.subshell line body [])
          | token => Reader.unexpected token (some .closing)
      | .reserved .begin_ =>
          match ← readBody fuel .end_ with
          | some body => finish body
          | none => finish default
      | .word _ _ | .redirection _ _ =>
          Reader.pushBack token
          readSimple fuel (← get).line [] [] []
      | token => Reader.unexpected token none

def readStages : Nat → List Command → Reader (List Command)
  | 0, stages => return stages.reverse
  | fuel + 1, stages => do
      match ← readToken fuel with
      | .pipe =>
          Reader.expect { newlines := true, keywords := true, aliases := true }
          readStages fuel ((← readCommand fuel) :: stages)
      | token =>
          Reader.pushBack token
          return stages.reverse

def readPipeline : Nat → Reader Command
  | 0 => return default
  | fuel + 1 => do
      let isNegated ← match ← readToken fuel with
        | .reserved .not => do
            Reader.expect { keywords := true, aliases := true }
            pure true
        | token => do
            Reader.pushBack token
            pure false
      let first ← readCommand fuel
      let body ← match ← readStages fuel [first] with
        | [single] => pure single
        | stages => pure (.pipeline stages false)
      return if isNegated then .negated body else body

/-- Pipelines between signs that make each depend on the one before. -/
def readAndOr : Nat → Option Command → Reader Command
  | 0, _ => return default
  | fuel + 1, none => do readAndOr fuel (some (← readPipeline fuel))
  | fuel + 1, some first => do
      let everything : Expectation := { newlines := true, keywords := true, aliases := true }
      match ← readToken fuel with
      | .and_ =>
          Reader.expect everything
          readAndOr fuel (some (.both first (← readPipeline fuel)))
      | .or_ =>
          Reader.expect everything
          readAndOr fuel (some (.either first (← readPipeline fuel)))
      | token =>
          Reader.pushBack token
          return first

/-- A list of commands, behind those that were read before. -/
def readList : Nat → ListKind → Option Command → Bool → Reader (Option Command)
  | 0, _, before, _ => return before
  | fuel + 1, kind, before, hasStarted => do
      Reader.expect { newlines := kind != .line, keywords := true, aliases := true }
      match ← readToken fuel with
      | .newline =>
          readDocuments fuel
          return before
      | .endOfInput =>
          readDocuments fuel
          Reader.pushBack .endOfInput
          return before
      | token =>
          Reader.pushBack token
          if kind != .line && (hasStarted || kind == .optional) && token.endsList then
            return before
          else
            let line := (← get).line
            let command ← readAndOr fuel none
            match ← readToken fuel with
            | .ampersand =>
                readList fuel kind (some (joinCommands before (inBackground line command))) true
            | .semicolon => readList fuel kind (some (joinCommands before command)) true
            | .newline =>
                Reader.pushBack .newline
                readList fuel kind (some (joinCommands before command)) true
            | .endOfInput =>
                readDocuments fuel
                Reader.pushBack .endOfInput
                return some (joinCommands before command)
            | token =>
                if kind = .line then Reader.unexpected token none
                else
                  Reader.pushBack token
                  return some (joinCommands before command)

end

/-- A line of a program: its commands, if there are any, and whether the program ends with it. -/
structure ProgramLine where
  command : Option Command := none
  isLast : Bool := false
  deriving Inhabited

/-- How deep the reader goes. Programs are nowhere near it. -/
def readerDepth : Nat := 1000000

/-- Reads the next line; none behind the last one. -/
def readLine : Reader (Option ProgramLine) := do
  modify fun reading => { reading with pushedBack := none, pending := [] }
  Reader.expect {}
  let command ← readList readerDepth .line none false
  let isLast := match (← get).pushedBack with
    | some .endOfInput => true
    | _ => false
  if isLast && command.isNone then return none else return some { command, isLast }

end ConstructorAction.Tools.Shell
