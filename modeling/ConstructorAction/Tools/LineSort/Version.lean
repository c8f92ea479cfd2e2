import ConstructorAction.Tools.ByteText

namespace ConstructorAction.Tools.LineSort

/-!
The order of names with version numbers in them: runs of digits count by their value, and file
suffixes only when everything else is equal.
-/

/-- The rank of a character outside of a run of digits, where the end and digits rank by themselves:
a tilde comes before the end, and letters before other characters. -/
def versionRank : Option Char → Int
  | none => -1
  | some c =>
      if c.isDigit then 0
      else if c.isAlpha then c.toNat
      else if c = '~' then -2
      else c.toNat + 256

/-- Compares up to the next run of digits in both texts, and gives what is left of them. -/
def orderBeforeDigits : ByteText → ByteText → Ordering × ByteText × ByteText
  | [], [] => (.eq, [], [])
  | [], d :: right =>
      if d.isDigit then (.eq, [], d :: right) else (compare (-1) (versionRank (some d)), [], right)
  | c :: left, [] =>
      if c.isDigit then (.eq, c :: left, [])
      else (compare (versionRank (some c)) (-1), left, [])
  | c :: left, d :: right =>
      if c.isDigit && d.isDigit then (.eq, c :: left, d :: right)
      else
        match compare (versionRank (some c)) (versionRank (some d)) with
        | .eq => orderBeforeDigits left right
        | decided => (decided, left, right)

/-- A run of digits without leading zeros, and what follows it. -/
def takeVersionNumber (text : ByteText) : ByteText × ByteText :=
  let text := text.dropWhile (· == '0')
  let digits := text.takeWhile Char.isDigit
  (digits, text.drop digits.length)

def orderPieces : Nat → ByteText → ByteText → Ordering
  | 0, _, _ => .eq
  | fuel + 1, left, right =>
      if left.isEmpty && right.isEmpty then .eq
      else
        match orderBeforeDigits left right with
        | (.eq, left, right) =>
            let (leftDigits, left) := takeVersionNumber left
            let (rightDigits, right) := takeVersionNumber right
            match compare leftDigits.length rightDigits.length with
            | .eq =>
                match compare (valueInBase 10 leftDigits) (valueInBase 10 rightDigits) with
                | .eq => orderPieces fuel left right
                | decided => decided
            | decided => decided
        | (decided, _, _) => decided

/-- Whether a text is made of suffixes: points with a letter or tilde and then letters, digits and
tildes. -/
def isSuffixes : ByteText → Bool
  | [] => true
  | '.' :: c :: rest =>
      (c.isAlpha || c == '~') &&
        isSuffixes (rest.dropWhile fun d => d.isAlphanum || d == '~')
  | _ => false
termination_by text => text.length
decreasing_by
  simp only [List.length_cons]
  have shorter := (List.dropWhile_sublist (fun d : Char => d.isAlphanum || d == '~')
    (l := rest)).length_le
  omega

/-- A name without its suffixes. The first character always stays. -/
def withoutSuffixes (name : ByteText) : ByteText :=
  match name with
  | [] => []
  | c :: rest => c :: go rest
where
  go : ByteText → ByteText
    | [] => []
    | c :: rest => if isSuffixes (c :: rest) then [] else c :: go rest

/-- Names that begin with a point come first: the point alone, and then two of them. -/
def pointRank (name : ByteText) : Nat :=
  match name with
  | [] => 0
  | ['.'] => 1
  | ['.', '.'] => 2
  | '.' :: _ => 3
  | _ => 4

def versionOrder (left right : ByteText) : Ordering :=
  let whole := orderPieces (left.length + right.length + 1) left right
  match compare (pointRank left) (pointRank right) with
  | .eq =>
      if pointRank left < 3 then .eq
      else
        let shortLeft := withoutSuffixes left
        let shortRight := withoutSuffixes right
        (orderPieces (left.length + right.length + 1) shortLeft shortRight).then whole
  | decided => decided

end ConstructorAction.Tools.LineSort
