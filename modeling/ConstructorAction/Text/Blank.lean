namespace ConstructorAction.Text

/-!
Blank characters, and what is left of a text when they are taken off its ends. A blank is a
character of the Unicode property White_Space; U+200B and U+FEFF, which only look blank, are not.
-/

/-- The characters of White_Space. -/
def isBlank (c : Char) : Bool :=
  let n := c.toNat
  (9 ≤ n && n ≤ 13) || n == 0x20 || n == 0x85 || n == 0xA0 || n == 0x1680 ||
    (0x2000 ≤ n && n ≤ 0x200A) || n == 0x2028 || n == 0x2029 || n == 0x202F || n == 0x205F ||
    n == 0x3000

def trimStart (text : List Char) : List Char := text.dropWhile isBlank

def trimEnd (text : List Char) : List Char := (text.reverse.dropWhile isBlank).reverse

def trim (text : List Char) : List Char := trimEnd (trimStart text)

/-- The part of a text before its first blank, and the rest from that blank on. -/
def firstWord (text : List Char) : List Char × List Char :=
  (text.takeWhile fun c => !isBlank c, text.dropWhile fun c => !isBlank c)

/-- The maximal runs of non-blank characters, in order. -/
def words (text : List Char) : List (List Char) :=
  go [] text
where
  go (word : List Char) : List Char → List (List Char)
    | [] => if word.isEmpty then [] else [word.reverse]
    | c :: rest =>
        if isBlank c then
          if word.isEmpty then go [] rest else word.reverse :: go [] rest
        else go (c :: word) rest

@[simp] theorem trimStart_nil : trimStart [] = [] := rfl

theorem length_trimStart_le (text : List Char) : (trimStart text).length ≤ text.length :=
  (List.dropWhile_sublist isBlank).length_le

end ConstructorAction.Text
