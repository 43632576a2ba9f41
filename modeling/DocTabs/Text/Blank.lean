/-
Blank characters: the Unicode `White_Space` set, trimming, and splitting a text into words. Zero
width characters (U+200B, U+FEFF, U+180E) and the ASCII separators U+001C-U+001F are not blank.
-/
namespace DocTabs.Text

/-- Membership in the Unicode `White_Space` property. -/
def isBlank (c : Char) : Bool :=
  let n := c.toNat
  (0x09 ≤ n && n ≤ 0x0D) || n == 0x20 || n == 0x85 || n == 0xA0 || n == 0x1680 ||
    (0x2000 ≤ n && n ≤ 0x200A) || n == 0x2028 || n == 0x2029 || n == 0x202F || n == 0x205F ||
    n == 0x3000

/-! ## Trimming -/

/-- The text from its first character that is not blank. -/
def trimStart (s : List Char) : List Char :=
  s.dropWhile isBlank

/-- The text up to its last character that is not blank. -/
def trimEnd (s : List Char) : List Char :=
  (s.reverse.dropWhile isBlank).reverse

/-- The text without the blanks around it. -/
def trim (s : List Char) : List Char :=
  trimEnd (trimStart s)

/-- `trim` on a string. -/
def trimmed (s : String) : String :=
  String.ofList (trim s.toList)

theorem length_trimStart_le (s : List Char) : (trimStart s).length ≤ s.length :=
  (List.dropWhile_sublist isBlank).length_le

/-! ## Words -/

/-- The pieces of a text between the characters that satisfy `p`, empty pieces included. -/
def splitOn (p : Char → Bool) (s : List Char) : List (List Char) :=
  s.foldr (fun c pieces =>
    if p c then [] :: pieces else
      match pieces with
      | [] => [[c]]
      | piece :: rest => (c :: piece) :: rest) [[]]

/-- The maximal runs of characters that are not blank. -/
def words (s : List Char) : List (List Char) :=
  (splitOn isBlank s).filter (!·.isEmpty)

end DocTabs.Text
