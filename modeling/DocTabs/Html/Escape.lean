/-
Character references for the characters that are special in HTML, and the safe form of a link
destination.
-/
namespace DocTabs.Html

/-- The written form of one character inside an attribute value. -/
def escapeChar (c : Char) : List Char :=
  if c = '&' then "&amp;".toList
  else if c = '<' then "&lt;".toList
  else if c = '>' then "&gt;".toList
  else if c = '"' then "&quot;".toList
  else if c = '\'' then "&#39;".toList
  else [c]

/-- The text with every special character written as a reference. -/
def escape (s : String) : String :=
  String.ofList (s.toList.flatMap escapeChar)

/-- The written form of one character in running text, where quotes need no reference. -/
def escapeTextChar (c : Char) : List Char :=
  if c = '"' ∨ c = '\'' then [c] else escapeChar c

/-- Running text with its special characters written as references. -/
def escapeText (s : String) : String :=
  String.ofList (s.toList.flatMap escapeTextChar)

/-- An attribute with a blank before its name and its value escaped. -/
def attr (name value : String) : String :=
  " " ++ name ++ "=\"" ++ escape value ++ "\""

/-! ## Link destinations -/

/-- Whether a character stands for itself in a link destination. -/
def isLinkSafe (c : Char) : Bool :=
  c.isAlphanum || c ∈ "!#$%()*+,-./:;=?@^_~".toList

/-- The upper-case hexadecimal digit of a number below 16. -/
def hexDigit (n : Nat) : Char :=
  if n < 10 then Char.ofNat (48 + n) else Char.ofNat (55 + n)

/-- A byte written with a percent sign. -/
def percent (b : UInt8) : List Char :=
  ['%', hexDigit (b.toNat / 16), hexDigit (b.toNat % 16)]

/-- The written form of one character in a link destination. -/
def escapeLinkChar (c : Char) : List Char :=
  if isLinkSafe c then [c]
  else if c = '&' then "&amp;".toList
  else if c = '\'' then "&#x27;".toList
  else (String.singleton c).toUTF8.toList.flatMap percent

/-- A link destination as an attribute value. -/
def escapeLink (s : String) : String :=
  String.ofList (s.toList.flatMap escapeLinkChar)

end DocTabs.Html
