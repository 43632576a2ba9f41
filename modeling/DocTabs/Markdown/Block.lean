/-
Block structure of a markdown page. The type of the inline content is a parameter: the outline of a
page holds source text, the finished page holds what was read from it.
-/
namespace DocTabs.Markdown

/-- Alignment of a table column. -/
inductive Alignment where
  | none | left | center | right
  deriving DecidableEq, Repr

/-- A block with inline content of type `α`. -/
inductive Block (α : Type) where
  | paragraph (content : α)
  /-- A paragraph of a tight list, which is written without tags. -/
  | tight (content : α)
  | heading (level : Nat) (content : α)
  | rule
  /-- A code block; a fenced one has an info string, which may be empty. -/
  | code (info : String) (content : String)
  /-- Raw HTML, passed through as it is. -/
  | html (content : String)
  | quote (content : List (Block α))
  /-- A list, with its first number if it is an ordered one. -/
  | list (start : Option Nat) (items : List (List (Block α)))
  | table (columns : List Alignment) (header : List α) (rows : List (List α))
  /-- The text of the footnote of this label. -/
  | footnote (label : String) (content : List (Block α))
  deriving Repr

namespace Block

variable {α β : Type}

mutual

/-- The block with its inline content replaced. -/
def map (f : α → β) : Block α → Block β
  | .paragraph a => .paragraph (f a)
  | .tight a => .tight (f a)
  | .heading level a => .heading level (f a)
  | .rule => .rule
  | .code info s => .code info s
  | .html s => .html s
  | .quote bs => .quote (mapAll f bs)
  | .list start items => .list start (mapItems f items)
  | .table columns header rows => .table columns (header.map f) (rows.map (·.map f))
  | .footnote label bs => .footnote label (mapAll f bs)

/-- The blocks with their inline content replaced. -/
def mapAll (f : α → β) : List (Block α) → List (Block β)
  | [] => []
  | b :: bs => b.map f :: mapAll f bs

/-- The list items with their inline content replaced. -/
def mapItems (f : α → β) : List (List (Block α)) → List (List (Block β))
  | [] => []
  | bs :: items => mapAll f bs :: mapItems f items

end

mutual

/-- The content of the first heading of level 1, in document order. -/
def mainHeading? : Block α → Option α
  | .heading level a => if level = 1 then some a else none
  | .quote bs => mainHeadingIn? bs
  | .list _ items => mainHeadingInItems? items
  | .footnote _ bs => mainHeadingIn? bs
  | .paragraph _ => none
  | .tight _ => none
  | .rule => none
  | .code _ _ => none
  | .html _ => none
  | .table _ _ _ => none

/-- The content of the first heading of level 1 among the blocks. -/
def mainHeadingIn? : List (Block α) → Option α
  | [] => none
  | b :: bs => b.mainHeading? <|> mainHeadingIn? bs

/-- The content of the first heading of level 1 among the list items. -/
def mainHeadingInItems? : List (List (Block α)) → Option α
  | [] => none
  | bs :: items => mainHeadingIn? bs <|> mainHeadingInItems? items

end

/-- A paragraph as it stands in a tight list; any other block is unchanged. -/
def tighten : Block α → Block α
  | .paragraph a => .tight a
  | b => b

end Block

end DocTabs.Markdown
