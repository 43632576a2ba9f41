/-
Reading HTML as tags and the texts between them. Attribute values are double-quoted, and neither they
nor texts are decoded. Tags that were written are read back, whatever stands in the values and texts,
as long as no value holds a quote and no text a `<`.
-/
import Mathlib.Data.List.Basic

namespace DocTabs.Html

/-- A tag. -/
inductive Tag where
  | start (name : String) (attributes : List (String × String))
  | stop (name : String)
  deriving DecidableEq, Repr

/-- A tag and the text right before it. -/
structure Token where
  before : String
  tag : Tag
  deriving DecidableEq, Repr

/-! ## Writing -/

/-- An attribute whose value is written as it is. -/
def rawAttribute (a : String × String) : String :=
  " " ++ a.1 ++ "=\"" ++ a.2 ++ "\""

def Tag.print : Tag → String
  | start name as => "<" ++ name ++ String.join (as.map rawAttribute) ++ ">"
  | stop name => "</" ++ name ++ ">"

def Token.print (t : Token) : String := t.before ++ t.tag.print

/-! ## Reading -/

/-- A start tag that is being read. -/
structure Draft where
  before : List Char
  name : List Char
  attributes : List (String × String) := []

/-- What is being read. -/
inductive Mode where
  | text (raw : List Char)
  /-- Behind a `<`. -/
  | sign (before : List Char)
  | stopName (before name : List Char)
  | startName (d : Draft)
  | attributeName (d : Draft) (name : List Char)
  /-- Behind the `=` of an attribute. -/
  | equals (d : Draft) (name : List Char)
  | value (d : Draft) (name value : List Char)
  /-- Behind an attribute. -/
  | behind (d : Draft)

/-- The start tag, when its `>` is read. -/
def Draft.token (d : Draft) : Token :=
  ⟨String.ofList d.before, .start (String.ofList d.name) d.attributes⟩

/-- The start tag with one more attribute. -/
def Draft.add (d : Draft) (name value : List Char) : Draft :=
  { d with attributes := d.attributes ++ [(String.ofList name, String.ofList value)] }

namespace Mode

/-- Reads one character: what is being read then, and the token that it ends. Fails where no such
character may stand. -/
def step : Mode → Char → Option (Mode × Option Token)
  | text raw, c => some (if c = '<' then sign raw else text (raw ++ [c]), none)
  | sign before, c =>
    some (if c = '/' then stopName before [] else startName { before, name := [c] }, none)
  | stopName before name, c =>
    if c = '>' then some (text [], some ⟨String.ofList before, .stop (String.ofList name)⟩)
    else some (stopName before (name ++ [c]), none)
  | startName d, c =>
    if c = '>' then some (text [], some d.token)
    else if c = ' ' then some (attributeName d [], none)
    else some (startName { d with name := d.name ++ [c] }, none)
  | attributeName d name, c =>
    some (if c = '=' then equals d name else attributeName d (name ++ [c]), none)
  | equals d name, c => if c = '"' then some (value d name [], none) else none
  | value d name v, c =>
    some (if c = '"' then behind (d.add name v) else value d name (v ++ [c]), none)
  | behind d, c =>
    if c = '>' then some (text [], some d.token)
    else if c = ' ' then some (attributeName d [], none)
    else none

/-- Reads to the end: the tokens in order, and the text behind the last tag. -/
def read : Mode → List Char → Option (List Token × String)
  | text raw, [] => some ([], String.ofList raw)
  | _, [] => none
  | m, c :: s => (m.step c).bind fun p => (p.1.read s).map fun q => (p.2.toList ++ q.1, q.2)

end Mode

/-- The tags of an HTML text, each with the text before it, and the text behind the last one. -/
def tokens? (html : String) : Option (List Token × String) :=
  (Mode.text []).read html.toList

/-! ## What is written is read -/

/-- A tag that is known by how it is written: no value holds a quote. -/
def Tag.IsPlain : Tag → Prop
  | start name as => (∃ c w, name.toList = c :: w ∧ c ≠ '/' ∧ '>' ∉ w ∧ ' ' ∉ w) ∧
      ∀ a ∈ as, '=' ∉ a.1.toList ∧ '"' ∉ a.2.toList
  | stop name => '>' ∉ name.toList

/-- A tag that is known by how it is written behind a text without a `<`. -/
def Token.IsPlain (t : Token) : Prop := '<' ∉ t.before.toList ∧ t.tag.IsPlain

namespace Mode

variable {m m' : Mode} {d : Draft} {c : Char} {s : List Char}

theorem read_cons (m : Mode) (c : Char) (s : List Char) : m.read (c :: s) =
    (m.step c).bind fun p => (p.1.read s).map fun q => (p.2.toList ++ q.1, q.2) := by
  rw [read]

/-- A character that ends no token. -/
theorem read_of_step (h : m.step c = some (m', none)) : m.read (c :: s) = m'.read s := by
  rw [read_cons, h]
  show Option.map id (m'.read s) = _
  rw [Option.map_id_apply]

/-- A character that ends a token. -/
theorem read_of_end {t : Token} (h : m.step c = some (m', some t)) :
    m.read (c :: s) = (m'.read s).map fun q => (t :: q.1, q.2) := by
  rw [read_cons, h]
  rfl

/-- A word that is only collected. -/
theorem read_word {m : List Char → Mode} {w : List Char}
    (h : ∀ acc, ∀ c ∈ w, (m acc).step c = some (m (acc ++ [c]), none)) (acc s : List Char) :
    (m acc).read (w ++ s) = (m (acc ++ w)).read s := by
  induction w generalizing acc with
  | nil => rw [List.nil_append, List.append_nil]
  | cons c w ih =>
    rw [List.cons_append, read_of_step (h acc c (by simp)),
      ih fun acc c hc => h acc c (List.mem_cons_of_mem _ hc), List.append_assoc, List.singleton_append]

theorem read_text {w : List Char} (h : '<' ∉ w) (raw s : List Char) :
    (text raw).read (w ++ s) = (text (raw ++ w)).read s :=
  read_word (fun acc c hc => by rw [step, if_neg (ne_of_mem_of_not_mem hc h)]) raw s

theorem read_attribute {a : String × String} (hn : '=' ∉ a.1.toList) (hv : '"' ∉ a.2.toList)
    (hm : m.step ' ' = some (attributeName d [], none)) :
    m.read ((rawAttribute a).toList ++ s) = (behind (d.add a.1.toList a.2.toList)).read s := by
  simp only [rawAttribute, String.toList_append, List.append_assoc]
  show m.read (' ' :: (a.1.toList ++ ('=' :: '"' :: (a.2.toList ++ ('"' :: s))))) = _
  rw [read_of_step hm,
    read_word (m := attributeName d) (fun acc c hc => by rw [step, if_neg (ne_of_mem_of_not_mem hc hn)]),
    List.nil_append, read_of_step (show _ = some (equals d a.1.toList, none) from rfl),
    read_of_step (show _ = some (value d a.1.toList [], none) from rfl),
    read_word (m := value d a.1.toList) (fun acc c hc => by
      rw [step, if_neg (ne_of_mem_of_not_mem hc hv)]),
    List.nil_append]
  exact read_of_step rfl

/-- Attributes behind which a tag ends. -/
theorem read_attributes {as : List (String × String)}
    (has : ∀ a ∈ as, '=' ∉ a.1.toList ∧ '"' ∉ a.2.toList)
    (hblank : m.step ' ' = some (attributeName d [], none))
    (hend : m.step '>' = some (text [], some d.token)) :
    m.read ((String.join (as.map rawAttribute)).toList ++ '>' :: s) =
      ((text []).read s).map fun q =>
        (⟨String.ofList d.before, .start (String.ofList d.name) (d.attributes ++ as)⟩ :: q.1, q.2) := by
  induction as generalizing m d with
  | nil =>
    rw [List.append_nil]
    exact read_of_end hend
  | cons a as ih =>
    obtain ⟨⟨hn, hv⟩, has'⟩ := List.forall_mem_cons.1 has
    rw [List.map_cons, String.join_cons, String.toList_append, List.append_assoc,
      read_attribute hn hv hblank, ih has' rfl rfl]
    simp only [Draft.add, String.ofList_toList, List.append_assoc, List.singleton_append]

theorem read_tag {tag : Tag} (h : tag.IsPlain) (before s : List Char) :
    (text before).read (tag.print.toList ++ s) =
      ((text []).read s).map fun q => (⟨String.ofList before, tag⟩ :: q.1, q.2) := by
  cases tag with
  | start name as =>
    obtain ⟨⟨c, w, hname, hc, hw, hw'⟩, has⟩ := h
    simp only [Tag.print, String.toList_append, List.append_assoc, hname]
    show (text before).read ('<' :: c :: (w ++ (_ ++ '>' :: s))) = _
    have hstart : (sign before).step c = some (startName { before, name := [c] }, none) := by
      rw [step, if_neg hc]
    rw [read_of_step (show _ = some (sign before, none) from rfl), read_of_step hstart]
    -- the rest of the name is collected, and then the attributes are
    rw [read_word (m := fun name => startName { before, name }) (fun acc e he => by
        rw [step, if_neg (ne_of_mem_of_not_mem he hw), if_neg (ne_of_mem_of_not_mem he hw')]),
      read_attributes has rfl rfl, List.singleton_append, ← hname, String.ofList_toList, List.nil_append]
  | stop name =>
    simp only [Tag.print, String.toList_append, List.append_assoc]
    show (text before).read ('<' :: '/' :: (name.toList ++ '>' :: s)) = _
    rw [read_of_step (show _ = some (sign before, none) from rfl),
      read_of_step (show _ = some (stopName before [], none) from rfl),
      read_word (m := stopName before) (fun acc e he => by
        rw [step, if_neg (ne_of_mem_of_not_mem he h)]),
      List.nil_append, read_of_end rfl, String.ofList_toList]

theorem read_tokens {ts : List Token} (h : ∀ t ∈ ts, t.IsPlain) (s : List Char) :
    (text []).read ((String.join (ts.map Token.print)).toList ++ s) =
      ((text []).read s).map fun q => (ts ++ q.1, q.2) := by
  induction ts with
  | nil => exact (Option.map_id_apply ..).symm
  | cons t ts ih =>
    obtain ⟨⟨htext, htag⟩, hts⟩ := List.forall_mem_cons.1 h
    rw [List.map_cons, String.join_cons, String.toList_append, List.append_assoc, Token.print,
      String.toList_append, List.append_assoc, read_text htext, read_tag htag, ih hts, Option.map_map,
      List.nil_append, String.ofList_toList]
    rfl

end Mode

/-- Tokens that were written, and a text behind them, are read back. -/
theorem tokens?_print {ts : List Token} (h : ∀ t ∈ ts, t.IsPlain) {last : String}
    (hlast : '<' ∉ last.toList) :
    tokens? (String.join (ts.map Token.print) ++ last) = some (ts, last) := by
  have hread : (Mode.text []).read last.toList = some ([], last) := by
    rw [← List.append_nil last.toList, Mode.read_text hlast, Mode.read, List.nil_append,
      String.ofList_toList]
  rw [tokens?, String.toList_append, Mode.read_tokens h, hread, Option.map_some, List.append_nil]

end DocTabs.Html
