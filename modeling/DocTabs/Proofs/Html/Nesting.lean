/-
Tags as a tree of elements. A stack of the elements that are open takes each tag in turn, so the tags
of a tree give the tree back.
-/
import DocTabs.Proofs.Html.Reader

namespace DocTabs.Html

/-- An element: the text right before it, its tag with the attributes, its children, and the text
behind the last of them. -/
inductive Node where
  | element (before tag : String) (attributes : List (String × String)) (children : List Node)
      (last : String)
  deriving Repr

mutual

/-- The tokens of an element. -/
def Node.tokens : Node → List Token
  | .element before tag as children last =>
    ⟨before, .start tag as⟩ :: (tokensAll children ++ [⟨last, .stop tag⟩])

/-- The tokens of elements in order. -/
def tokensAll : List Node → List Token
  | [] => []
  | n :: ns => n.tokens ++ tokensAll ns

end

theorem tokensAll_map {α : Type} (f : α → Node) (xs : List α) :
    tokensAll (xs.map f) = xs.flatMap fun x => (f x).tokens := by
  induction xs with
  | nil => rw [List.map_nil, tokensAll, List.flatMap_nil]
  | cons x xs ih => rw [List.map_cons, tokensAll, ih, List.flatMap_cons]

/-! ## Writing -/

/-- The HTML of elements in order. -/
def Node.printAll (ns : List Node) : String := String.join ((tokensAll ns).map Token.print)

def Node.print (n : Node) : String := String.join (n.tokens.map Token.print)

theorem Node.printAll_nil : printAll [] = "" := by
  rw [printAll, tokensAll]
  rfl

theorem Node.printAll_cons (n : Node) (ns : List Node) :
    printAll (n :: ns) = n.print ++ printAll ns := by
  rw [printAll, tokensAll, List.map_append, String.join_append]
  rfl

/-- The HTML of an element whose first attribute is its class. -/
theorem Node.print_eq (tag cls : String) (as : List (String × String)) (children : List Node)
    (last : String) : (Node.element "" tag (("class", cls) :: as) children last).print =
      "<" ++ (tag ++ (" class=\"" ++ (cls ++ ("\"" ++ (String.join (as.map rawAttribute) ++
        (">" ++ (printAll children ++ (last ++ ("</" ++ (tag ++ ">")))))))))) := by
  have hclass : rawAttribute ("class", cls) = " class=\"" ++ cls ++ "\"" := rfl
  rw [Node.print, Node.tokens, List.map_cons, List.map_append, String.join_cons, String.join_append,
    List.map_singleton, String.join_cons, String.join_nil, Token.print, Token.print, Tag.print, Tag.print,
    List.map_cons, String.join_cons, hclass, printAll]
  simp only [String.append_assoc, String.append_empty, String.empty_append]

/-- Elements are plain if their tags and texts are. -/
theorem isPlain_element {before tag last : String} {as : List (String × String)} {children : List Node}
    (hbefore : '<' ∉ before.toList) (hstart : (Tag.start tag as).IsPlain)
    (hchildren : ∀ t ∈ tokensAll children, t.IsPlain) (hlast : '<' ∉ last.toList)
    (hstop : '>' ∉ tag.toList) :
    ∀ t ∈ (Node.element before tag as children last).tokens, t.IsPlain := by
  intro t ht
  rw [Node.tokens, List.mem_cons, List.mem_append, List.mem_singleton] at ht
  rcases ht with rfl | ht | rfl
  · exact ⟨hbefore, hstart⟩
  · exact hchildren t ht
  · exact ⟨hlast, hstop⟩

/-! ## Reading -/

/-- An element that is open, and those before it in the same element. -/
structure Open where
  before : String
  tag : String
  attributes : List (String × String)
  elder : List Node

/-- Takes tokens in turn, inside the open elements, where those that are done stand in the innermost of
them. Every element is closed by the tag that it was opened with. -/
def nest? : List Open → List Node → List Token → Option (List Node)
  | [], done, [] => some done
  | _ :: _, _, [] => none
  | outer, done, ⟨before, .start tag as⟩ :: ts => nest? (⟨before, tag, as, done⟩ :: outer) [] ts
  | [], _, ⟨_, .stop _⟩ :: _ => none
  | o :: outer, done, ⟨last, .stop tag⟩ :: ts =>
    if tag = o.tag then
      nest? outer (o.elder ++ [.element o.before tag o.attributes done last]) ts
    else none

/-- The elements of an HTML text, and the text behind the last of them. -/
def elements? (html : String) : Option (List Node × String) :=
  (tokens? html).bind fun p => (nest? [] [] p.1).map (·, p.2)

mutual

/-- The tokens of an element add it to those that are done. -/
theorem nest?_tokens (outer : List Open) (done : List Node) (n : Node) (ts : List Token) :
    nest? outer done (n.tokens ++ ts) = nest? outer (done ++ [n]) ts := by
  obtain ⟨before, tag, as, children, last⟩ := n
  rw [Node.tokens, List.cons_append, nest?, List.append_assoc, nest?_tokensAll, List.nil_append,
    List.singleton_append, nest?, if_pos rfl]

theorem nest?_tokensAll (outer : List Open) (done ns : List Node) (ts : List Token) :
    nest? outer done (tokensAll ns ++ ts) = nest? outer (done ++ ns) ts := by
  cases ns with
  | nil => rw [tokensAll, List.nil_append, List.append_nil]
  | cons n ns => rw [tokensAll, List.append_assoc, nest?_tokens, nest?_tokensAll, List.append_assoc,
      List.singleton_append]

end

/-- An element that is written is read back. -/
theorem elements?_print {n : Node} (h : ∀ t ∈ n.tokens, t.IsPlain) :
    elements? n.print = some ([n], "") := by
  have htokens := tokens?_print h (show '<' ∉ "".toList by simp)
  have hnest := nest?_tokens [] [] n []
  rw [List.append_nil, List.nil_append, nest?] at hnest
  rw [String.append_empty] at htokens
  rw [elements?, Node.print, htokens, Option.bind_some, hnest]
  rfl

end DocTabs.Html
