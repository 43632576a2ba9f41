/-
The container that is read back from its HTML. The elements are in the HTML as they were written, and
class names tell them apart: the root its kind, headers their levels, buttons and panes whether they are
active. Names, scopes and ids are unescaped.
-/
import DocTabs.Proofs.Tabs.Outline

namespace DocTabs.Tabs

open Html Text

/-! ## Decoding -/

/-- The level whose header has the class. -/
def Level.ofHeader? (cls : String) : Option Level :=
  [Level.platform, Level.language].find? (·.headerClass == cls)

/-- The kind whose root has the class. -/
def Kind.ofRoot? (cls : String) : Option Kind :=
  [Kind.plain, Kind.sample].find? (·.rootClass == cls)

def iconOf? : List Node → Option String
  | [.element _ _ [(_, cls)] _ _] => (after? "fa " cls.toList).map String.ofList
  | _ => none

def Tab.ofNode? (level : Level) : Node → Option Tab
  | .element _ _ [(_, cls), (_, name), (_, scope)] icon _ =>
    some ⟨unescape name, iconOf? icon, unescape scope, unescape cls != level.tabClass⟩
  | _ => none

def PaneHead.ofAttributes? (level : Level) : List (String × String) → Option PaneHead
  | (_, cls) :: (_, name) :: rest =>
    some ⟨unescape name, rest.head?.map (unescape ·.2), unescape cls != level.paneClass⟩
  | _ => none

mutual

/-- The tab set whose header and body are given. -/
def TabSet.ofNodes? : List Node → Option TabSet
  | [.element _ _ [(_, header)] tabs _, .element _ _ _ panes _] => do
    let level ← Level.ofHeader? header
    return ⟨level, ← tabs.mapM (Tab.ofNode? level), ← panesOfNodes? level panes⟩
  | _ => none

/-- A pane without elements is a leaf, and any other one holds a tab set. -/
def Pane.ofNode? (level : Level) : Node → Option Pane
  | .element _ _ as [] content => (PaneHead.ofAttributes? level as).map (.leaf · content)
  | .element _ _ as (n :: ns) _ => do
    let head ← PaneHead.ofAttributes? level as
    let t ← TabSet.ofNodes? (n :: ns)
    return .nested head t.level t.tabs t.panes

def panesOfNodes? (level : Level) : List Node → Option (List Pane)
  | [] => some []
  | n :: ns => do return (← Pane.ofNode? level n) :: (← panesOfNodes? level ns)

end

def Container.ofNode? : Node → Option Container
  | .element _ _ [(_, root), (_, id)] regions _ => do
    return ⟨unescape id, ← Kind.ofRoot? root, ← TabSet.ofNodes? regions⟩
  | _ => none

/-- The container of an HTML text. -/
def Container.ofHtml? (html : String) : Option Container :=
  match elements? html with
  | some ([n], "") => Container.ofNode? n
  | _ => none

/-! ## What is written is decoded -/

theorem classText_ne (cls : String) (active : Bool) : (classText cls active != cls) = active := by
  cases active with
  | false => simp [classText]
  | true =>
    rw [classText, if_pos rfl, bne_iff_ne]
    intro h
    have hlength := congrArg (·.toList.length) h
    simp only [String.toList_append, List.length_append] at hlength
    rw [show (" ".toList.length : Nat) = 1 from rfl] at hlength
    omega

theorem iconOf?_iconNodes (icon : Option String) : iconOf? (iconNodes icon) = icon := by
  cases icon with
  | none => rfl
  | some icon =>
    have hafter : after? "fa " ("fa " ++ icon).toList = some icon.toList := by
      rw [after?_eq_some, String.toList_append]
    rw [iconNodes, iconOf?, hafter, Option.map_some, String.ofList_toList]

theorem Tab.ofNode?_node (level : Level) (t : Tab) : Tab.ofNode? level (t.node level) = some t := by
  simp only [Tab.node, Tab.attributes, escaped, List.map_cons, List.map_nil, Tab.ofNode?, unescape_escape,
    iconOf?_iconNodes, classText_ne]

theorem PaneHead.ofAttributes?_escaped (level : Level) (h : PaneHead) :
    PaneHead.ofAttributes? level (escaped (h.attributes level)) = some h := by
  obtain ⟨name, id, active⟩ := h
  cases id <;>
    simp [PaneHead.attributes, escaped, PaneHead.ofAttributes?, unescape_escape, classText_ne]

theorem mapM_ofNode? (level : Level) (tabs : List Tab) :
    (tabs.map (Tab.node level)).mapM (Tab.ofNode? level) = some tabs := by
  induction tabs with
  | nil => rfl
  | cons t tabs ih =>
    rw [List.map_cons, List.mapM_cons, Tab.ofNode?_node, ih]
    rfl

theorem ofHeader?_headerClass (level : Level) : Level.ofHeader? level.headerClass = some level := by
  cases level <;> decide

theorem ofRoot?_rootClass (kind : Kind) : Kind.ofRoot? kind.rootClass = some kind := by
  cases kind <;> decide

theorem ofNodes?_tabSetNodes {level : Level} (tabs : List Tab) {panes : List Pane}
    (h : panesOfNodes? level (paneNodes level panes) = some panes) :
    TabSet.ofNodes? (tabSetNodes level tabs (paneNodes level panes)) = some ⟨level, tabs, panes⟩ := by
  rw [tabSetNodes, TabSet.ofNodes?, ofHeader?_headerClass]
  simp only [Option.bind_eq_bind, Option.bind_some, mapM_ofNode?, h]
  rfl

mutual

theorem Pane.ofNode?_node (level : Level) (p : Pane) : Pane.ofNode? level (p.node level) = some p := by
  cases p with
  | leaf head content => rw [Pane.node, Pane.ofNode?, PaneHead.ofAttributes?_escaped, Option.map_some]
  | nested head inner tabs panes =>
    have hset := ofNodes?_tabSetNodes tabs (panesOfNodes?_paneNodes inner panes)
    rw [tabSetNodes] at hset
    rw [Pane.node, tabSetNodes, Pane.ofNode?, PaneHead.ofAttributes?_escaped, hset]
    rfl

theorem panesOfNodes?_paneNodes (level : Level) (ps : List Pane) :
    panesOfNodes? level (paneNodes level ps) = some ps := by
  cases ps with
  | nil => rw [paneNodes, panesOfNodes?]
  | cons p ps =>
    rw [paneNodes, panesOfNodes?, Pane.ofNode?_node level p, panesOfNodes?_paneNodes level ps]
    rfl

end

theorem Container.ofNode?_node (c : Container) : Container.ofNode? c.node = some c := by
  rw [Container.node, Container.ofNode?, ofRoot?_rootClass,
    ofNodes?_tabSetNodes c.tabs.tabs (panesOfNodes?_paneNodes c.tabs.level c.tabs.panes), unescape_escape]
  rfl

/-- The HTML of a plain container is decoded to the container. -/
theorem ofHtml?_toHtml {c : Container} (h : c.IsPlain) : Container.ofHtml? c.toHtml = some c := by
  rw [Container.ofHtml?, elements?_toHtml h]
  exact c.ofNode?_node

/-! ## Appending -/

theorem Tab.write_eq (level : Level) (out : String) (t : Tab) :
    t.write level out = out ++ t.toHtml level := by
  obtain ⟨name, icon, scope, active⟩ := t
  unfold Tab.write Tab.toHtml
  cases icon <;> simp only [String.append_assoc, String.empty_append]

theorem foldl_write (level : Level) (out : String) (tabs : List Tab) :
    tabs.foldl (Tab.write level) out = out ++ String.join (tabs.map (Tab.toHtml level)) := by
  induction tabs generalizing out with
  | nil => rw [List.map_nil, String.join_nil, String.append_empty, List.foldl_nil]
  | cons t tabs ih =>
    rw [List.foldl_cons, ih, Tab.write_eq, List.map_cons, String.join_cons, String.append_assoc]

theorem PaneHead.write_eq (level : Level) (out : String) (h : PaneHead) :
    h.write level out = out ++ h.toHtml level := by
  obtain ⟨name, id, active⟩ := h
  unfold PaneHead.write PaneHead.toHtml divOpen
  cases id <;> simp only [Option.map_none, Option.map_some, Option.getD_none, Option.getD_some,
    String.append_assoc, String.append_empty]

theorem writeHeader_eq (level : Level) (out : String) (tabs : List Tab) (panes : String) :
    writeHeader level out tabs ++ panes ++ "</div>" = out ++ tabSetHtml level tabs panes := by
  have hend : "\">" = "\"" ++ ">" := by decide
  unfold writeHeader tabSetHtml divOpen
  rw [foldl_write, hend]
  simp only [Bool.false_eq_true, if_false, String.append_assoc, String.append_empty]

mutual

theorem Pane.write_eq (level : Level) (out : String) (p : Pane) :
    p.write level out = out ++ p.toHtml level := by
  cases p with
  | leaf h content =>
    rw [Pane.write, Pane.toHtml, PaneHead.write_eq]
    simp only [String.append_assoc]
  | nested h inner tabs panes =>
    rw [Pane.write, Pane.toHtml, writePanes_eq, writeHeader_eq, PaneHead.write_eq]
    simp only [String.append_assoc]

theorem writePanes_eq (level : Level) (out : String) (ps : List Pane) :
    writePanes level out ps = out ++ panesHtml level ps := by
  cases ps with
  | nil => rw [writePanes, panesHtml, String.append_empty]
  | cons p ps => rw [writePanes, panesHtml, writePanes_eq, Pane.write_eq, String.append_assoc]

end

/-- Writing a container appends its HTML. -/
theorem Container.write_eq (out : String) (c : Container) : c.write out = out ++ c.toHtml := by
  unfold Container.write TabSet.write Container.toHtml TabSet.toHtml divOpen
  rw [writePanes_eq, writeHeader_eq]
  simp only [Bool.false_eq_true, if_false, String.append_assoc, String.empty_append]

/-! ## Serialization -/

/-- The HTML of a plain container, of whatever kind, levels, nesting, names, scopes and ids, can be
decoded: a reader of tags and texts finds the elements of the container in it and nothing else, and from
them the container. So plain containers with the same HTML are the same. Which tags stand in the HTML,
with which attributes and classes, is settled without the names, scopes and ids. Writing a container to
a text appends its HTML. -/
theorem toHtml_decodes {c : Container} (h : c.IsPlain) :
    Container.ofHtml? c.toHtml = some c ∧
    (∀ c' : Container, c'.IsPlain → c'.toHtml = c.toHtml → c' = c) ∧
    elements? c.toHtml = some ([c.node], "") ∧
    (∀ c' : Container, c'.IsPlain → c'.erase = c.erase → outlines? c'.toHtml = outlines? c.toHtml) ∧
    ∀ (c' : Container) (out : String), c'.write out = out ++ c'.toHtml := by
  refine ⟨ofHtml?_toHtml h, fun c' h' heq => ?_, elements?_toHtml h, fun c' h' heq => ?_,
    fun c' out => c'.write_eq out⟩
  · have hdecoded := ofHtml?_toHtml h'
    rw [heq, ofHtml?_toHtml h] at hdecoded
    exact (Option.some.inj hdecoded).symm
  · rw [outlines?_toHtml h, outlines?_toHtml h', outlines_erase c, outlines_erase c', heq]

/-- A container whose names, scopes and ids look like tags, attributes and references. -/
def hostile : Container where
  id := "x\" onclick=\"y"
  kind := .sample
  tabs := {
    level := .language
    tabs := [⟨"</button><b>", some "fa-x></i><b", "\">", true⟩, ⟨"&lt;", none, "&quot;", false⟩]
    panes := [
      .nested ⟨"</div>", some "", true⟩ .platform [⟨" ", none, "<!--", true⟩]
        [.leaf ⟨"'", none, false⟩ "a > b &amp; \"c\"", .leaf ⟨"", some "-->", true⟩ ""],
      .leaf ⟨"&lt;", none, false⟩ "text"] }

theorem toHtml_decodes_hostile : hostile.IsPlain ∧ Container.ofHtml? hostile.toHtml = some hostile ∧
    hostile.write "<p>" = "<p>" ++ hostile.toHtml := by
  have hplain : hostile.IsPlain := ⟨by decide, by decide⟩
  obtain ⟨hdecoded, -, -, -, hwrite⟩ := toHtml_decodes hplain
  exact ⟨hplain, hdecoded, hwrite hostile "<p>"⟩

end DocTabs.Tabs
