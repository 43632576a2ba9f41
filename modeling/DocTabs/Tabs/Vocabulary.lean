/-
The words that the rendered page, the stylesheet and the switcher share: levels of tabs, kinds of
container, their class names, attributes and marker keywords.
-/
namespace DocTabs.Tabs

/-- Nesting level of a tab set. -/
inductive Level where
  /-- Top-level tabs, one per platform. -/
  | platform
  /-- Tabs inside a platform pane, one per language. -/
  | language
  deriving DecidableEq, Repr

namespace Level

/-- Keyword of the markers that delimit one branch of this level. -/
def keyword : Level → String
  | platform => "platform"
  | language => "lang"

/-- Class of the region that holds the header buttons. -/
def headerClass : Level → String
  | platform => "platform-tabs-header"
  | language => "language-tabs-header"

/-- Class of a header button. -/
def tabClass : Level → String
  | platform => "platform-tab"
  | language => "language-tab"

/-- Class of the region that holds the panes. -/
def bodyClass : Level → String
  | platform => "platform-tabs-content"
  | language => "language-tabs-content"

/-- Class of a content pane. -/
def paneClass : Level → String
  | platform => "platform-content"
  | language => "language-content"

/-- Attribute that carries the branch name on buttons and panes. -/
def nameAttribute : Level → String
  | platform => "data-platform"
  | language => "data-lang"

/-- Attribute on buttons that names the element a switch is confined to: the container for
platform buttons, the platform pane for language buttons. -/
def scopeAttribute : Level → String
  | platform => "data-tabs-id"
  | language => "data-platform-id"

end Level

/-- Kind of container. -/
inductive Kind where
  /-- Platform tabs with plain content. -/
  | plain
  /-- Platform tabs whose panes may hold language tabs. -/
  | sample
  deriving DecidableEq, Repr

namespace Kind

/-- Keyword of the markers that delimit a container. -/
def keyword : Kind → String
  | plain => "platformtabs"
  | sample => "codesample"

/-- Class of the root element. -/
def rootClass : Kind → String
  | plain => "platform-tabs-container"
  | sample => "code-sample-container"

/-- First part of a drawn id. -/
def idStem : Kind → String
  | plain => "platform-tabs"
  | sample => "code-sample"

end Kind

/-- Class of the tab and the pane that are shown. -/
def activeClass : String := "active"

/-- Class of the fragment that stands for a container without branches. -/
def errorClass : String := "platform-tabs-error"

/-- The fragment that stands for a container without branches. -/
def emptyContainerHtml : String :=
  "<div class=\"" ++ errorClass ++ "\">No platform blocks found</div>"

/-- The platform that starts active when none is configured. -/
def defaultPlatform : String := "Android"

/-! ## Icons -/

/-- Icon class of a platform that has none of its own. -/
def defaultIcon : String := "fa-code"

/-- Icon classes by platform name. -/
def icons : List (String × String) :=
  [("Android", "fa-android"), ("iOS", "fa-apple"), ("HarmonyOS", "fa-mobile")]

/-- Icon class of a platform, by its exact name. -/
def icon (platform : String) : String :=
  (icons.lookup platform).getD defaultIcon

end DocTabs.Tabs
