/-
The stylesheet that lays out the tabs: header rows, panes, and the fragment for a container
without branches. Panes are hidden unless they have the active class.
-/
namespace DocTabs.Site.Asset

/-- Lines of the stylesheet. -/
def stylesheetLines : List String := [
  "/* ptabs: platform and language tabs */",
  "",
  ".platform-tabs-container,",
  ".code-sample-container \x7b",
  "  margin: 1em 0;",
  "  border: 1px solid #e1e4e8;",
  "  border-radius: 4px;",
  "\x7d",
  "",
  ".platform-tabs-header,",
  ".language-tabs-header \x7b",
  "  display: flex;",
  "  flex-wrap: wrap;",
  "  border-bottom: 1px solid #e1e4e8;",
  "  background: #f6f8fa;",
  "\x7d",
  "",
  ".language-tabs-header \x7b",
  "  background: #fafbfc;",
  "\x7d",
  "",
  ".platform-tab,",
  ".language-tab \x7b",
  "  padding: 0.5em 1em;",
  "  border: 0;",
  "  border-bottom: 2px solid transparent;",
  "  background: transparent;",
  "  color: #586069;",
  "  font: inherit;",
  "  cursor: pointer;",
  "\x7d",
  "",
  ".language-tab \x7b",
  "  padding: 0.35em 0.9em;",
  "  font-size: 0.9em;",
  "\x7d",
  "",
  ".platform-tab:hover,",
  ".language-tab:hover \x7b",
  "  color: #24292e;",
  "\x7d",
  "",
  ".platform-tab.active,",
  ".language-tab.active \x7b",
  "  border-bottom-color: #0366d6;",
  "  color: #0366d6;",
  "\x7d",
  "",
  ".platform-tab .fa \x7b",
  "  margin-right: 0.25em;",
  "\x7d",
  "",
  ".platform-content,",
  ".language-content \x7b",
  "  display: none;",
  "\x7d",
  "",
  ".platform-content.active,",
  ".language-content.active \x7b",
  "  display: block;",
  "\x7d",
  "",
  ".platform-tabs-content > .platform-content \x7b",
  "  padding: 1em;",
  "\x7d",
  "",
  ".platform-tabs-content > .platform-content > .language-tabs-header \x7b",
  "  margin: -1em -1em 1em;",
  "\x7d",
  "",
  ".language-content > pre:last-child \x7b",
  "  margin-bottom: 0;",
  "\x7d",
  "",
  ".platform-tabs-error \x7b",
  "  padding: 0.75em 1em;",
  "  border: 1px solid #f5c6cb;",
  "  border-radius: 4px;",
  "  background: #f8d7da;",
  "  color: #721c24;",
  "\x7d"]

end DocTabs.Site.Asset
