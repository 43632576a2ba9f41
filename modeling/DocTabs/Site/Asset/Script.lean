/-
The script that switches tabs in the browser. Its behaviour on an element tree is defined in
`DocTabs.Switcher`.
-/
namespace DocTabs.Site.Asset

/-- Lines of the script. -/
def scriptLines : List String := [
  "/**",
  " * ptabs client switcher.",
  " *",
  " * One delegated click listener serves every tab container on the page.",
  " * Each switch is scoped to the subtree that owns the clicked button, so",
  " * containers and nested language tabs never affect each other.",
  " */",
  "(function () \x7b",
  "  'use strict';",
  "",
  "  var LEVELS = [",
  "    \x7b",
  "      tab: 'platform-tab',",
  "      header: 'platform-tabs-header',",
  "      body: 'platform-tabs-content',",
  "      pane: 'platform-content',",
  "      nameAttr: 'data-platform',",
  "      scopeAttr: 'data-tabs-id',",
  "      scopeRoot: '.platform-tabs-container, .code-sample-container'",
  "    \x7d,",
  "    \x7b",
  "      tab: 'language-tab',",
  "      header: 'language-tabs-header',",
  "      body: 'language-tabs-content',",
  "      pane: 'language-content',",
  "      nameAttr: 'data-lang',",
  "      scopeAttr: 'data-platform-id',",
  "      scopeRoot: '.platform-content'",
  "    \x7d",
  "  ];",
  "",
  "  function findScope(button, level) \x7b",
  "    var scopeId = button.getAttribute(level.scopeAttr);",
  "    var root = button.closest(level.scopeRoot);",
  "    while (root && scopeId && root.id && root.id !== scopeId) \x7b",
  "      root = root.parentElement && root.parentElement.closest(level.scopeRoot);",
  "    \x7d",
  "    return root;",
  "  \x7d",
  "",
  "  function directChildren(parent, className) \x7b",
  "    var result = [];",
  "    if (!parent) return result;",
  "    for (var i = 0; i < parent.children.length; i++) \x7b",
  "      if (parent.children[i].classList.contains(className)) \x7b",
  "        result.push(parent.children[i]);",
  "      \x7d",
  "    \x7d",
  "    return result;",
  "  \x7d",
  "",
  "  function childRegion(scope, className) \x7b",
  "    return directChildren(scope, className)[0] || null;",
  "  \x7d",
  "",
  "  // Panes line up with header tabs by position, so duplicate names stay",
  "  // distinct. A tab without a matching pane leaves the container untouched.",
  "  function targetPane(panes, index, name, level) \x7b",
  "    var pane = panes[index];",
  "    if (pane && pane.getAttribute(level.nameAttr) === name) return pane;",
  "    for (var i = 0; i < panes.length; i++) \x7b",
  "      if (panes[i].getAttribute(level.nameAttr) === name) return panes[i];",
  "    \x7d",
  "    return null;",
  "  \x7d",
  "",
  "  function activate(button, level) \x7b",
  "    var scope = findScope(button, level);",
  "    if (!scope) return;",
  "",
  "    var tabs = directChildren(childRegion(scope, level.header), level.tab);",
  "    var panes = directChildren(childRegion(scope, level.body), level.pane);",
  "    var target = targetPane(",
  "      panes,",
  "      tabs.indexOf(button),",
  "      button.getAttribute(level.nameAttr),",
  "      level",
  "    );",
  "    if (!target) return;",
  "",
  "    tabs.forEach(function (tab) \x7b",
  "      tab.classList.toggle('active', tab === button);",
  "    \x7d);",
  "    panes.forEach(function (pane) \x7b",
  "      pane.classList.toggle('active', pane === target);",
  "    \x7d);",
  "",
  "    // Let syntax highlighting overlays re-measure the newly visible pane.",
  "    window.dispatchEvent(new Event('resize'));",
  "  \x7d",
  "",
  "  function onClick(event) \x7b",
  "    if (!(event.target instanceof Element)) return;",
  "    for (var i = 0; i < LEVELS.length; i++) \x7b",
  "      var button = event.target.closest('.' + LEVELS[i].tab);",
  "      if (button) \x7b",
  "        activate(button, LEVELS[i]);",
  "        return;",
  "      \x7d",
  "    \x7d",
  "  \x7d",
  "",
  "  document.addEventListener('click', onClick);",
  "\x7d)();"]

end DocTabs.Site.Asset
