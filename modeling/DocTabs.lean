import DocTabs.Main
import DocTabs.Switcher.Click
import DocTabs.Proofs.Text.Search
import DocTabs.Proofs.Html.Escape
import DocTabs.Proofs.Html.Reader
import DocTabs.Proofs.Html.Nesting
import DocTabs.Proofs.Tabs.Marker
import DocTabs.Proofs.Tabs.Written
import DocTabs.Proofs.Tabs.Scan
import DocTabs.Proofs.Tabs.Tree
import DocTabs.Proofs.Tabs.Draft
import DocTabs.Proofs.Tabs.Markup
import DocTabs.Proofs.Tabs.Elements
import DocTabs.Proofs.Tabs.Outline
import DocTabs.Proofs.Tabs.Decode
import DocTabs.Proofs.Page.Span
import DocTabs.Proofs.Page.Expansion
import DocTabs.Proofs.Page.RoundTrip
import DocTabs.Proofs.Page.Numbering
import DocTabs.Proofs.Switcher.Element
import DocTabs.Proofs.Switcher.Wiring
import DocTabs.Proofs.Switcher.TabSet
import DocTabs.Proofs.Switcher.Run
import DocTabs.Proofs.Switcher.Rendered
import DocTabs.Proofs.Switcher.Page
import DocTabs.Proofs.Disk.FilePath
import DocTabs.Proofs.Disk.Extends
import DocTabs.Proofs.Disk.Tree
import DocTabs.Proofs.Disk.Locate
import DocTabs.Proofs.Disk.Make
import DocTabs.Proofs.Disk.Listing
import DocTabs.Proofs.Text.ByteOrder
import DocTabs.Proofs.Disk.Frame
import DocTabs.Proofs.Disk.Written
import DocTabs.Proofs.Site.Source
import DocTabs.Proofs.Site.Step
import DocTabs.Proofs.Site.Destination
import DocTabs.Proofs.Site.Start
import DocTabs.Proofs.Site.Frame
import DocTabs.Proofs.Site.Walk
import DocTabs.Proofs.Site.Work
import DocTabs.Proofs.Site.Program
import DocTabs.Proofs.Site.Result
import DocTabs.Proofs.Site.Success
import DocTabs.Proofs.Site.Sequence
import DocTabs.Proofs.Site.Ending
import DocTabs.Proofs.Site.Partial
import DocTabs.Proofs.Site.Rebuild
import DocTabs.Proofs.Site.Separation
import DocTabs.Proofs.Site.Collision
import DocTabs.Proofs.Site.Overlap
import DocTabs.Proofs.Settings.Load
import DocTabs.Proofs.Settings.Override
import DocTabs.Proofs.Settings.Reference
import DocTabs.Proofs.Command.Build
import DocTabs.Proofs.Switcher.Independence
import DocTabs.Proofs.Switcher.Removal
import DocTabs.Proofs.Page.Built
import DocTabs.Proofs.Switcher.Remaining
import DocTabs.Proofs.Page.Ids
import DocTabs.Proofs.Tabs.Woven
import DocTabs.Proofs.Page.Idempotence
import DocTabs.Proofs.Html.Balance
import DocTabs.Proofs.Tabs.Balance
import DocTabs.Proofs.Switcher.Settled
import DocTabs.Proofs.Markdown.Title
import DocTabs.Proofs.Markdown.RawHtml
import DocTabs.Proofs.Settings.Template
import DocTabs.Proofs.Settings.Dollar
import DocTabs.Proofs.Page.Manuscript
import DocTabs.Proofs.Text.Occurrences
import DocTabs.Proofs.Tabs.Leaf
import DocTabs.Proofs.Settings.Nearest
import DocTabs.Proofs.Site.Address
import DocTabs.Proofs.Site.Links
