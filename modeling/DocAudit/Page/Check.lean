import DocAudit.Outline.Conformity
import DocAudit.Page.Reconciliation
import DocAudit.Page.Scan
import DocAudit.Page.Source

/-!
# Checking a page

A page is read, its parts are reconciled, and its headings are compared with the template for its
type.  The source of every finding starts with the path of the page.
-/

namespace DocAudit.Page

/-- The template for a page, if it documents requests or resources. -/
def template? (settings : Settings) (page : Page) : Option (List TemplateItem) :=
  if !page.methods.isEmpty then some settings.templates.api
  else if !page.resources.isEmpty then some settings.templates.resource
  else none

/-- Compares the headings of a page with the template for it. -/
def checkHeadings (settings : Settings) (page : Page) : Audit Unit :=
  match page.template? settings with
  | some template => checkOutline template page.outline.trees
  | none => pure ()

/-- Checks the text of a page. -/
def check (settings : Settings) (checksOutline : Bool) (path text : String) : Audit Page :=
  Audit.within (some path) do
    let page ← Page.scan settings path (readBlocks text)
    let page ← { page with links := readLinks text }.reconcile settings (some path)
    if checksOutline then page.checkHeadings settings
    return page

end DocAudit.Page
