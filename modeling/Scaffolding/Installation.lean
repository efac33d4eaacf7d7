import Scaffolding.Path.Basic
import Scaffolding.Provider.Template

/-!
# Where an installation keeps its templates

An installation is a directory, its home.  The templates lie in a directory below it, a file each.
-/

namespace Scaffolding.Installation

/-- The steps from the home of an installation to its templates. -/
def templatesSteps : List String := ["scripts", "templates"]

/-- The directory of the templates of an installation. -/
def templates (home : Path) : Path :=
  templatesSteps.foldl Path.child home

/-- The file of a template in a directory of templates. -/
def templateFile (templates : Path) (template : Template) : Path :=
  templates.child template.fileName

end Scaffolding.Installation
