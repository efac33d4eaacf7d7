import Scaffolding.Path.Basic
import Scaffolding.Provider.Template

/-!
# Where the files of a provider lie

A provider has a home directory, named after it, below the output root; two directories in that;
and four files beside them.  `Provider.sites` lists the seven in the order in which they are made:
directories before files, and a directory before those in it.
-/

namespace Scaffolding

/-- A place that belongs to a provider. -/
inductive Site where
  | directory (path : Path)
  | file (template : Template) (path : Path)
  deriving DecidableEq, Repr

/-- The path of a site. -/
def Site.path : Site → Path
  | .directory path => path
  | .file _ path => path

/-- The directories inside the home of every provider. -/
def subdirectories : List String := ["src", "config"]

namespace Provider

/-- The home directory of a provider. -/
def home (provider : Provider) (root : Path) : Path :=
  root.child provider.name

/-- The directories of a provider, each after the one it lies in. -/
def directories (provider : Provider) (root : Path) : List Path :=
  provider.home root :: subdirectories.map (provider.home root).child

/-- The file that is made from a template. -/
def file (provider : Provider) (root : Path) (template : Template) : Path :=
  (provider.home root).child (template.target provider)

/-- The sites of a provider, in the order in which they are made. -/
def sites (provider : Provider) (root : Path) : List Site :=
  (provider.directories root).map .directory
    ++ Template.all.map fun template => .file template (provider.file root template)

theorem length_sites (provider : Provider) (root : Path) :
    (provider.sites root).length = 7 := rfl

end Provider

end Scaffolding
