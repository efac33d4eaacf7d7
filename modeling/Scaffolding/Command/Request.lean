import Scaffolding.Command.Arguments
import Scaffolding.Command.Problem
import Scaffolding.Installation
import Scaffolding.Script.Scaffold

/-!
# From an invocation to a script

An invocation becomes a request once the installation is known and the provider has a good name.
The request says which script is run, and where its templates are.
-/

namespace Scaffolding.Command

/-- A provider to make or to foresee, and the home of the installation. -/
structure Request where
  home : Path
  provider : Provider
  dryRun : Bool
  deriving DecidableEq

/-- The home of the installation that a setting names.  An empty setting names none. -/
def installationHome (setting : Option String) : Except Problem Path :=
  match setting.filter (· ≠ "") with
  | none => .error (.missingHome Arguments.homeVariable)
  | some home => .ok (Path.ofText home)

/-- The provider that a setting names. -/
def providerNamed (setting : Option String) : Except Problem Provider :=
  match setting with
  | none => .error .missingName
  | some name => (Provider.parse name).mapError fun fault => .unmade (.ofNameFault name fault)

/-- The request of an invocation.  The installation is looked for first, and then the name of a
provider. -/
def Invocation.request (invocation : Invocation) : Except Problem Request :=
  match installationHome invocation.home with
  | .error problem => .error problem
  | .ok home =>
    (providerNamed invocation.name).map fun provider => ⟨home, provider, invocation.dryRun⟩

namespace Request

/-- The output root: the working directory. -/
def outputRoot : Path := Path.empty

/-- The directory of templates. -/
def templates (request : Request) : Path := Installation.templates request.home

/-- The script that a request is about. -/
def script (request : Request) : Script Report :=
  if request.dryRun then Script.plan request.provider outputRoot
  else Script.scaffold request.provider outputRoot

end Request

end Scaffolding.Command
