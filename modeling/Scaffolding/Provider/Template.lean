import Scaffolding.Provider.Name
import Scaffolding.Text.Substitution

/-!
# Templates

Every provider has four files, each made from a template.  A template is any text; two placeholders
in it stand for the name of the provider and for its include guard.

- `Template.target` names the file made from a template;
- `instantiate` replaces the placeholders, first the one, then the other;
- `instantiateAtOnce` replaces both in a single pass.
-/

namespace Scaffolding

/-- The four templates. -/
inductive Template where
  /-- The declaration of the provider's class. -/
  | header
  /-- The implementation of the provider's class. -/
  | source
  /-- What the host is told about the provider. -/
  | descriptor
  /-- The instructions to build the provider. -/
  | build
  deriving DecidableEq, Repr

namespace Template

/-- The templates in the order in which they are instantiated. -/
def all : List Template := [.header, .source, .descriptor, .build]

theorem mem_all (template : Template) : template ∈ all := by
  cases template <;> simp [all]

/-- The name of a template's file. -/
def fileName : Template → String
  | .header => "Provider.h"
  | .source => "Provider.cpp"
  | .descriptor => "descriptor.json"
  | .build => "CMakeLists.txt"

/-- The name of the file made from a template. -/
def target (template : Template) (provider : Provider) : String :=
  match template with
  | .header => provider.name ++ ".h"
  | .source => provider.name ++ ".cpp"
  | .descriptor => Template.descriptor.fileName
  | .build => Template.build.fileName

end Template

/-! ## Instantiation -/

/-- Stands for the name of the provider. -/
def namePlaceholder : String := "NewProvider"

/-- Stands for the include guard of the provider. -/
def guardPlaceholder : String := "NEWPROVIDER_H"

namespace Provider

/-- Puts the name of the provider at its placeholder. -/
def nameRule (provider : Provider) : Text.Rule :=
  ⟨namePlaceholder.toList, provider.name.toList⟩

/-- Puts the include guard of the provider at its placeholder. -/
def guardRule (provider : Provider) : Text.Rule :=
  ⟨guardPlaceholder.toList, provider.guard.toList⟩

section Rules

variable (provider : Provider)

@[simp]
theorem nameRule_word : provider.nameRule.word = namePlaceholder.toList := rfl

@[simp]
theorem nameRule_replacement : provider.nameRule.replacement = provider.name.toList := rfl

@[simp]
theorem guardRule_word : provider.guardRule.word = guardPlaceholder.toList := rfl

@[simp]
theorem guardRule_replacement : provider.guardRule.replacement = provider.guard.toList := rfl

end Rules

end Provider

/-- A template's text for a provider.  The include guard is put into the text that has the name
already. -/
def instantiate (text : String) (provider : Provider) : String :=
  String.ofList <|
    Text.substitute [provider.guardRule] (Text.substitute [provider.nameRule] text.toList)

/-- A template's text for a provider, both placeholders replaced in the same pass. -/
def instantiateAtOnce (text : String) (provider : Provider) : String :=
  String.ofList (Text.substitute [provider.nameRule, provider.guardRule] text.toList)

end Scaffolding
