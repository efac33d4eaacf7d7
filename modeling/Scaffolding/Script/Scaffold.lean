import Scaffolding.Report.Basic
import Scaffolding.Script.Basic

/-!
# Making a provider

The scripts here visit the sites of a provider in their order.  `Script.scaffold` makes what is not
there yet and leaves alone what is; `Script.plan` only looks, and tells what the other would do as
far as can be seen without reading a template.
-/

namespace Scaffolding.Script

open Report (Entry)

variable {α : Type}

/-- Makes one site unless it is there, and goes on with its entry. -/
def visit (provider : Provider) (site : Site) (next : Entry → Script α) : Script α :=
  match site with
  | .directory path =>
    .isDirectory path fun there =>
      if there then
        .note (.directoryFound path) (next ⟨path, .directory, .alreadyExists⟩)
      else
        .makeDirectory path <|
          .note (.directoryMade path) (next ⟨path, .directory, .created⟩)
  | .file template path =>
    .isPresent path fun there =>
      if there then
        .note (.fileSkipped path) (next ⟨path, .file, .alreadyExists⟩)
      else
        .note (.templateRead template) <| .load template fun text =>
          let content := instantiate text provider
          .write path content <|
            .note (.fileMade template path content.utf8ByteSize) (next ⟨path, .file, .created⟩)

/-- Looks whether one site is there, and goes on with its entry. -/
def inspect (site : Site) (next : Entry → Script α) : Script α :=
  match site with
  | .directory path =>
    .isDirectory path fun there =>
      next ⟨path, .directory, if there then .alreadyExists else .wouldCreate⟩
  | .file _ path =>
    .isPresent path fun there =>
      next ⟨path, .file, if there then .alreadyExists else .wouldCreate⟩

/-- Goes through sites one by one, and on with their entries. -/
def through (one : Site → (Entry → Script α) → Script α) :
    List Site → (List Entry → Script α) → Script α
  | [], next => next []
  | site :: rest, next =>
    one site fun entry => through one rest fun entries => next (entry :: entries)

/-- Makes a provider below the output root. -/
def scaffold (provider : Provider) (root : Path) : Script Report :=
  through (visit provider) (provider.sites root) fun entries =>
    let report : Report := ⟨provider, provider.home root, entries⟩
    .note (.completed (report.count .created) (report.count .alreadyExists)) (.done report)

/-- Tells what making a provider below the output root would do. -/
def plan (provider : Provider) (root : Path) : Script Report :=
  through inspect (provider.sites root) fun entries =>
    .done ⟨provider, provider.home root, entries⟩

end Scaffolding.Script
