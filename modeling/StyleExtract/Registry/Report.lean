import StyleExtract.Notice
import StyleExtract.Registry.Basic

/-!
# Registry updates and their notices

## Main definitions

* `Report` — a result, the registry afterwards, and what was said on the way.
* `Registry.registerReport`, `Registry.replaceReport`, `Registry.invalidateReport` — the updates
  of the registry with their notices.
-/

namespace StyleExtract

/-- A result, the registry afterwards, and what was said on the way. -/
structure Report (α : Type) where
  /-- The result. -/
  result : α
  /-- The registry afterwards. -/
  registry : Registry
  /-- What was said, in order. -/
  log : List LogEntry

namespace Report

/-- The same report with another result. -/
def map {α β : Type} (f : α → β) (r : Report α) : Report β := ⟨f r.result, r.registry, r.log⟩

/-- The same report with something said before. -/
def after {α : Type} (log : List LogEntry) (r : Report α) : Report α :=
  { r with log := log ++ r.log }

end Report

namespace Registry

/-- Adds one module to a file. -/
def registerReport (r : Registry) (file : String) (index : Nat) (css : String) : Report String :=
  let (id, r) := r.register file index css
  ⟨id, r, [⟨.trace, .registered id⟩]⟩

/-- Replaces the modules of a file; a file that has none afterwards is not worth a notice. -/
def replaceReport (r : Registry) (file : String) (css : List String) : Report (List String) :=
  let (ids, r) := r.replaceFile file css
  ⟨ids, r, if ids.isEmpty then []
    else [⟨.trace, .replaced ids.length (FileId.normalize file)⟩]⟩

/-- Removes the modules of a file; a file that had none is not worth a notice. -/
def invalidateReport (r : Registry) (file : String) : Report (List String) :=
  let (ids, r) := r.invalidate file
  ⟨ids, r, if ids.isEmpty then []
    else [⟨.trace, .invalidated ids.length (FileId.normalize file)⟩]⟩

end Registry

end StyleExtract
