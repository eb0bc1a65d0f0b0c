import Outline.Log
import Outline.Source.Tree

set_option autoImplicit false

/-!
# Reading sources

How a source is read is a parameter of a report. A source with syntax errors still has an outline,
which holds what could be made out; the errors are noted.
-/
namespace Outline

abbrev Parser := String → Outcome SourceOutline

/-- The outline of a source with the given tree; syntax errors are noted. -/
def SourceOutline.noted (text : String) (tree : Node) : Outcome SourceOutline := do
  if tree.flawed then
    Outcome.note .debug .source "Syntax errors in source; declarations are best effort"
  pure (.ofTree text tree)

def csharp : Parser := fun text => SourceOutline.noted text (Source.tree text)

theorem result_csharp (text : String) :
    (csharp text).result = .ok (.ofTree text (Source.tree text)) := by
  unfold csharp SourceOutline.noted
  split <;> rfl

end Outline
