import ModelForm.Regex.Reader
import ModelForm.Regex.Meaning
import ModelForm.Regex.Search
import ModelForm.Regex.Size

/-!
Patterns: texts with the expression that they stand for, if they stand for one at all. An
expression that is given along with its text may be made with switches that the text does
not show, so the text alone does not determine it.
-/

namespace ModelForm.Regex

/-- The expression of a pattern; none if the text is no pattern or its machine is too large. -/
def ofText? (text : String) : Option (Regex Atom) := do
  let tree ← Tree.ofText? text
  let (r, _) ← tree.regex? {}
  if r.fits then return r else none

end ModelForm.Regex

namespace ModelForm

structure Pattern where
  source : String
  regex? : Option (Regex Regex.Atom)

namespace Pattern

def ofText (source : String) : Pattern := ⟨source, Regex.ofText? source⟩

instance : Inhabited Pattern := ⟨ofText ""⟩

def isValid (p : Pattern) : Bool := p.regex?.isSome

def occurs? (p : Pattern) (text : String) : Option Bool :=
  p.regex?.map fun r => r.occurs text.toList

end Pattern

end ModelForm
