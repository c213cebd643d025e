import ModelForm.Regex.Pattern

/-!
Texts that address something: mail addresses and absolute URLs, both by their shape
alone.
-/

namespace ModelForm.Text

/-- Something, an at sign, and something with a point in it; no white space, no second at sign. -/
def emailPattern : Pattern := Pattern.ofText "^[^\\s@]+@[^\\s@]+\\.[^\\s@]+$"

/-- A scheme, a colon with two slashes, and a host; no white space after the scheme. -/
def urlPattern : Pattern :=
  Pattern.ofText "^[a-zA-Z][a-zA-Z0-9+.\\-]*://[^\\s/?#]+[^\\s]*$"

def isEmail (s : String) : Bool := (emailPattern.occurs? s).getD false

def isUrl (s : String) : Bool := (urlPattern.occurs? s).getD false

end ModelForm.Text
