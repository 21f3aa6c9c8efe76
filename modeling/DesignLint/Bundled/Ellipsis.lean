import DesignLint.Bundled.TextFont
import DesignLint.Rule.Basic
import DesignLint.Text.Search

/-! # Ellipses -/

namespace DesignLint.Ellipsis

def name : String := "ios-accessibility-assistant/includes-ellipsis"

/-- The ways to write an ellipsis. -/
def forms : List String := ["…", ". . .", "..."]

def hasEllipsis (s : String) : Bool := forms.any (Text.holds s)

def message : String :=
  "Text Layer is using ellipsis (…). Make sure users can access " ++
    "a detail view to see the rest of the content"

def verdict (l : Layer) : Except Fault (List String) :=
  (textContent l).map fun s => if hasEllipsis s then [message] else []

def check : Check Unit := do
  Check.judge verdict ((← Check.objects).nodes .text)

def rule : Rule where
  sort := "IncludesEllipsisRule"
  name := name
  title := .fixed "Possible incorrect use of ellipsis (…)"
  description :=
    .fixed "Reports a violation when text layer might be using ellipsis incorrectly"
  options := []
  check := check

end DesignLint.Ellipsis
