import HomePanel.Intent
import HomePanel.Config
import HomePanel.Json.Text

/-!
# Browser shell

What the browser shell does with a page event: an event that resolves to no intent is
left to the browser; any other is handed to the panel, and a form submission also stops
the browser's own handling, so that the page does not navigate away. The shell shows its
configuration as compact JSON with camel-case keys.
-/

namespace HomePanel

/-- An event the shell takes over. -/
structure RoutedEvent where
  intent : Intent
  preventDefault : Bool
  deriving DecidableEq, Repr

/-- Whether an intent is a form submission. -/
def Intent.isSubmission : Intent → Bool
  | .submitForm _ => true
  | _ => false

/-- The shell's routing of an event on an element. -/
def Page.routeEvent (p : Page) (kind : EventKind) (target : Nat) : Option RoutedEvent :=
  (p.resolveIntent kind target).map fun i => ⟨i, i.isSubmission⟩

/-- The configuration as compact JSON. -/
def PanelConfig.jsonText (c : PanelConfig) : String := c.toJson.compact

end HomePanel
