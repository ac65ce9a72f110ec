import HomePanel.Params
import HomePanel.Url.Encoding

/-!
# Endpoint templates

A template is text with placeholders: `{`, one or more ASCII letters, digits or
underscores, and `}`. Placeholders are found left to right without overlap; a `{` that
does not open one is plain text. Expanding a template against a parameter map replaces
each placeholder by the path text of that parameter, encoded as a path segment, and removes
the parameter from the map. A name that is absent, or already used by an earlier
placeholder, gives the empty text. What is left of the map is returned beside the path.
-/

namespace HomePanel

/-- A piece of a template: a plain character or a placeholder. -/
inductive TemplatePiece where
  | char (c : Char)
  | placeholder (name : String)
  deriving DecidableEq, Repr

namespace Template

/-- Characters allowed in a placeholder name. -/
def isNameChar (c : Char) : Bool := c.isAlphanum || c == '_'

/-- The pieces of a template, read left to right. -/
def pieces : List Char → List TemplatePiece
  | [] => []
  | c :: rest =>
    if c = '{' then
      let name := rest.takeWhile isNameChar
      match _hsplit : rest.dropWhile isNameChar with
      | '}' :: after =>
        if name.isEmpty then .char c :: pieces rest
        else .placeholder (String.ofList name) :: pieces after
      | _ => .char c :: pieces rest
    else .char c :: pieces rest
termination_by cs => cs.length
decreasing_by
  all_goals simp_wf
  all_goals first
    | omega
    | (have hle := (List.dropWhile_sublist (l := rest) isNameChar).length_le
       rw [_hsplit] at hle
       simp at hle
       omega)

/-- The placeholder names of a template, left to right, repeats kept. -/
def placeholderNames (template : String) : List String :=
  (pieces template.toList).filterMap fun
    | .placeholder name => some name
    | .char _ => none

/-- Expands pieces against the parameters: the path characters and the parameters left. -/
def expandPieces : List TemplatePiece → ParamMap → List Char × ParamMap
  | [], params => ([], params)
  | .char c :: rest, params =>
    let (path, left) := expandPieces rest params
    (c :: path, left)
  | .placeholder name :: rest, params =>
    let (value, params) := params.take name
    let text := (value.map fun v => Url.encodeSegment v.pathText).getD ""
    let (path, left) := expandPieces rest params
    (text.toList ++ path, left)

/-- A template expanded against the parameters: the path, and the parameters no
placeholder used. -/
def expand (template : String) (params : ParamMap) : String × ParamMap :=
  let (path, left) := expandPieces (pieces template.toList) params
  (String.ofList path, left)

end Template

end HomePanel
