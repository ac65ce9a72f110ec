import HomePanel.Text.Blank

/-!
# Pages

A page is a set of elements kept in an arena: each element is known by its index, holds
its own fields (tag, id, classes, dataset, text, form name and value) and the indices of
its parent and children. Element `0` is the body. An element that is created is detached
until it is appended somewhere; appending an element that already has a parent first takes
it out of that parent's children, so an element is a child of at most one element. The
page also counts how often it was asked to reload.

Class lists keep their first-added order and hold each class once. A dataset holds each key
once, and writing a key again replaces its value.
-/

namespace HomePanel

/-- The fields of one element. -/
structure Element where
  tag : String
  id : Option String := none
  classes : List String := []
  dataset : List (String × String) := []
  text : String := ""
  name : Option String := none
  value : Option String := none
  deriving DecidableEq, Repr, Inhabited

namespace Element

/-- A new element; the tag is kept with ASCII letters in lower case. -/
def new (tag : String) : Element := { tag := Text.asciiLower tag }

/-- A form field with a name and a value; its tag is `input`. -/
def field (name value : String) : Element :=
  { tag := "input", name := some name, value := some value }

def hasClass (e : Element) (c : String) : Bool := e.classes.contains c

/-- Adds a class that is missing, or removes one that is present. -/
def setClass (e : Element) (c : String) (enabled : Bool) : Element :=
  if enabled then (if e.hasClass c then e else { e with classes := e.classes ++ [c] })
  else { e with classes := e.classes.filter (· != c) }

def data? (e : Element) (key : String) : Option String :=
  (e.dataset.find? (fun d => d.1 == key)).map Prod.snd

/-- Writes a dataset key. -/
def setData (e : Element) (key value : String) : Element :=
  { e with dataset := (e.dataset.filter (fun d => d.1 != key)) ++ [(key, value)] }

def isForm (e : Element) : Bool := e.tag == "form"

end Element

/-- An element of a page with its place in the tree. -/
structure Node where
  element : Element
  parent : Option Nat := none
  children : List Nat := []
  deriving DecidableEq, Repr, Inhabited

/-- A page: element `0` is the body. -/
structure Page where
  nodes : Array Node
  reloads : Nat := 0
  deriving Repr

namespace Page

/-- A page holding only its body. -/
def new : Page := ⟨#[{ element := Element.new "body" }], 0⟩

def body : Nat := 0

def node? (p : Page) (i : Nat) : Option Node := p.nodes[i]?

def element? (p : Page) (i : Nat) : Option Element := (p.node? i).map Node.element

def parent? (p : Page) (i : Nat) : Option Nat := (p.node? i).bind Node.parent

def children (p : Page) (i : Nat) : List Nat := ((p.node? i).map Node.children).getD []

/-- Adds a detached element; its index. -/
def create (p : Page) (e : Element) : Page × Nat :=
  ({ p with nodes := p.nodes.push { element := e } }, p.nodes.size)

/-- Changes the node at an index (nothing when there is none). -/
def modifyNode (p : Page) (i : Nat) (f : Node → Node) : Page :=
  { p with nodes := p.nodes.modify i f }

/-- Changes the fields of an element. -/
def modifyElement (p : Page) (i : Nat) (f : Element → Element) : Page :=
  p.modifyNode i fun n => { n with element := f n.element }

def setText (p : Page) (i : Nat) (text : String) : Page :=
  p.modifyElement i fun e => { e with text := text }

def setClass (p : Page) (i : Nat) (c : String) (enabled : Bool) : Page :=
  p.modifyElement i fun e => e.setClass c enabled

def setValue (p : Page) (i : Nat) (value : String) : Page :=
  p.modifyElement i fun e => { e with value := some value }

/-- Appends `child` as the last child of `parent`, taking it out of its old parent's
children first. Indices that name no element change nothing. -/
def append (p : Page) (parent child : Nat) : Page :=
  if parent < p.nodes.size ∧ child < p.nodes.size then
    let p := match p.parent? child with
      | some old => p.modifyNode old fun n => { n with children := n.children.filter (· != child) }
      | none => p
    let p := p.modifyNode child fun n => { n with parent := some parent }
    p.modifyNode parent fun n => { n with children := n.children ++ [child] }
  else p

def reload (p : Page) : Page := { p with reloads := p.reloads + 1 }

end Page

end HomePanel
