import HomePanel.Page.Basic

/-!
# Finding elements

Searches over a page in document order: the descendants of an element in pre-order (each
child, then its own descendants, then the next child), the element itself excluded.
`findFirst` takes the first descendant that satisfies a test; `findDescendant` follows a
path of classes, each search starting below the element the previous class found;
`closestWithClass` walks from an element up through its ancestors, the element included.
Lookups by id or dataset value search below the body. Every walk is bounded by the number
of elements, so it ends whatever the links hold.
-/

namespace HomePanel

namespace Page

/-- The descendants of `i` in pre-order, looking at most `fuel` levels down. -/
def descendantsUpTo (p : Page) : Nat → Nat → List Nat
  | 0, _ => []
  | fuel + 1, i => (p.children i).flatMap fun c => c :: p.descendantsUpTo fuel c

/-- The descendants of `i` in pre-order, `i` excluded. -/
def descendants (p : Page) (i : Nat) : List Nat := p.descendantsUpTo p.nodes.size i

/-- The first descendant whose element passes the test. -/
def findFirst (p : Page) (i : Nat) (test : Element → Bool) : Option Nat :=
  (p.descendants i).find? fun d => ((p.element? d).map test).getD false

/-- Follows a class path: the first descendant with the first class, then the first
descendant of that one with the next class, and so on. An empty path finds nothing. -/
def findDescendant (p : Page) (i : Nat) : List String → Option Nat
  | [] => none
  | c :: rest =>
    rest.foldl (fun found c => found.bind fun j => p.findFirst j (·.hasClass c))
      (p.findFirst i (·.hasClass c))

/-- The element and its ancestors, nearest first, at most `fuel` of them. -/
def ancestorsUpTo (p : Page) : Nat → Nat → List Nat
  | 0, _ => []
  | fuel + 1, i =>
    i :: match p.parent? i with
      | some j => p.ancestorsUpTo fuel j
      | none => []

/-- The element and its ancestors, nearest first. -/
def selfAndAncestors (p : Page) (i : Nat) : List Nat := p.ancestorsUpTo (p.nodes.size + 1) i

/-- The nearest of the element and its ancestors that carries the class. -/
def closestWithClass (p : Page) (i : Nat) (c : String) : Option Nat :=
  (p.selfAndAncestors i).find? fun j => ((p.element? j).map (·.hasClass c)).getD false

/-- The form fields below an element, in document order: the descendants with a name and a
value. Only a form has fields. -/
def formEntries (p : Page) (i : Nat) : List (String × String) :=
  if ((p.element? i).map Element.isForm).getD false then
    (p.descendants i).filterMap fun d => (p.element? d).bind fun e =>
      match e.name, e.value with
      | some n, some v => some (n, v)
      | _, _ => none
  else []

/-- The value of the first `input` below the element with that name. -/
def inputValue? (p : Page) (i : Nat) (name : String) : Option String :=
  (p.findFirst i fun e => e.tag == "input" && e.name == some name).bind fun j =>
    (p.element? j).bind Element.value

/-- The first element below the body with this id. -/
def elementById? (p : Page) (id : String) : Option Nat :=
  p.findFirst body fun e => e.id == some id

/-- The first element below the body whose dataset key has this value. -/
def elementByData? (p : Page) (key value : String) : Option Nat :=
  p.findFirst body fun e => e.data? key == some value

end Page

end HomePanel
