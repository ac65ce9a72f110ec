import HomePanel.Unicode.Decomposition

/-!
# Canonical composition (NFC)

Normalization form C of a sequence of code points, in three passes:

1. every code point is replaced by its full canonical decomposition; a Hangul syllable is
   split into its leading consonant, vowel and optional trailing consonant by arithmetic;
2. each run of code points with a non-zero combining class is sorted by class, a stable
   sort, so marks of equal class keep their order;
3. from left to right, a code point combines with the last starter (combining class zero)
   when the pair is a primary composite and nothing between them blocks it: a code point
   in between blocks when its class is zero or at least the class of the one combining.
   Hangul consonant and vowel jamo combine by arithmetic as well.
-/

namespace HomePanel

namespace Unicode

/-! ## Hangul syllables -/

def hangulSyllableBase : Nat := 0xAC00
def hangulLeadBase : Nat := 0x1100
def hangulVowelBase : Nat := 0x1161
def hangulTrailBase : Nat := 0x11A7
def hangulLeadCount : Nat := 19
def hangulVowelCount : Nat := 21
def hangulTrailCount : Nat := 28
def hangulSyllableCount : Nat := 11172

/-- The syllables with each vowel: `hangulVowelCount · hangulTrailCount`. -/
def hangulBlockCount : Nat := 588

def isHangulSyllable (n : Nat) : Bool :=
  hangulSyllableBase ≤ n && n < hangulSyllableBase + hangulSyllableCount

/-- The jamo of a Hangul syllable. -/
def hangulJamo (n : Nat) : List Nat :=
  let index := n - hangulSyllableBase
  let lead := hangulLeadBase + index / hangulBlockCount
  let vowel := hangulVowelBase + index % hangulBlockCount / hangulTrailCount
  if index % hangulTrailCount = 0 then [lead, vowel]
  else [lead, vowel, hangulTrailBase + index % hangulTrailCount]

/-- The syllable two jamo (or a syllable and a trailing consonant) combine into. -/
def hangulCompose? (first second : Nat) : Option Nat :=
  if hangulLeadBase ≤ first ∧ first < hangulLeadBase + hangulLeadCount ∧
      hangulVowelBase ≤ second ∧ second < hangulVowelBase + hangulVowelCount then
    some (hangulSyllableBase +
      ((first - hangulLeadBase) * hangulVowelCount + (second - hangulVowelBase)) * hangulTrailCount)
  else if isHangulSyllable first ∧ (first - hangulSyllableBase) % hangulTrailCount = 0 ∧
      hangulTrailBase < second ∧ second < hangulTrailBase + hangulTrailCount then
    some (first + (second - hangulTrailBase))
  else none

/-! ## The three passes -/

/-- The full canonical decomposition of a code point. -/
def decompose (n : Nat) : List Nat :=
  if isHangulSyllable n then hangulJamo n else (decompositionTable.find? n).getD [n]

/-- Inserts a code point into a run sorted by combining class, after every code point of
the same or a lower class. -/
def insertByClass (n : Nat) : List Nat → List Nat
  | [] => [n]
  | m :: rest =>
    if combiningClass n < combiningClass m then n :: m :: rest else m :: insertByClass n rest

/-- Sorts each run of non-starters by combining class; `run` is the sorted run so far. -/
def reorderFrom (run : List Nat) : List Nat → List Nat
  | [] => run
  | n :: rest =>
    if combiningClass n = 0 then run ++ n :: reorderFrom [] rest
    else reorderFrom (insertByClass n run) rest

/-- The canonical ordering of a decomposed sequence. -/
def canonicalOrder (ns : List Nat) : List Nat := reorderFrom [] ns

/-- The code point a pair composes to, Hangul included. -/
def compose? (first second : Nat) : Option Nat :=
  match hangulCompose? first second with
  | some n => some n
  | none => composite? first second

/-- The state of the composition pass: the output before the last starter (reversed), that
starter, the code points kept after it (reversed), and the combining class of the last code
point kept, zero right after the starter and 256 before any starter. -/
structure ComposeState where
  done : List Nat
  starter : Option Nat
  kept : List Nat
  lastClass : Nat

/-- The composition pass over one more code point. -/
def composeStep (st : ComposeState) (n : Nat) : ComposeState :=
  let cc := combiningClass n
  let composed :=
    match st.starter with
    | some s => if st.lastClass < cc ∨ st.lastClass = 0 then compose? s n else none
    | none => none
  match composed with
  | some c => { st with starter := some c }
  | none =>
    if cc = 0 then ⟨st.kept ++ st.starter.toList ++ st.done, some n, [], 0⟩
    else { st with kept := n :: st.kept, lastClass := cc }

/-- Composes a canonically ordered, decomposed sequence. -/
def composeAll (ns : List Nat) : List Nat :=
  let st := ns.foldl composeStep ⟨[], none, [], 256⟩
  (st.kept ++ st.starter.toList ++ st.done).reverse

/-- Normalization form C of a sequence of code points. -/
def nfc (ns : List Nat) : List Nat := composeAll (canonicalOrder (ns.flatMap decompose))

end Unicode

end HomePanel
