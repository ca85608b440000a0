import Registrar.Collation.Elements
import Registrar.Text.Decomposition

/-
  This file defines an order of texts: a sample of the orders
  that answers can be given in.  Nothing that is proved of
  answers rests on it; each result holds for every order of
  texts, or for every one with the properties it names.

  Texts of letters and digits without accents are compared
  letter by letter, as far as they are such.  Other texts are
  put in their settled form; there the start of a text is less
  than the text.  If neither is the start of the other, their
  collation elements are compared on the letters first, then
  on the accents, then on the variants; last come the code
  points of the texts themselves.

  Key definitions include:
    * `Collation.compareWords?`
    * `Collation.elements`
    * `Collation.Weights`
    * `Collation.compareSettled`
    * `Collation.compareTexts`
-/

------------------------------------------------------------
-- Words
------------------------------------------------------------

namespace Registrar

namespace Collation

/-
  The order of two texts of plain letters and digits, where
  `pending` decides if they differ in nothing but case.  When
  the second one goes on after the end of the first, the first
  is less; any other character leaves the order open.
-/
def compareWords?
    (pending : Ordering) :
    List Char → List Char → Option Ordering
| [], [] => some pending
| [], _ :: _ => some .lt
| c :: cs, ds =>
    if c.isAlphanum then
      match ds with
      | [] => some .gt
      | d :: ds =>
          if d.isAlphanum then
            match compare c.toUpper d.toUpper with
            | .eq =>
                compareWords? (pending.then (compare d c)) cs ds
            | different => some different
          else
            none
    else
      none

------------------------------------------------------------
-- The Elements Of A Text
------------------------------------------------------------

/-
  A later mark that counts as one with `first`, taken out of
  the next `reach` marks.  The classes of these marks rise.
-/
def takeMark
    (first : Nat) :
    Nat → Nat → List Nat → Option (List Element × List Nat)
| 0, _, _ => none
| _, _, [] => none
| reach + 1, last, d :: rest =>
    let mark := Text.combiningClass d
    if mark ≤ last then
      none
    else
      match pair? first d with
      | some es => some (es, rest)
      | none =>
          (takeMark first reach mark rest).map
            fun (es, others) => (es, d :: others)

/- How far behind a letter a mark is looked for. -/
def markReach : Nat :=
  3

/-
  What counts as one with `first`: the next character, or one
  of the marks behind it.
-/
def takePartner
    (first : Nat) :
    List Nat → Option (List Element × List Nat)
| [] => none
| d :: rest =>
    match pair? first d with
    | some es => some (es, rest)
    | none => takeMark first markReach 0 (d :: rest)

/- The elements of at most `limit` characters. -/
def elementsUpTo : Nat → List Nat → List Element
| 0, _ => []
| _ + 1, [] => []
| limit + 1, c :: rest =>
    match takePartner c rest with
    | some (es, others) => es ++ elementsUpTo limit others
    | none => elementsOf c ++ elementsUpTo limit rest

/- The elements of decomposed characters. -/
def elements (cs : List Nat) : List Element :=
  elementsUpTo cs.length cs

------------------------------------------------------------
-- Weights
------------------------------------------------------------

/- The weights of a text on each level. -/
structure Weights where
  letters : List Nat
  accents : List Nat
  variants : List Nat
deriving DecidableEq, Repr

namespace Weights

/- The weights on one level. -/
def onLevel
    (level : Element → Nat)
    (es : List Element) : List Nat :=
  (es.map level).filter (· != 0)

/- The weights of the characters of a text. -/
def ofCodes (codes : List Nat) : Weights :=
  let es := elements (Text.decomposed codes)
  { letters := onLevel Element.letter es
    accents := onLevel Element.accent es
    variants := onLevel Element.variant es }

/- Level after level; a list that another one extends is less. -/
def compare (a b : Weights) : Ordering :=
  (Ord.compare a.letters b.letters).then
    ((Ord.compare a.accents b.accents).then
      (Ord.compare a.variants b.variants))

end Weights

------------------------------------------------------------
-- The Order
------------------------------------------------------------

/-
  Whether a text is the start of another one.  It does not
  count as such if one of its characters might count as one
  with what follows.
-/
def isStart (cs ds : List Nat) : Bool :=
  cs.isPrefixOf ds && !cs.any startsPair

/-
  The order of two different texts in settled form.  The start
  of a text is less than the text.
-/
def compareSettled (cs ds : List Nat) : Ordering :=
  if isStart cs ds then
    .lt
  else if isStart ds cs then
    .gt
  else
    (Weights.ofCodes cs).compare (Weights.ofCodes ds)

/- The order of two texts. -/
def compareTexts (s t : String) : Ordering :=
  match compareWords? .eq s.toList t.toList with
  | some order => order
  | none =>
      let cs := s.toList.map Char.toNat
      let ds := t.toList.map Char.toNat
      let settledOrder :=
        if Text.settled cs = Text.settled ds then
          .eq
        else
          compareSettled (Text.settled cs) (Text.settled ds)
      settledOrder.then (compare cs ds)

end Collation

end Registrar
