import Interpolation.Eval.FutureMethod
import Interpolation.Text.Blank

/-!
# Helpers of templates

Every context has a few functions under fixed names: one makes texts without a meaning, one makes
values that go round in a circle, and one makes values that say nothing the first time they are
asked and the same text ever after. The circles and the joiners remember how far they are.

Main definitions:

* `Lorem.paragraph`: words drawn by chance, with the marks between them.
* `Setting.callLipsum`: texts without a meaning.
* `makeCycler`, `callCycler`: values that go round.
* `makeJoiner`, `callJoiner`: texts between other ones.
-/

namespace Interpolation

open Interpolation.Text

/-! ## Texts without a meaning -/

namespace Lorem

/-- The lines of a list of words. -/
def loremLines : List String :=
  ["a ac accumsan ad adipiscing aenean aliquam aliquet amet ante aptent arcu at",
   "auctor augue bibendum blandit class commodo condimentum congue consectetuer",
   "consequat conubia convallis cras cubilia cum curabitur curae cursus dapibus",
   "diam dictum dictumst dignissim dis dolor donec dui duis egestas eget eleifend",
   "elementum elit enim erat eros est et etiam eu euismod facilisi facilisis fames",
   "faucibus felis fermentum feugiat fringilla fusce gravida habitant habitasse hac",
   "hendrerit hymenaeos iaculis id imperdiet in inceptos integer interdum ipsum",
   "justo lacinia lacus laoreet lectus leo libero ligula litora lobortis lorem",
   "luctus maecenas magna magnis malesuada massa mattis mauris metus mi molestie",
   "mollis montes morbi mus nam nascetur natoque nec neque netus nibh nisi nisl non",
   "nonummy nostra nulla nullam nunc odio orci ornare parturient pede pellentesque",
   "penatibus per pharetra phasellus placerat platea porta porttitor posuere",
   "potenti praesent pretium primis proin pulvinar purus quam quis quisque rhoncus",
   "ridiculus risus rutrum sagittis sapien scelerisque sed sem semper senectus sit",
   "sociis sociosqu sodales sollicitudin suscipit suspendisse taciti tellus tempor",
   "tempus tincidunt torquent tortor tristique turpis ullamcorper ultrices",
   "ultricies urna ut varius vehicula vel velit venenatis vestibulum vitae vivamus",
   "viverra volutpat vulputate"]

/-- The words of texts without a meaning. -/
def loremWords : List (List Char) := loremLines.flatMap fun line => words line.toList

/-- A paragraph that is being written. -/
structure Draft where
  /-- Whether the next word begins a sentence. -/
  isCapital : Bool
  /-- The place of the last comma. -/
  comma : Nat
  /-- The place of the last full stop; every comma moves it on. -/
  stop : Nat
  /-- The last word, by its place among all words. -/
  last : Option Nat
  /-- The words; the last one comes first. -/
  words : List (List Char)

/-- A paragraph without words. -/
def Draft.empty : Draft := ⟨true, 0, 0, none, []⟩

/-- Draws a word other than the last one. -/
def drawWord (last : Option Nat) : Building Nat := do
  match last with
  | none => Building.draw loremWords.length
  | some i => do
    let j ← Building.draw (loremWords.length - 1)
    return if j < i then j else j + 1

/-- The paragraph with a further word, which is the one of a number; `place` is the number of words
before it, and marks stand behind it if the last ones are far enough away. -/
def Draft.with (d : Draft) (place number near far : Nat) : Draft :=
  let bare := (loremWords[number]?).getD []
  let word := if d.isCapital then capitalize bare else bare
  let hasComma := d.comma + near < place
  let word := if hasComma then word ++ [','] else word
  let comma := if hasComma then place else d.comma
  let stop := if hasComma then d.stop + 2 else d.stop
  if stop + far < place then ⟨true, place, place, some number, (word ++ ['.']) :: d.words⟩
  else ⟨false, comma, stop, some number, word :: d.words⟩

/-- Writes a word; `place` is the number of words before it. -/
def write (d : Draft) (place : Nat) : Building Draft := do
  let number ← drawWord d.last
  let near ← Building.draw 5
  let far ← Building.draw 10
  return d.with place number (3 + near) (10 + far)

/-- A text that ends with a full stop. -/
def closed (s : List Char) : List Char :=
  match s.getLast? with
  | some '.' => s
  | some ',' => s.dropLast ++ ['.']
  | _ => s ++ ['.']

/-- A paragraph with so many words. -/
def paragraph (count : Nat) : Building (List Char) := do
  let d ← (List.range count).foldlM write Draft.empty
  return closed ([' '].intercalate d.words.reverse)

/-- The integer that a bound of a range stands for; `what` says which bound it is. -/
def bound (what : String) (v : Value) : Look Int := do
  match v.content, v.int? with
  | _, some n => return n
  | _, none => do
    let n ← v.toInteger
    if ← (Value.int n).equal v then return n
    else throw (.refused "ValueError" ("non-integer " ++ what ++ " for randrange()"))

end Lorem

namespace Setting

variable (s : Setting)

/-- A number from the first bound up to the other one, drawn by chance. -/
def drawBetween (low high : Value) : Eval Int := do
  let first ← (Lorem.bound "arg 1" low : Look Int)
  if high.isNone then
    if first > 0 then return (← (Building.draw first.toNat : Building Nat))
    else throw (.refused "ValueError" "empty range for randrange()")
  else
    let last ← (Lorem.bound "stop" high : Look Int)
    if first < last then return first + (← (Building.draw (last - first).toNat : Building Nat))
    else
      let shown ← ([first, last, last - first].mapM fun n => s.repr (.int n) : Look _)
      throw (.refused "ValueError"
        ("empty range for randrange() (" ++ ", ".intercalate shown ++ ")"))

/-- Texts without a meaning. -/
def callLipsum (a : Arguments) : Eval Value := do
  let vs ← Signature.bind ⟨"generate_lorem_ipsum", [], [optional "n" (.int 5),
    optional "html" (.bool true), optional "min" (.int 20), optional "max" (.int 100)]⟩ a
  let arg (i : Nat) : Value := (vs[i]?).getD .none
  let count ← (arg 0).requireInt
  let paragraphs ← (List.range count.toNat).mapM fun _ => do
    let size ← s.drawBetween (arg 2) (arg 3)
    (Lorem.paragraph size.toNat : Building (List Char))
  if ← ((arg 1).truth : Look Bool) then
    let marked := paragraphs.map fun p => "<p>".toList ++ escapeHtmlChars p ++ "</p>".toList
    return .markup (String.ofList (['\n'].intercalate marked))
  else return .ofChars (['\n', '\n'].intercalate paragraphs)

end Setting

/-! ## Circles -/

/-- A value that goes round through the arguments. -/
def makeCycler (a : Arguments) : Eval Value := do
  match a.named, a.positional with
  | (n, _) :: _, _ => throw (.arity (.unexpected "Cycler.__init__" n))
  | [], [] => throw (.refused "RuntimeError" "at least one item has to be provided")
  | [], v :: vs => do
    let items ← Eval.tuple (v :: vs)
    return .ofContent (.cycler (← (Building.addRow [items, .int 0, v] : Building Ref)))

/-- The items of a tuple. -/
def tupleItems (v : Value) : Look (List Value) :=
  match v.content with
  | .tuple r => Look.items r
  | _ => return []

/-- Moves a circle to a place. -/
def turnTo (r : Ref) (circle : Value) (items : List Value) (place : Nat) : Building Unit :=
  Building.putRow r [circle, .int place, (items[place]?).getD .none]

/-- A method of a circle. -/
def callCycler (r : Ref) (name : String) (a : Arguments) : Eval Value := do
  let _ ← Signature.bind ⟨"Cycler." ++ name, ["self"], []⟩ a
  let circle ← (Look.itemAt r 0 : Look Value)
  let items ← (tupleItems circle : Look (List Value))
  let place ← (Look.itemAt r 1 : Look Value)
  let current ← (Look.itemAt r 2 : Look Value)
  match name with
  | "next" => do
    (turnTo r circle items (((place.int?.getD 0).toNat + 1) % items.length) : Building Unit)
    return current
  | _ => do
    (turnTo r circle items 0 : Building Unit)
    return .none

/-! ## Texts between other ones -/

/-- A value that says nothing when it is called first, and a text ever after. -/
def makeJoiner (a : Arguments) : Eval Value := do
  let vs ← Signature.bind ⟨"Joiner.__init__", ["self"], [optional "sep" (.str ", ")]⟩ a
  let mark := (vs[0]?).getD .none
  return .ofContent (.joiner (← (Building.addRow [mark, .bool false] : Building Ref)))

/-- A call of a joiner. -/
def callJoiner (r : Ref) (a : Arguments) : Eval Value := do
  let _ ← Signature.bind ⟨"Joiner.__call__", ["self"], []⟩ a
  let mark ← (Look.itemAt r 0 : Look Value)
  if ← ((← (Look.itemAt r 1 : Look Value)).truth : Look Bool) then return mark
  else
    (Building.putRow r [mark, .bool true] : Building Unit)
    return .str ""

end Interpolation
