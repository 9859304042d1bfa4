/-!
# Cutting a text at a marker

The leftmost occurrence of a marker splits a text into what stands before it and what stands after
it; all searching in this library goes through this one operation.

Main definitions:

* `after? m s`: what follows the marker `m` when `s` begins with it.
* `cut? m s`: the two sides of the leftmost occurrence of `m` in `s`.
* `splitOn`, `splitAtChar`, `replace`, `count`, `indexOf?`: the usual operations, each by repeated
  cuts.

Main statements: `cut?` loses nothing (`cut?_eq_some`), and the part behind the marker is shorter by
the marker and by what stood before it (`length_of_cut?`).
-/

namespace Interpolation.Text

variable {m s a b : List Char}

/-- What is left of `s` after the marker `m`, if `s` begins with `m`. -/
def after? : (m s : List Char) → Option (List Char)
  | [], s => some s
  | _ :: _, [] => none
  | c :: m, d :: s => if c = d then after? m s else none

/-- The text before the leftmost occurrence of `m`, and the text behind it. -/
def cut? (m : List Char) : List Char → Option (List Char × List Char)
  | [] => (after? m []).map fun rest => ([], rest)
  | c :: s =>
    match after? m (c :: s) with
    | some rest => some ([], rest)
    | none => (cut? m s).map fun (a, b) => (c :: a, b)

theorem after?_eq_some (h : after? m s = some b) : s = m ++ b := by
  induction m generalizing s with
  | nil => simpa [after?] using h
  | cons c m ih =>
    cases s with
    | nil => simp [after?] at h
    | cons d s =>
      by_cases hc : c = d
      · simp only [after?, hc, if_true] at h
        simp [hc, ih h]
      · simp [after?, hc] at h

/-- Nothing is lost by a cut. -/
theorem cut?_eq_some (h : cut? m s = some (a, b)) : s = a ++ m ++ b := by
  induction s generalizing a with
  | nil =>
    simp only [cut?, Option.map_eq_some_iff, Prod.mk.injEq] at h
    obtain ⟨r, hr, rfl, rfl⟩ := h
    simpa using after?_eq_some hr
  | cons c s ih =>
    simp only [cut?] at h
    split at h
    · next r hr =>
      simp only [Option.some.injEq, Prod.mk.injEq] at h
      obtain ⟨rfl, rfl⟩ := h
      simpa using after?_eq_some hr
    · simp only [Option.map_eq_some_iff, Prod.mk.injEq] at h
      obtain ⟨⟨a', b'⟩, hr, rfl, rfl⟩ := h
      simp [ih hr]

/-- The part behind the marker is shorter by the marker and by what stood before it. -/
theorem length_of_cut? (h : cut? m s = some (a, b)) :
    s.length = a.length + m.length + b.length := by
  rw [cut?_eq_some h, List.length_append, List.length_append]

/-- Whether the marker occurs in the text. -/
def occurs (m s : List Char) : Bool := (cut? m s).isSome

/-- The position of the leftmost occurrence. -/
def indexOf? (m s : List Char) : Option Nat := (cut? m s).map (·.1.length)

/-- The pieces between the occurrences of a nonempty marker, at most `limit` cuts when a limit is
given. -/
def splitOn (m : List Char) (hm : m ≠ []) (s : List Char) (limit : Option Nat) :
    List (List Char) :=
  if limit = some 0 then [s]
  else
    match h : cut? m s with
    | none => [s]
    | some (a, b) => a :: splitOn m hm b (limit.map (· - 1))
termination_by s.length
decreasing_by
  have := length_of_cut? h
  have : m.length ≠ 0 := by simpa using hm
  omega

/-- The pieces between the occurrences of a character. -/
def splitAtChar (c : Char) (s : List Char) : List (List Char) :=
  splitOn [c] (List.cons_ne_nil c []) s none

/-- The number of occurrences that do not overlap, found from the left. The empty marker occurs
before every character and at the end. -/
def count (m s : List Char) : Nat :=
  if hm : m = [] then s.length + 1 else (splitOn m hm s none).length - 1

/-- Puts `new` between the characters, before the first and behind the last, at most `limit`
times. -/
def interleave (new : List Char) : List Char → Option Nat → List Char
  | s, some 0 => s
  | [], _ => new
  | c :: s, limit => new ++ c :: interleave new s (limit.map (· - 1))

/-- Every occurrence of `old` replaced by `new`, at most `limit` of them when a limit is given. -/
def replace (old new s : List Char) (limit : Option Nat) : List Char :=
  if hm : old = [] then interleave new s limit
  else new.intercalate (splitOn old hm s limit)

/-- The position of the rightmost occurrence. -/
def lastIndexOf? (m s : List Char) : Option Nat :=
  (indexOf? m.reverse s.reverse).map fun i => s.length - m.length - i

end Interpolation.Text
