/-!
# Patterns of URLs

A pattern stands for the texts that it matches from end to end: a star for any text, a question mark
for any character, a set in brackets for one of its characters, and every other character for
itself.

Main definitions:

* `GlobItem`, `globItems`: the parts of a pattern.
* `globMatches`: whether a pattern matches a text.
-/

namespace Interpolation.Trust

/-- A part of a pattern. -/
inductive GlobItem where
  /-- Any text. -/
  | anyText
  /-- Any character. -/
  | anyChar
  /-- A character itself. -/
  | char (c : Char)
  /-- A character that is, or is not, within one of the ranges. -/
  | set (negated : Bool) (ranges : List (Char × Char))
deriving DecidableEq, Repr

/-! ## Sets

A hyphen inside a set makes a range of its two neighbours, unless it stands at an end or directly
behind a range. A range whose ends are in the wrong order is dropped together with its ends. -/

/-- The chunks of a set between the hyphens that make ranges. A hyphen that comes sooner than
`skip` characters belongs to its chunk. -/
def setChunks : (skip : Nat) → List Char → List (List Char)
  | _, [] => [[]]
  | skip, c :: s =>
    if c = '-' ∧ skip = 0 then [] :: setChunks 2 s
    else
      match setChunks (skip - 1) s with
      | [] => [[c]]
      | chunk :: chunks => (c :: chunk) :: chunks

/-- A hyphen at the end of a set belongs to the chunk before it. -/
def closeChunks : List (List Char) → List (List Char)
  | [] => []
  | [chunk] => [chunk]
  | [chunk, []] => [chunk ++ ['-']]
  | chunk :: rest => chunk :: closeChunks rest

/-- The chunks without the ranges whose ends are in the wrong order. -/
def dropEmptyRanges : List (List Char) → List (List Char)
  | [] => []
  | chunk :: rest =>
    match dropEmptyRanges rest with
    | [] => [chunk]
    | next :: more =>
      match chunk.getLast?, next.head? with
      | some low, some high =>
        if high < low then (chunk.dropLast ++ next.drop 1) :: more
        else chunk :: next :: more
      | _, _ => chunk :: next :: more

/-- The ranges of chunks: each character of a chunk, and the range between neighbouring chunks. -/
def chunkRanges : List (List Char) → List (Char × Char)
  | [] => []
  | [chunk] => chunk.map fun c => (c, c)
  | chunk :: next :: rest =>
    let between := match chunk.getLast?, next.head? with
      | some low, some high => [(low, high)]
      | _, _ => []
    chunk.map (fun c => (c, c)) ++ between ++ chunkRanges (next :: rest)

/-- The ranges of what stands in brackets. -/
def setRanges (s : List Char) : List (Char × Char) :=
  chunkRanges (dropEmptyRanges (closeChunks (setChunks 1 s)))

/-- What stands between an opening bracket and the closing one, and the rest; a closing bracket at
the very beginning belongs to the set. -/
def readSet? (s : List Char) : Option (Bool × List Char × List Char) :=
  let (negated, s) := match s with
    | '!' :: rest => (true, rest)
    | s => (false, s)
  let (first, s) := match s with
    | ']' :: rest => ([']'], rest)
    | s => ([], s)
  let inside := s.takeWhile (· != ']')
  match s.drop inside.length with
  | [] => none
  | _ :: rest => some (negated, first ++ inside, rest)

/-- The parts of a pattern from a place on. The fuel is the length of the pattern. -/
def globItemsFrom : (fuel : Nat) → List Char → List GlobItem
  | 0, _ => []
  | _, [] => []
  | fuel + 1, c :: s =>
    if c = '*' then .anyText :: globItemsFrom fuel s
    else if c = '?' then .anyChar :: globItemsFrom fuel s
    else if c = '[' then
      match readSet? s with
      | none => .char '[' :: globItemsFrom fuel s
      | some (negated, inside, rest) =>
        .set negated (setRanges inside) :: globItemsFrom fuel rest
    else .char c :: globItemsFrom fuel s

/-- The parts of a pattern. -/
def globItems (pattern : List Char) : List GlobItem := globItemsFrom pattern.length pattern

/-! ## Matching

The stars divide a pattern into runs of other parts. A run behind a star is looked for from the
left, and the first place at which it matches is kept: no later place leaves more room for the runs
behind it. Only the last run has no choice, because it ends where the text ends. -/

/-- Whether a part other than a star matches a character. -/
def GlobItem.admits (c : Char) : GlobItem → Bool
  | .anyText | .anyChar => true
  | .char d => c == d
  | .set negated ranges => (ranges.any fun (low, high) => low ≤ c && c ≤ high) != negated

/-- The parts before the first star, and the runs behind the stars. -/
def starRuns : List GlobItem → List GlobItem × List (List GlobItem)
  | [] => ([], [])
  | item :: items =>
    let (run, runs) := starRuns items
    match item with
    | .anyText => ([], run :: runs)
    | item => (item :: run, runs)

/-- What is left of a text behind a run, if the text begins with characters that match it. -/
def afterRun? : (run : List GlobItem) → List Char → Option (List Char)
  | [], s => some s
  | _ :: _, [] => none
  | item :: run, c :: s => if item.admits c then afterRun? run s else none

/-- What is left of a text behind the first place at which a run matches. -/
def afterFirstRun? (run : List GlobItem) : List Char → Option (List Char)
  | [] => afterRun? run []
  | c :: s =>
    match afterRun? run (c :: s) with
    | some rest => some rest
    | none => afterFirstRun? run s

/-- Whether a text ends with characters that match a run. -/
def endsWithRun (run : List GlobItem) (s : List Char) : Bool :=
  run.length ≤ s.length && (afterRun? run (s.drop (s.length - run.length))).isSome

/-- Whether runs with a star before each of them match a whole text. -/
def runsMatch : (runs : List (List GlobItem)) → List Char → Bool
  | [], s => s.isEmpty
  | [last], s => endsWithRun last s
  | run :: runs, s =>
    match afterFirstRun? run s with
    | some rest => runsMatch runs rest
    | none => false

/-- Whether the parts of a pattern match a whole text. -/
def itemsMatch (items : List GlobItem) (s : List Char) : Bool :=
  let (run, runs) := starRuns items
  match afterRun? run s with
  | some rest => runsMatch runs rest
  | none => false

/-- Whether a pattern matches a whole text. -/
def globMatches (pattern text : String) : Bool :=
  itemsMatch (globItems pattern.toList) text.toList

end Interpolation.Trust
