/-! The lines in which two texts differ. A shortest way from one text to the other is looked for from
both ends at once; where the two searches meet, the texts are cut in two. -/

namespace WheelInstaller.Text.Difference

/-- Lines of two texts, by numbers that are the same for equal lines. -/
structure Pair where
  first : Array Nat
  second : Array Nat

namespace Pair

/-- Whether a line of the first text is a line of the second text. -/
def agrees (pair : Pair) (x y : Int) : Bool :=
  pair.first[x.toNat]? = pair.second[y.toNat]?

/-- The last place from which on backwards all is equal up to the given one, within limits. -/
def slideDown (pair : Pair) (xLimit yLimit : Int) : (fuel : Nat) → (x y : Int) → Int
  | 0, x, _ => x
  | fuel + 1, x, y =>
    if x < xLimit && y < yLimit && pair.agrees x y then
      pair.slideDown xLimit yLimit fuel (x + 1) (y + 1)
    else x

/-- The first place from which on all is equal up to the given one, within limits. -/
def slideUp (pair : Pair) (xLimit yLimit : Int) : (fuel : Nat) → (x y : Int) → Int
  | 0, x, _ => x
  | fuel + 1, x, y =>
    if xLimit < x && yLimit < y && pair.agrees (x - 1) (y - 1) then
      pair.slideUp xLimit yLimit fuel (x - 1) (y - 1)
    else x

/-- A part of each text. -/
structure Frame where
  xStart : Int
  xEnd : Int
  yStart : Int
  yEnd : Int

/-- How far a search has come on every diagonal, and on which diagonals it is. -/
structure Front where
  reached : Array Int
  least : Int
  greatest : Int

/-- How far a search has come on a diagonal. -/
def Front.on (front : Front) (shift diagonal : Int) : Int :=
  front.reached.getD (diagonal + shift).toNat 0

/-- A front that has come to a place on a diagonal. -/
def Front.reach (front : Front) (shift diagonal place : Int) : Front :=
  { front with reached := front.reached.setIfInBounds (diagonal + shift).toNat place }

/-- A front that is on the next diagonals as far as there are any. What lies behind them cannot be
reached, which `beyond` stands for. -/
def Front.widen (front : Front) (shift least greatest beyond : Int) : Front :=
  let front :=
    if least < front.least then
      { front with least := front.least - 1 }.reach shift (front.least - 2) beyond
    else { front with least := front.least + 1 }
  if front.greatest < greatest then
    { front with greatest := front.greatest + 1 }.reach shift (front.greatest + 2) beyond
  else { front with greatest := front.greatest - 1 }

/-- One step of the search from the start on every second diagonal, and where it met the other one. -/
def advance (pair : Pair) (frame : Frame) (shift : Int) (other : Front) (meets : Bool) :
    (fuel : Nat) → (diagonal : Int) → Front → Front × Option (Int × Int)
  | 0, _, front => (front, none)
  | fuel + 1, diagonal, front =>
    if diagonal < front.least then (front, none)
    else
      let below := front.on shift (diagonal - 1)
      let above := front.on shift (diagonal + 1)
      let start := if below < above then above else below + 1
      let x := pair.slideDown frame.xEnd frame.yEnd pair.first.size start (start - diagonal)
      let front := front.reach shift diagonal x
      if meets && other.least ≤ diagonal && diagonal ≤ other.greatest &&
          other.on shift diagonal ≤ x then
        (front, some (x, x - diagonal))
      else pair.advance frame shift other meets fuel (diagonal - 2) front

/-- One step of the search from the end on every second diagonal, and where it met the other one. -/
def retreat (pair : Pair) (frame : Frame) (shift : Int) (other : Front) (meets : Bool) :
    (fuel : Nat) → (diagonal : Int) → Front → Front × Option (Int × Int)
  | 0, _, front => (front, none)
  | fuel + 1, diagonal, front =>
    if diagonal < front.least then (front, none)
    else
      let below := front.on shift (diagonal - 1)
      let above := front.on shift (diagonal + 1)
      let start := if below < above then below else above - 1
      let x := pair.slideUp frame.xStart frame.yStart pair.first.size start (start - diagonal)
      let front := front.reach shift diagonal x
      if meets && other.least ≤ diagonal && diagonal ≤ other.greatest &&
          x ≤ other.on shift diagonal then
        (front, some (x, x - diagonal))
      else pair.retreat frame shift other meets fuel (diagonal - 2) front

/-- Where the two searches meet. -/
def meet (pair : Pair) (frame : Frame) (shift : Int) (isOdd : Bool) :
    (fuel : Nat) → Front → Front → Int × Int
  | 0, _, _ => (frame.xEnd, frame.yStart)
  | fuel + 1, forward, backward =>
    let least := frame.xStart - frame.yEnd
    let greatest := frame.xEnd - frame.yStart
    let count := pair.first.size + pair.second.size + 1
    let forward := forward.widen shift least greatest (-1)
    match pair.advance frame shift backward isOdd count forward.greatest forward with
    | (_, some place) => place
    | (forward, none) =>
      let backward := backward.widen shift least greatest (2 * count)
      match pair.retreat frame shift forward (!isOdd) count backward.greatest backward with
      | (_, some place) => place
      | (backward, none) => pair.meet frame shift isOdd fuel forward backward

/-- Where a part of each text is to be cut in two. -/
def middle (pair : Pair) (frame : Frame) : Int × Int :=
  let shift : Int := pair.second.size + 2
  let reached := Array.replicate (pair.first.size + pair.second.size + 5) 0
  let start := frame.xStart - frame.yStart
  let finish := frame.xEnd - frame.yEnd
  let forward := { reached, least := start, greatest := start : Front }.reach shift start frame.xStart
  let backward := { reached, least := finish, greatest := finish : Front }.reach shift finish frame.xEnd
  pair.meet frame shift ((start - finish) % 2 ≠ 0) (pair.first.size + pair.second.size + 1)
    forward backward

/-- Lines of the texts that are not in both of them. -/
structure Marks where
  first : Array Bool
  second : Array Bool

/-- Marks with those of a run of lines. -/
def markRange (marks : Array Bool) (start stop : Int) : Array Bool :=
  (List.range (stop - start).toNat).foldl (fun marks step =>
    marks.setIfInBounds (start.toNat + step) true) marks

def mark (pair : Pair) : (fuel : Nat) → Frame → Marks → Marks
  | 0, _, marks => marks
  | fuel + 1, frame, marks =>
    let xStart := pair.slideDown frame.xEnd frame.yEnd pair.first.size frame.xStart frame.yStart
    let yStart := frame.yStart + (xStart - frame.xStart)
    let xEnd := pair.slideUp xStart yStart pair.first.size frame.xEnd frame.yEnd
    let yEnd := frame.yEnd - (frame.xEnd - xEnd)
    if xStart = xEnd then { marks with second := markRange marks.second yStart yEnd }
    else if yStart = yEnd then { marks with first := markRange marks.first xStart xEnd }
    else
      let (x, y) := pair.middle { xStart, xEnd, yStart, yEnd }
      let marks := pair.mark fuel { xStart, xEnd := x, yStart, yEnd := y } marks
      pair.mark fuel { xStart := x, xEnd, yStart := y, yEnd } marks

/-- The lines that the other text has as well, and their places. -/
def shared (lines other : Array Nat) : Array (Nat × Nat) :=
  (lines.zipIdx).filter fun (line, _) => other.contains line

/-- The lines that are not in both texts. A line that the other text does not have at all is left out of
the search. -/
def marks (pair : Pair) : Marks :=
  let first := shared pair.first pair.second
  let second := shared pair.second pair.first
  let inner : Pair := { first := first.map (·.1), second := second.map (·.1) }
  let found := inner.mark (first.size + second.size + 1)
    { xStart := 0, xEnd := first.size, yStart := 0, yEnd := second.size }
    { first := Array.replicate first.size false, second := Array.replicate second.size false }
  let spread (size : Nat) (kept : Array (Nat × Nat)) (found : Array Bool) : Array Bool :=
    (kept.zip found).foldl (fun marks ((_, place), isMarked) =>
      marks.setIfInBounds place isMarked) (Array.replicate size true)
  { first := spread pair.first.size first found.first
    second := spread pair.second.size second found.second }

end Pair

/-- A run of marked lines that is moved, and the place in the other text that belongs to its end. -/
structure Run where
  marks : Array Bool
  start : Nat
  stop : Nat
  place : Nat
  /-- Where the end of the run was when there was a run in the other text beside it. -/
  beside : Option Nat := none

/-- The first place from the given one on that is not marked. -/
def skipMarked (marks : Array Bool) : (fuel place : Nat) → Nat
  | 0, place => place
  | fuel + 1, place =>
    if marks.getD place false then skipMarked marks fuel (place + 1) else place

/-- The place behind the last one up to the given one that is not marked. -/
def skipMarkedBack (marks : Array Bool) : (place : Nat) → Nat
  | 0 => 0
  | place + 1 => if marks.getD place false then skipMarkedBack marks place else place + 1

/-- Moves a run up while the line before it is its last line. It takes up runs that it meets. -/
def Run.moveUp (lines : Array Nat) (other : Array Bool) : (fuel : Nat) → Run → Run
  | 0, run => run
  | fuel + 1, run =>
    if 0 < run.start && lines[run.start - 1]? = lines[run.stop - 1]? then
      let marks := (run.marks.setIfInBounds (run.start - 1) true).setIfInBounds (run.stop - 1) false
      moveUp lines other fuel { run with
        marks, start := skipMarkedBack marks (run.start - 1), stop := run.stop - 1
        place := skipMarkedBack other run.place - 1 }
    else run

/-- Moves a run down while the line after it is its first line. It takes up runs that it meets. -/
def Run.moveDown (lines : Array Nat) (other : Array Bool) : (fuel : Nat) → Run → Run
  | 0, run => run
  | fuel + 1, run =>
    if run.stop < lines.size && lines[run.start]? = lines[run.stop]? then
      let marks := (run.marks.setIfInBounds run.start false).setIfInBounds run.stop true
      let stop := skipMarked marks lines.size (run.stop + 1)
      let place := skipMarked other other.size (run.place + 1)
      moveDown lines other fuel { run with
        marks, start := run.start + 1, stop, place
        beside := if place ≠ run.place + 1 then some stop else run.beside }
    else run

/-- Moves a run up and down until it takes up no more runs. -/
def Run.settle (lines : Array Nat) (other : Array Bool) : (fuel : Nat) → Run → Run
  | 0, run => run
  | fuel + 1, run =>
    let size := run.stop - run.start
    let run := Run.moveUp lines other lines.size run
    let isBeside := 0 < run.place && other.getD (run.place - 1) false
    let run := Run.moveDown lines other lines.size
      { run with beside := if isBeside then some run.stop else none }
    if run.stop - run.start = size then run else settle lines other fuel run

/-- Moves a run back to where it was beside a run in the other text. -/
def Run.moveBack (other : Array Bool) : (fuel : Nat) → Run → Run
  | 0, run => run
  | fuel + 1, run =>
    if run.beside.any (· < run.stop) && 0 < run.start then
      moveBack other fuel { run with
        marks := (run.marks.setIfInBounds (run.start - 1) true).setIfInBounds (run.stop - 1) false
        start := run.start - 1, stop := run.stop - 1
        place := skipMarkedBack other run.place - 1 }
    else run

/-- Moves all runs of a text down as far as possible, or beside runs of the other text. -/
def shiftRuns (lines : Array Nat) (other : Array Bool) :
    (fuel place otherPlace : Nat) → Array Bool → Array Bool
  | 0, _, _, marks => marks
  | fuel + 1, place, otherPlace, marks =>
    if lines.size ≤ place then marks
    else if marks.getD place false then
      let run : Run := {
        marks, start := place, stop := skipMarked marks lines.size place
        place := skipMarked other other.size otherPlace }
      let run := Run.settle lines other (lines.size + 1) run
      let run := Run.moveBack other lines.size run
      shiftRuns lines other fuel run.stop run.place run.marks
    else shiftRuns lines other fuel (place + 1) (skipMarked other other.size otherPlace + 1) marks

/-- A part of the first text that is replaced by a part of the second one. -/
structure Change where
  start : Nat
  removed : Nat
  otherStart : Nat
  added : Nat
deriving DecidableEq, Repr

/-- The changes that marks tell, from places in the texts on. -/
def changesFrom (marks : Pair.Marks) : (fuel place otherPlace : Nat) → List Change
  | 0, _, _ => []
  | fuel + 1, place, otherPlace =>
    let stop := skipMarked marks.first marks.first.size place
    let otherStop := skipMarked marks.second marks.second.size otherPlace
    let rest :=
      if marks.first.size ≤ stop && marks.second.size ≤ otherStop then []
      else changesFrom marks fuel (stop + 1) (otherStop + 1)
    if stop = place && otherStop = otherPlace then rest
    else
      { start := place, removed := stop - place, otherStart := otherPlace,
        added := otherStop - otherPlace } :: rest

def Pair.changes (pair : Pair) : List Change :=
  let marks := pair.marks
  let fuel := pair.first.size + pair.second.size + 1
  let first := shiftRuns pair.first marks.second fuel 0 0 marks.first
  let second := shiftRuns pair.second first fuel 0 0 marks.second
  changesFrom { first, second } fuel 0 0

end WheelInstaller.Text.Difference
