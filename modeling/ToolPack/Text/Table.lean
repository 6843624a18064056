/-!
# Tables of character data

The larger tables of the Unicode standard are kept as lines of text: hexadecimal words separated
by blanks, a semicolon after each record.  A table is read once into sorted keys with their rows
and then searched by halving.

## What is here

* `Table.records`: the records of a table text;
* `Table.ofRuns`: rows for runs of numbers that follow each other without gaps, each record
  starting with the length of its run;
* `Table.ofGaps`: rows for single numbers, each record starting with the distance to the number
  before it;
* `Table.floor?` and `Table.row?`: the row at or below a number, and the row of a number.
-/

set_option autoImplicit false

namespace ToolPack
namespace Text

/-- Rows under ascending keys. -/
structure Table where
  keys : Array Nat
  rows : Array (List Nat)

namespace Table

/-- Where the reading of a table text stands: the word being read, whether it has a digit yet,
the words of the record so far, the last one first, and the records before it. -/
structure Reading where
  word : Nat := 0
  begun : Bool := false
  words : List Nat := []
  records : Array (List Nat) := #[]

/-- The value of a hexadecimal digit. -/
def hexValue (c : Char) : Nat :=
  if c.isDigit then c.toNat - '0'.toNat else c.toNat - 'a'.toNat + 10

/-- The words so far, with the one being read. -/
def Reading.closed (r : Reading) : List Nat := if r.begun then r.word :: r.words else r.words

/-- One more character of a table text. -/
def Reading.step (r : Reading) (c : Char) : Reading :=
  if c = ';' then { records := r.records.push r.closed.reverse }
  else if c = ' ' then { words := r.closed, records := r.records }
  else { r with word := r.word * 16 + hexValue c, begun := true }

/-- The records of the lines of a table. -/
def records (lines : List String) : Array (List Nat) :=
  (lines.foldl (fun (r : Reading) (line : String) => line.toList.foldl Reading.step r) {}).records

/-- One more run: its key is where the runs before it end. -/
def addRun (acc : Table × Nat) : List Nat → Table × Nat
  | [] => acc
  | length :: row => (⟨acc.1.keys.push acc.2, acc.1.rows.push row⟩, acc.2 + length)

/-- The rows of runs that follow each other, the first one from zero. -/
def ofRuns (lines : List String) : Table := ((records lines).foldl addRun (⟨#[], #[]⟩, 0)).1

/-- One more number: its key is the key before it and the distance. -/
def addGap (acc : Table × Nat) : List Nat → Table × Nat
  | [] => acc
  | gap :: row => (⟨acc.1.keys.push (acc.2 + gap), acc.1.rows.push row⟩, acc.2 + gap)

/-- The rows of single numbers, each given by its distance to the one before. -/
def ofGaps (lines : List String) : Table := ((records lines).foldl addGap (⟨#[], #[]⟩, 0)).1

/-- The place of the last key that is at most `n`, among the places from `lo` to before `hi`,
when the one at `lo` is. -/
def search (keys : Array Nat) (n lo hi : Nat) : Nat :=
  if lo + 1 < hi then
    if keys.getD ((lo + hi) / 2) 0 ≤ n then search keys n ((lo + hi) / 2) hi
    else search keys n lo ((lo + hi) / 2)
  else lo
termination_by hi - lo

/-- The greatest key that is at most `n`, and its row. -/
def floor? (t : Table) (n : Nat) : Option (Nat × List Nat) :=
  let place := search t.keys n 0 t.keys.size
  match t.keys[place]?, t.rows[place]? with
  | some key, some row => if key ≤ n then some (key, row) else none
  | _, _ => none

/-- The row under the key `n`. -/
def row? (t : Table) (n : Nat) : Option (List Nat) :=
  match t.floor? n with
  | some (key, row) => if key = n then some row else none
  | none => none

/-- The first word of the row at or below `n`. -/
def value (t : Table) (n : Nat) : Nat :=
  match t.floor? n with
  | some (_, v :: _) => v
  | _ => 0

end Table
end Text
end ToolPack
