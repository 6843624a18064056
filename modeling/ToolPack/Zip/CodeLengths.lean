import ToolPack.Zip.PrefixCode

/-!
# Codes from the counts of symbols

A code is short when frequent symbols have short rows.  The two lightest trees are joined until one
is left, and the length of a symbol's row is its depth in that tree; rows that would be too long are
cut, and others are made longer to make room.  Among trees of one weight the lower one is taken,
and beyond that the place in the heap decides.

## What is here

* `Forest`, `Forest.grow`: the trees while they are joined;
* `Forest.depths`: the lengths of the rows, none longer than a limit;
* `PrefixCode.ofCounts`: the code for the counts of symbols.
-/

set_option autoImplicit false

namespace ToolPack
namespace Zip

/-- Trees that are being joined.  Nodes are numbers: first the symbols, then the joints. -/
structure Forest where
  weight : Array Nat
  height : Array Nat
  parent : Array Nat
  /-- The roots, as a heap from place one on; the lightest one comes first. -/
  heap : Array Nat
  /-- The nodes that have been joined, the last ones first. -/
  joined : List Nat

namespace Forest

/-- Whether a node goes before another one. -/
def goesBefore (f : Forest) (n m : Nat) : Bool :=
  let a := f.weight.getD n 0
  let b := f.weight.getD m 0
  a < b || (a == b && f.height.getD n 0 ≤ f.height.getD m 0)

/-- Lets a node sink from a place of the heap until no child goes before it. -/
def sink (f : Forest) (node : Nat) : Nat → Nat → Array Nat → Array Nat
  | 0, place, heap => heap.setIfInBounds place node
  | fuel + 1, place, heap =>
    let left := 2 * place
    if heap.size ≤ left then heap.setIfInBounds place node
    else
      let child :=
        if left + 1 < heap.size ∧ f.goesBefore (heap.getD (left + 1) 0) (heap.getD left 0) then
          left + 1
        else left
      if f.goesBefore node (heap.getD child 0) then heap.setIfInBounds place node
      else sink f node fuel child (heap.setIfInBounds place (heap.getD child 0))

/-- Lets the node at a place sink. -/
def settle (f : Forest) (place : Nat) : Forest :=
  { f with heap := f.sink (f.heap.getD place 0) f.heap.size place f.heap }

/-- Settles all places up to one, the last one first. -/
def settleAll (f : Forest) : Nat → Forest
  | 0 => f
  | place + 1 => (f.settle (place + 1)).settleAll place

/-- Takes the first root out of the heap. -/
def takeFirst (f : Forest) : Nat × Forest :=
  let first := f.heap.getD 1 0
  let last := f.heap.getD (f.heap.size - 1) 0
  (first, settle { f with heap := f.heap.pop.setIfInBounds 1 last } 1)

/-- Joins the first two roots under the node `joint`, which takes their place. -/
def join (f : Forest) (joint : Nat) : Forest :=
  let (n, f) := f.takeFirst
  let m := f.heap.getD 1 0
  let f : Forest :=
    { weight := f.weight.setIfInBounds joint (f.weight.getD n 0 + f.weight.getD m 0)
      height := f.height.setIfInBounds joint (max (f.height.getD n 0) (f.height.getD m 0) + 1)
      parent := (f.parent.setIfInBounds n joint).setIfInBounds m joint
      heap := f.heap.setIfInBounds 1 joint
      joined := m :: n :: f.joined }
  f.settle 1

/-- Joins roots under the nodes from `joint` on until one is left. -/
def grow : Nat → Nat → Forest → Forest
  | 0, _, f => f
  | fuel + 1, joint, f => if f.heap.size < 3 then f else grow fuel (joint + 1) (f.join joint)

/-- The nodes from the root down, each one after its parent. -/
def downward (f : Forest) : List Nat := f.heap.getD 1 0 :: f.joined

/-- The depths of the nodes, none greater than `limit`, and how many of them would have been. -/
def cutDepths (f : Forest) (limit : Nat) : Array Nat × Nat :=
  f.joined.foldl (fun (depths, cut) node =>
    let depth := depths.getD (f.parent.getD node 0) 0 + 1
    (depths.setIfInBounds node (min depth limit), if limit < depth then cut + 1 else cut))
    (Array.replicate f.weight.size 0, 0)

/-- The greatest depth, from `depth` down, at which there is a leaf. -/
def deepest (leaves : Array Nat) : Nat → Nat
  | 0 => 0
  | depth + 1 => if leaves.getD (depth + 1) 0 = 0 then deepest leaves depth else depth + 1

/-- Makes room for leaves that were cut: a leaf goes one down, and a cut one goes beside it. -/
def makeRoom (limit : Nat) : Nat → Nat → Array Nat → Array Nat
  | 0, _, leaves => leaves
  | fuel + 1, cut, leaves =>
    if cut = 0 then leaves
    else
      let depth := deepest leaves (limit - 1)
      let leaves := leaves.modify depth (· - 1)
      let leaves := leaves.modify (depth + 1) (· + 2)
      makeRoom limit fuel (cut - 2) (leaves.modify limit (· - 1))

/-- The depths of leaves, by their numbers at each depth: the lightest are the deepest. -/
def redistribute (leaves : Array Nat) (limit : Nat) (lightest : List Nat) : List (Nat × Nat) :=
  lightest.zip ((List.range limit).flatMap fun n =>
    List.replicate (leaves.getD (limit - n) 0) (limit - n))

/-- The depths of the symbols below `symbols`, none greater than `limit`. -/
def depths (f : Forest) (symbols limit : Nat) : Array Nat :=
  let (depths, cut) := f.cutDepths limit
  if cut = 0 then depths
  else
    let lightest := (f.downward.filter (· < symbols)).reverse
    let leaves := lightest.foldl (fun counts s => counts.modify (depths.getD s 0) (· + 1))
      (Array.replicate (limit + 2) 0)
    (redistribute (makeRoom limit cut cut leaves) limit lightest).foldl
      (fun depths entry => depths.setIfInBounds entry.1 entry.2) depths

end Forest

namespace PrefixCode

/-- The symbols that get a row: those that occur, and if there are fewer than two, others. -/
def present (counts : List Nat) : List Nat :=
  let used := (counts.zipIdx.filter fun entry => entry.1 != 0).map (·.2)
  match used with
  | [] => [0, 1]
  | [s] => if s < 2 then [s, s + 1] else [s, 0]
  | used => used

/-- The code for the counts of symbols, with no row longer than `limit`.  It ends with the last
symbol that has a row. -/
def ofCounts (limit : Nat) (counts : List Nat) : PrefixCode :=
  let symbols := present counts
  let size := 2 * counts.length + 1
  let weight := counts.toArray ++ Array.replicate (counts.length + 1) 0
  let weight := symbols.foldl (fun w s => w.modify s (max 1)) weight
  let f : Forest :=
    { weight := weight, height := Array.replicate size 0, parent := Array.replicate size 0
      heap := (0 :: symbols).toArray, joined := [] }
  let f := (f.settleAll (symbols.length / 2)).grow symbols.length counts.length
  let last := symbols.foldl max 0
  ((f.depths counts.length limit).toList.take (last + 1)).zipIdx.map fun entry =>
    if symbols.contains entry.2 then entry.1 else 0

end PrefixCode
end Zip
end ToolPack
