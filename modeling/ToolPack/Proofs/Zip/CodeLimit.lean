import Mathlib.Data.List.Basic
import ToolPack.Proofs.Zip.Unpack

/-!
# Codes keep to their limits

The rows of a code are as long as leaves are deep in a tree, and that tree may be deeper than the
format allows.  Leaves that are too deep are cut off at the limit, and where this makes room
necessary, all of them are dealt depths that start from the limit; so no row comes out longer than
it, however the trees were joined.

## What is here

* `le_of_mem_cutDepths`, `le_of_mem_redistribute`: the two places where depths come from;
* `PrefixCode.le_of_mem_ofCounts`: no row of a code from counts is longer than its limit;
* `PrefixCode.length_ofCounts_le`: such a code has hardly more rows than there are counts;
* `PrefixCode.length_words_getD_le`: a row is as long as its code says.
-/

set_option autoImplicit false

namespace ToolPack
namespace Zip

/-! ## Depths -/

/-- A value that is put into an array keeps to the limit that all the others keep to. -/
theorem le_of_mem_setIfInBounds {depths : Array Nat} {limit place depth : Nat}
    (hdepths : ∀ n ∈ depths, n ≤ limit) (hdepth : depth ≤ limit) :
    ∀ n ∈ depths.setIfInBounds place depth, n ≤ limit := by
  intro n hn
  rcases Array.mem_or_eq_of_mem_setIfInBounds hn with hn | rfl
  · exact hdepths n hn
  · exact hdepth

namespace Forest

/-- Depths are cut off at the limit. -/
theorem le_of_mem_cutDepths (f : Forest) (limit : Nat) :
    ∀ n ∈ (f.cutDepths limit).1, n ≤ limit := by
  refine List.foldlRecOn (motive := fun work : Array Nat × Nat => ∀ n ∈ work.1, n ≤ limit)
    f.joined _ ?_ fun work hwork node _ => ?_
  · intro n hn
    rw [(Array.mem_replicate.mp hn).2]
    exact Nat.zero_le limit
  · exact le_of_mem_setIfInBounds hwork (Nat.min_le_right _ _)

/-- Depths are dealt from the limit down. -/
theorem le_of_mem_redistribute (leaves : Array Nat) (limit : Nat) (lightest : List Nat) :
    ∀ entry ∈ redistribute leaves limit lightest, entry.2 ≤ limit := by
  intro entry hentry
  obtain ⟨-, hdepth⟩ := List.of_mem_zip hentry
  obtain ⟨n, -, hdepth⟩ := List.mem_flatMap.mp hdepth
  rw [List.eq_of_mem_replicate hdepth]
  exact Nat.sub_le limit n

theorem le_of_mem_depths (f : Forest) (symbols limit : Nat) :
    ∀ n ∈ f.depths symbols limit, n ≤ limit := by
  have hcut := f.le_of_mem_cutDepths limit
  rw [depths]
  generalize f.cutDepths limit = work at hcut ⊢
  obtain ⟨depths, cut⟩ := work
  show ∀ n ∈ if cut = 0 then depths else _, n ≤ limit
  split
  · exact hcut
  · refine List.foldlRecOn (motive := fun depths : Array Nat => ∀ n ∈ depths, n ≤ limit)
      _ _ hcut fun depths hdepths entry hentry => ?_
    exact le_of_mem_setIfInBounds hdepths (le_of_mem_redistribute _ limit _ entry hentry)

end Forest

/-! ## Codes -/

namespace PrefixCode

/-- The symbols with rows are those that were counted, and at most two more. -/
theorem le_of_mem_present (counts : List Nat) : ∀ s ∈ present counts, s ≤ counts.length + 1 := by
  have hused : ∀ s ∈ (counts.zipIdx.filter fun entry => entry.1 != 0).map (·.2),
      s < counts.length := by
    intro s hs
    obtain ⟨entry, hentry, rfl⟩ := List.mem_map.mp hs
    exact List.snd_lt_of_mem_zipIdx (List.mem_of_mem_filter hentry)
  intro s hs
  rw [present] at hs
  split at hs
  · rcases List.mem_pair.mp hs with rfl | rfl <;> omega
  · rename_i first hfirst
    have hlt : first < counts.length := by
      refine hused first ?_
      rw [hfirst]
      exact List.mem_singleton_self first
    split at hs
    · rcases List.mem_pair.mp hs with rfl | rfl <;> omega
    · rcases List.mem_pair.mp hs with rfl | rfl <;> omega
  · exact Nat.le_succ_of_le (Nat.le_of_lt (hused s hs))

/-- **No row of a code from counts is longer than its limit.** -/
theorem le_of_mem_ofCounts (limit : Nat) (counts : List Nat) :
    ∀ n ∈ ofCounts limit counts, n ≤ limit := by
  intro n hn
  obtain ⟨entry, hentry, rfl⟩ := List.mem_map.mp hn
  split
  · have hdepth := List.mem_of_mem_take (List.fst_mem_of_mem_zipIdx hentry)
    exact Forest.le_of_mem_depths _ _ limit _ (Array.mem_toList_iff.mp hdepth)
  · exact Nat.zero_le limit

theorem length_ofCounts_le (limit : Nat) (counts : List Nat) :
    (ofCounts limit counts).length ≤ counts.length + 2 := by
  have hlast : (present counts).foldl max 0 ≤ counts.length + 1 :=
    List.foldlRecOn (motive := (· ≤ counts.length + 1)) (present counts) max (Nat.zero_le _)
      fun last hlast s hs => Nat.max_le.mpr ⟨hlast, le_of_mem_present counts s hs⟩
  rw [ofCounts, List.length_map, List.length_zipIdx]
  exact Nat.le_trans (List.length_take_le _ _) (Nat.succ_le_succ hlast)

/-- The rows of a code have its lengths. -/
theorem length_mem_of_mem_wordsFrom {next : Array Nat} {code : PrefixCode} :
    ∀ word ∈ wordsFrom next code, word.length ∈ code := by
  induction code generalizing next with
  | nil => exact fun word hword => absurd hword List.not_mem_nil
  | cons length rest ih =>
    refine List.forall_mem_cons.mpr ⟨?_, fun word hword => List.mem_cons_of_mem _ (ih word hword)⟩
    rw [Bits.highFirst, List.length_reverse, length_lowFirst]
    exact List.mem_cons_self

/-- A row is no longer than the code says. -/
theorem length_words_getD_le {code : PrefixCode} {limit : Nat} (h : ∀ n ∈ code, n ≤ limit)
    (s : Nat) : (code.words.getD s []).length ≤ limit := by
  rw [Array.getD_eq_getD_getElem?]
  cases hword : code.words[s]? with
  | none => exact Nat.zero_le limit
  | some word =>
    have hmem : word ∈ code.words := Array.mem_of_getElem? hword
    exact h _ (length_mem_of_mem_wordsFrom word (List.mem_toArray.mp hmem))

end PrefixCode
end Zip
end ToolPack
