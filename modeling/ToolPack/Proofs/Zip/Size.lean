import Mathlib.Algebra.BigOperators.Ring.List
import Mathlib.Algebra.Order.BigOperators.Group.List
import Mathlib.Algebra.Order.Ring.Nat
import ToolPack.Proofs.Zip.CodeLimit
import ToolPack.Proofs.Zip.Decode

/-!
# How long archives can be

The fields of an archive are of fixed widths, so an archive can be read back only if it is not too
long, and how long packed data are depends on what the search finds and on the codes.  Neither can
do much harm: a token is never longer than the two longest rows with what follows them, the header
of a block never longer than all rows of the third code, and the search makes few tokens for a byte.

## What is here

* `CodeHeader.length_bits_of_le`, `Block.length_body_le`: the header of a block, and its tokens;
* `Block.length_bits_le`, `length_blockBits_le`: a block, and all of them;
* `size_search_le`: how many tokens there are;
* `length_pack_le`: packed data are only so much longer than the data;
* `fits_of_sum_lt`: so entries keep to the limits of archives if their names and data are short
  enough.
-/

set_option autoImplicit false

namespace ToolPack
namespace Zip

open Bits
open scoped Native

theorem length_flatMap_le {α β : Type} {xs : List α} {f : α → List β} {n : Nat}
    (h : ∀ x ∈ xs, (f x).length ≤ n) : (xs.flatMap f).length ≤ xs.length * n := by
  have hsum := List.sum_le_card_nsmul (xs.map fun x => (f x).length) n (by simpa using h)
  rwa [List.length_map, Nat.nsmul_eq_mul, ← List.length_flatMap] at hsum

/-! ## Items -/

theorem Item.length_bits_le {words : Array Bits} {item : Item} {limit width : Nat}
    (hword : (words.getD item.symbol []).length ≤ limit) (hwidth : item.width ≤ width) :
    (item.bits words).length ≤ limit + width := by
  rw [Item.bits, List.length_append, length_lowFirst]
  exact Nat.add_le_add hword hwidth

theorem width_rangeItem_le {ranges : Array NumberRange} {width : Nat}
    (h : ∀ range ∈ ranges.toList, range.width ≤ width) (n : Nat) :
    (rangeItem ranges n).width ≤ width := by
  show (ranges.getD _ ⟨n, 0⟩).width ≤ width
  rw [Array.getD_eq_getD_getElem?]
  cases hrange : ranges[(ranges.toList.takeWhile fun r => r.first ≤ n).length - 1]? with
  | none => exact Nat.zero_le width
  | some range => exact h range (Array.mem_toList_iff.mpr (Array.mem_of_getElem? hrange))

theorem width_lengthItem_le (length : Nat) : (lengthItem length).width ≤ 5 :=
  width_rangeItem_le (by decide) length

theorem width_distanceItem_le (distance : Nat) : (distanceItem distance).width ≤ 13 :=
  width_rangeItem_le (by decide) distance

/-! ## The header of a block -/

/-- What is written for a part of a run: some copies of one item, or an item that repeats it. -/
def Brief (items : List Item) : Prop := (∀ item ∈ items, item.width ≤ 7) ∧ items.length ≤ 3

theorem brief_replicate {n : Nat} (length : Nat) (h : n ≤ 3) :
    Brief (List.replicate n ⟨length, 0, 0⟩) := by
  refine ⟨fun item hitem => ?_, by rwa [List.length_replicate]⟩
  rw [List.eq_of_mem_replicate hitem]
  exact Nat.zero_le 7

/-- The items of a run: their widths, and how many there are. -/
theorem runItems_le (length fuel : Nat) (fresh : Bool) (run : Nat) :
    (∀ item ∈ runItems length fuel fresh run, item.width ≤ 7)
      ∧ (runItems length fuel fresh run).length ≤ fuel * 3 := by
  induction fuel generalizing fresh run with
  | zero => exact ⟨fun item hitem => absurd hitem List.not_mem_nil, Nat.zero_le _⟩
  | succ fuel ih =>
    have hround : ∀ {front : List Item} {rest : Nat}, Brief front →
        (∀ item ∈ front ++ runItems length fuel false rest, item.width ≤ 7)
          ∧ (front ++ runItems length fuel false rest).length ≤ (fuel + 1) * 3 := by
      rintro front rest ⟨hwidth, hfront⟩
      obtain ⟨hwidths, hrest⟩ := ih false rest
      refine ⟨List.forall_mem_append.mpr ⟨hwidth, hwidths⟩, ?_⟩
      rw [List.length_append]
      omega
    rw [runItems]
    split_ifs
    · exact ⟨fun item hitem => absurd hitem List.not_mem_nil, Nat.zero_le _⟩
    · -- zeros, of which many are written in one item
      refine hround ?_
      dsimp only
      split_ifs with hfew
      · exact brief_replicate length (Nat.le_of_lt hfew)
      · simp [Brief]
      · simp [Brief]
    · -- the first part of other runs, whose length has to be written once
      refine hround ?_
      dsimp only
      split_ifs with hfew
      · exact brief_replicate length (Nat.le_of_lt_succ hfew)
      · simp [Brief]
    · refine hround ?_
      dsimp only
      split_ifs with hfew
      · exact brief_replicate length (Nat.le_of_lt hfew)
      · simp [Brief]

/-- The runs of a row of numbers make up that row. -/
theorem sum_runs (ns : List Nat) : ((runs ns).map (·.2)).sum = ns.length := by
  induction ns with
  | nil => rfl
  | cons n ns ih =>
    rw [runs]
    split
    · rename_i m count rest hruns
      rw [hruns, List.map_cons, List.sum_cons] at ih
      split
      · simp only [List.map_cons, List.sum_cons, List.length_cons]
        omega
      · simp only [List.map_cons, List.sum_cons, List.length_cons]
        omega
    · rename_i hruns
      rw [hruns] at ih
      simp only [List.map_cons, List.map_nil, List.sum_cons, List.sum_nil, List.length_cons, ← ih,
        Nat.add_comm]

theorem length_lengthItems_le (code : PrefixCode) :
    (lengthItems code).length ≤ code.length * 3 := by
  rw [lengthItems, List.length_flatMap, ← sum_runs code, ← List.sum_map_mul_right]
  exact List.sum_le_sum fun r _ => (runItems_le r.1 r.2 true r.2).2

theorem width_le_of_mem_lengthItems {code : PrefixCode} :
    ∀ item ∈ lengthItems code, item.width ≤ 7 := by
  intro item hitem
  obtain ⟨r, -, hitem⟩ := List.mem_flatMap.mp hitem
  exact (runItems_le r.1 r.2 true r.2).1 item hitem

theorem length_written_le (third : PrefixCode) : (written third).length ≤ 19 := by
  rw [written]
  exact Nat.le_trans (List.length_take_le' _ _) (by simp [lengthOrder])

/-- The header of a block takes up to fourteen bits for an item: a row, and what follows it. -/
theorem CodeHeader.length_bits_le {h : CodeHeader} (hlengths : h.lengths.length ≤ 19)
    (hthird : ∀ n ∈ h.third, n ≤ 7) (hitems : ∀ item ∈ h.items, item.width ≤ 7) :
    h.bits.length ≤ 57 + h.items.length * 14 := by
  rw [CodeHeader.bits, List.length_append]
  refine Nat.add_le_add ?_ (length_flatMap_le fun item hitem => ?_)
  · exact Nat.le_trans (length_flatMap_le fun n _ => Nat.le_of_eq (length_lowFirst 3 n))
      (Nat.mul_le_mul_right 3 hlengths)
  · exact Item.length_bits_le (PrefixCode.length_words_getD_le hthird item.symbol)
      (hitems item hitem)

theorem CodeHeader.exists_of_eq (literals distances : PrefixCode) :
    ∃ third : PrefixCode, (∀ n ∈ third, n ≤ 7) ∧ CodeHeader.of literals distances
      = ⟨written third, third, lengthItems literals ++ lengthItems distances⟩ :=
  ⟨_, PrefixCode.le_of_mem_ofCounts 7 _, rfl⟩

theorem CodeHeader.length_bits_of_le (literals distances : PrefixCode) :
    (CodeHeader.of literals distances).bits.length
      ≤ 57 + (literals.length + distances.length) * 42 := by
  obtain ⟨third, hthird, hheader⟩ := CodeHeader.exists_of_eq literals distances
  have hitems : ∀ item ∈ lengthItems literals ++ lengthItems distances, item.width ≤ 7 :=
    List.forall_mem_append.mpr ⟨width_le_of_mem_lengthItems, width_le_of_mem_lengthItems⟩
  have hbits := CodeHeader.length_bits_le (h := ⟨written third, third, _⟩)
    (length_written_le third) hthird hitems
  have hcount := Nat.add_le_add (length_lengthItems_le literals) (length_lengthItems_le distances)
  rw [← List.length_append] at hcount
  rw [hheader]
  dsimp only at hbits
  omega

/-! ## Blocks -/

theorem le_of_mem_fixedLiterals : ∀ n ∈ fixedLiterals, n ≤ 15 := by
  intro n hn
  simp only [fixedLiterals, List.mem_append, List.mem_replicate] at hn
  omega

namespace Block

/-- A block counts every symbol, whether it occurs or not. -/
theorem length_counts (b : Block) :
    b.counts.1.length = literalCount ∧ b.counts.2.length = distanceCount := by
  rw [counts]
  split
  rename_i literals distances hcounted
  have hsizes : (literals, distances).1.size = literalCount
      ∧ (literals, distances).2.size = distanceCount := by
    rw [← hcounted]
    refine List.foldlRecOn (motive := fun work : Array Nat × Array Nat =>
      work.1.size = literalCount ∧ work.2.size = distanceCount) b.tokens _
      ⟨Array.size_replicate, Array.size_replicate⟩ fun work hwork token _ => ?_
    cases token with
    | literal byte => exact ⟨Array.size_modify.trans hwork.1, hwork.2⟩
    | copy length distance =>
      exact ⟨Array.size_modify.trans hwork.1, Array.size_modify.trans hwork.2⟩
  exact ⟨Array.size_modify.trans hsizes.1, hsizes.2⟩

/-- A token takes up to forty-eight bits: two rows, and what follows them. -/
theorem length_body_le (b : Block) (literals distances : PrefixCode)
    (hliterals : ∀ n ∈ literals, n ≤ 15) (hdistances : ∀ n ∈ distances, n ≤ 15) :
    (b.body literals distances).length ≤ b.tokens.length * 48 + 15 := by
  have hword := PrefixCode.length_words_getD_le hliterals
  have hdistanceWord := PrefixCode.length_words_getD_le hdistances
  rw [body, List.length_append]
  refine Nat.add_le_add (length_flatMap_le fun token _ => ?_) (hword endOfBlock)
  cases token with
  | literal byte => exact Nat.le_trans (hword byte.toNat) (by decide)
  | copy length distance =>
    rw [List.length_append]
    exact Nat.add_le_add
      (Item.length_bits_le (hword _) (width_lengthItem_le length) : _ ≤ 15 + 5)
      (Item.length_bits_le (hdistanceWord _) (width_distanceItem_le distance) : _ ≤ 15 + 13)

/-- A block, in whichever way it is written. -/
theorem length_bits_le (b : Block) (last : Bool) (position : Nat) :
    (b.bits last position).length ≤ b.tokens.length * 48 + b.data.length * 8 + 13529 := by
  obtain ⟨hliterals, hdistances⟩ := b.length_counts
  have hliteralCount : literalCount = 286 := rfl
  have hdistanceCount : distanceCount = 30 := rfl
  have hlimit : PrefixCode.maxLength = 15 := rfl
  have hrows := PrefixCode.length_ofCounts_le PrefixCode.maxLength b.counts.1
  have hdistanceRows := PrefixCode.length_ofCounts_le PrefixCode.maxLength b.counts.2
  have hheader := CodeHeader.length_bits_of_le (PrefixCode.ofCounts PrefixCode.maxLength b.counts.1)
    (PrefixCode.ofCounts PrefixCode.maxLength b.counts.2)
  have hown := b.length_body_le _ _ (PrefixCode.le_of_mem_ofCounts PrefixCode.maxLength b.counts.1)
    (PrefixCode.le_of_mem_ofCounts PrefixCode.maxLength b.counts.2)
  have hfixed := b.length_body_le fixedLiterals fixedDistances le_of_mem_fixedLiterals (by decide)
  rw [bits]
  generalize b.counts = counts at *
  obtain ⟨literalCounts, distanceCounts⟩ := counts
  dsimp only at *
  split
  · simp only [List.length_append, List.length_cons, List.length_replicate, length_lowFirst,
      length_ofBytes]
    omega
  · split
    · simp only [List.length_append, List.length_cons, length_lowFirst]
      omega
    · simp only [List.length_append, List.length_cons, length_lowFirst]
      omega

end Block

/-- The blocks of tokens.  The header of a full block costs less than a bit for each of its tokens,
so only that of the last one has to be counted. -/
theorem length_blockBits_le (position fuel : Nat) (tokens : List Token) (data : List UInt8) :
    (blockBits position fuel tokens data).length
      ≤ tokens.length * 49 + data.length * 8 + 13529 := by
  induction fuel generalizing position tokens data with
  | zero => exact Nat.zero_le _
  | succ fuel ih =>
    have hlimit : Block.tokenLimit = 16383 := rfl
    have htokens : (tokens.take Block.tokenLimit).length ≤ tokens.length :=
      List.length_take_le' _ _
    rw [blockBits]
    generalize List.foldl _ 0 (tokens.take Block.tokenLimit) = size
    have hdata : (data.take size).length + (data.drop size).length = data.length := by
      rw [← List.length_append, List.take_append_drop]
    have hblock := Block.length_bits_le ⟨tokens.take Block.tokenLimit, data.take size⟩
      (tokens.drop Block.tokenLimit).isEmpty position
    dsimp only at hblock ⊢
    split_ifs with hrest
    · omega
    · have hfull : tokens.length
          = Block.tokenLimit + (tokens.drop Block.tokenLimit).length := by
        have hmore := List.length_pos_iff.mpr (mt List.isEmpty_iff.mpr hrest)
        rw [List.length_drop] at hmore ⊢
        omega
      have hnext := ih (position + (Block.bits ⟨tokens.take Block.tokenLimit, data.take size⟩
        (tokens.drop Block.tokenLimit).isEmpty position).length)
        (tokens.drop Block.tokenLimit) (data.drop size)
      have hthese : (tokens.take Block.tokenLimit).length = Block.tokenLimit := by
        rw [List.length_take]
        omega
      rw [List.length_append]
      omega

/-! ## The search -/

/-- What is found comes out as three literals at most, or as one copy. -/
theorem Find.size_emit_le (data : ByteArray) (f : Find) (tokens : Array Token) :
    (f.emit data tokens).size ≤ tokens.size + 3 := by
  rw [Find.emit]
  split_ifs with hshort
  · have hpushed : ∀ places : List Nat, (places.foldl
        (fun ts n => ts.push (.literal (byteAt data (f.start + n)))) tokens).size
          = tokens.size + places.length := by
      intro places
      induction places generalizing tokens with
      | nil => rfl
      | cons n places ih =>
        rw [List.foldl_cons, ih, Array.size_push, List.length_cons, Nat.succ_add_eq_add_succ]
    have hcopy : leastCopy = 4 := rfl
    rw [hpushed, List.length_range]
    omega
  · rw [Array.size_push]
    omega

theorem Search.size_step_le (data : ByteArray) (s : Search) :
    (s.step data).tokens.size ≤ s.tokens.size + 3 := by
  have htokens : (if data.size - s.place < lookAhead then { s with found := none } else s).tokens
      = s.tokens := by
    split <;> rfl
  rw [← htokens]
  fun_cases Search.step data s with
  | case1 => exact Find.size_emit_le _ _ _
  | case2 => exact Find.size_emit_le _ _ _

theorem Search.size_toEnd_le (data : ByteArray) (fuel : Nat) (s : Search) :
    (Search.toEnd data fuel s).tokens.size ≤ s.tokens.size + fuel * 3 := by
  induction fuel generalizing s with
  | zero => exact Nat.le_refl _
  | succ fuel ih =>
    have hstep := s.size_step_le data
    have hrest := ih (s.step data)
    rw [Search.toEnd]
    split
    · exact Nat.le_add_right _ _
    · omega

theorem size_search_le (data : ByteArray) : (search data).size ≤ data.size * 6 + 3 := by
  have hsize := Search.size_toEnd_le data (2 * data.size + 1) ⟨.empty data.size, 0, none, #[]⟩
  rw [search]
  simp only [List.size_toArray, List.length_nil] at hsize
  omega

/-! ## Packed data -/

theorem length_toBytes_le (bits : Bits) : (toBytes bits).length * 8 ≤ bits.length + 7 := by
  fun_induction toBytes bits with
  | case1 a b c d e f g h rest ih =>
    simp only [List.length_cons]
    omega
  | case2 => exact Nat.zero_le _
  | case3 rest _ hrest =>
    have hpos : 0 < rest.length := List.length_pos_iff.mpr hrest
    rw [List.length_singleton]
    omega

theorem length_deflate_le (data : ByteArray) : (deflate data).length ≤ data.size * 38 + 1711 := by
  have htokens := size_search_le data
  have hbits := length_blockBits_le 0 ((search data).toList.length + 1) (search data).toList
    data.data.toList
  have hbytes := length_toBytes_le (blockBits 0 ((search data).toList.length + 1)
    (search data).toList data.data.toList)
  have hsize : data.data.toList.length = data.size := rfl
  have hlength : (search data).toList.length = (search data).size := Array.length_toList
  rw [deflate]
  omega

theorem length_plainFrom_le (fuel : Nat) (data : List UInt8) :
    (plainFrom fuel data).length ≤ data.length + fuel * 5 := by
  induction fuel generalizing data with
  | zero => exact Nat.zero_le _
  | succ fuel ih =>
    have hrest := ih (data.drop Block.plainLimit)
    have hdata : (data.take Block.plainLimit).length + (data.drop Block.plainLimit).length
        = data.length := by
      rw [← List.length_append, List.take_append_drop]
    rw [plainFrom_succ]
    split <;> simp only [List.length_cons, List.length_append, length_bytes16, List.length_nil] <;>
      omega

/-- **Packed data are only so much longer than the data**, whatever the search finds and whatever
the codes are. -/
theorem length_pack_le (data : ByteArray) : (pack data).length ≤ data.size * 38 + 1711 := by
  have hplain := length_plainFrom_le (data.size + 1) data.data.toList
  have hsize : data.data.toList.length = data.size := rfl
  rw [pack]
  split
  · exact length_deflate_le data
  · rw [plain]
    omega

/-! ## Archives -/

/-- The room that an entry takes at most, with its header and its line in the directory. -/
def Entry.room (entry : Entry) : Nat :=
  76 + entry.name.toUTF8.size * 2 + (entry.data.size * 38 + 1711)

theorem Member.length_body (m : Member) :
    m.body.length = 30 + m.nameBytes.length + m.packed.length := by
  simp only [Member.body, Member.headerMark, List.length_append, length_bytes16, length_bytes32,
    Member.length_common]

theorem length_members_le (offset : Nat) (entries : List Entry) :
    ((place offset entries).flatMap Member.body).length
        + ((place offset entries).flatMap Member.line).length
      ≤ (entries.map Entry.room).sum := by
  induction entries generalizing offset with
  | nil => exact Nat.zero_le _
  | cons entry entries ih =>
    have hname : (Member.mk entry (pack entry.data) offset).nameBytes.length
        = entry.name.toUTF8.size := rfl
    have hbody : (Member.mk entry (pack entry.data) offset).body.length
        = 30 + entry.name.toUTF8.size + (pack entry.data).length := Member.length_body _
    have hrest := ih (offset + (Member.mk entry (pack entry.data) offset).body.length)
    have hpack := length_pack_le entry.data
    rw [place, List.flatMap_cons, List.flatMap_cons, List.length_append, List.length_append,
      Member.length_line, List.map_cons, List.sum_cons, Entry.room]
    omega

/-- **Entries keep to the limits of archives if their names and data are short enough.** -/
theorem fits_of_sum_lt {entries : List Entry} (hcount : entries.length < 65536)
    (hnames : ∀ entry ∈ entries, entry.name.toUTF8.size < 65536)
    (hsum : (entries.map Entry.room).sum + 22 < 4294967296) : Fits entries := by
  refine ⟨hcount, hnames, ?_⟩
  have hmembers : (bodies entries).length + (directory entries).length
      ≤ (entries.map Entry.room).sum := length_members_le 0 entries
  rw [size_encode]
  omega

end Zip
end ToolPack
