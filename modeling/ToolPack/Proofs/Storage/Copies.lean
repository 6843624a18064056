import Mathlib.Data.List.Induction
import ToolPack.Proofs.Storage.Contents

/-!
# Rows of copies

Copies that are made one after the other may run into each other: what one puts in place another
one may take up, and a third one may replace.  Read backwards, every path of the end goes back to
one path of the start, its origin, and that is all there is to say about a row of copies.

## What is here

* `origin`: the path of the start whose bytes stand under a path at the end
  (`Memory.get?_after_eq_origin`);
* `copyCalls`: the calls of such a row; made once more they change nothing
  (`Memory.after_copyCalls_of_made`);
* `origin_of_spared`: a path that no copy puts something else in the place of is its own origin;
* `origin_target`, `pairwise_of_origin`: when every copy of a row finds its source untouched, and
  when every target keeps what it was given.
-/

set_option autoImplicit false

namespace ToolPack
namespace Storage

open ToolPack.Action

/-- The source and the target of a copy. -/
def Call.copied? : Call → Option (Path × Path)
  | .copy source target => some (source, target)
  | .size _ | .read _ | .write .. | .makeDirs _ | .markExecutable _ => none

theorem Call.copied?_eq_some_iff {c : Call} {pair : Path × Path} :
    c.copied? = some pair ↔ c = .copy pair.1 pair.2 := by
  obtain ⟨source, target⟩ := pair
  cases c <;> simp [copied?]

/-- Where the bytes under a path come from, once copies have been made in this order. -/
def origin : List (Path × Path) → Path → Path
  | [], path => path
  | c :: copies, path => if origin copies path = c.2 then c.1 else origin copies path

theorem origin_append (first second : List (Path × Path)) (path : Path) :
    origin (first ++ second) path = origin first (origin second path) := by
  induction first with
  | nil => rfl
  | cons c first ih => rw [List.cons_append, origin, origin, ih]

theorem origin_concat (copies : List (Path × Path)) (c : Path × Path) (path : Path) :
    origin (copies ++ [c]) path = if path = c.2 then origin copies c.1 else origin copies path := by
  rw [origin_append]
  show origin copies (if path = c.2 then c.1 else path) = _
  split <;> rfl

/-- What copies put in place is what was under the origin, if their sources are there and nothing
else is written. -/
theorem Memory.get?_after_eq_origin {calls : List Call} {m : Memory}
    (hwrites : ∀ c ∈ calls, c.copied? = none → c.written? = none)
    (hsources : ∀ c ∈ calls.filterMap Call.copied?, (m.get? c.1).isSome) (path : Path) :
    (after handler calls m).get? path
      = m.get? (origin (calls.filterMap Call.copied?) path) := by
  induction calls generalizing m with
  | nil => rfl
  | cons c calls ih =>
    have hlater : ∀ d ∈ calls, d.copied? = none → d.written? = none :=
      fun d hd => hwrites d (List.mem_cons_of_mem c hd)
    cases hc : c.copied? with
    | none =>
      rw [List.filterMap_cons_none hc] at hsources ⊢
      have hwritten : ∀ path, c.written? ≠ some path := by
        rw [hwrites c List.mem_cons_self hc]
        exact fun path h => nomatch h
      rw [after_cons, ih hlater fun d hd => isSome_get?_handler (hsources d hd) c]
      exact get?_handler_of_ne (hwritten _) m
    | some pair =>
      rw [List.filterMap_cons_some hc] at hsources ⊢
      obtain ⟨hsource, hsources⟩ := List.forall_mem_cons.mp hsources
      obtain ⟨data, hdata⟩ := Option.isSome_iff_exists.mp hsource
      rw [after_cons, ih hlater fun d hd => isSome_get?_handler (hsources d hd) c,
        Call.copied?_eq_some_iff.mp hc, handler_copy_ok hdata, get?_set, origin]
      split
      · exact hdata.symm
      · rfl

/-! ## Rows of calls that only copy -/

/-- The calls that make copies. -/
def copyCalls (copies : List (Path × Path)) : List Call := copies.map fun c => .copy c.1 c.2

theorem filterMap_copied?_copyCalls (copies : List (Path × Path)) :
    (copyCalls copies).filterMap Call.copied? = copies := by
  rw [copyCalls, List.filterMap_map]
  exact List.filterMap_some

theorem after_copyCalls_cons {σ : Type} (handler : Handler σ) (c : Path × Path)
    (copies : List (Path × Path)) (state : σ) :
    after handler (copyCalls (c :: copies)) state
      = after handler (copyCalls copies) (handler (.copy c.1 c.2) state).2 := rfl

namespace Memory

theorem get?_after_copyCalls {copies : List (Path × Path)} {m : Memory}
    (hsources : ∀ c ∈ copies, (m.get? c.1).isSome) (path : Path) :
    (after handler (copyCalls copies) m).get? path = m.get? (origin copies path) := by
  have hcopied : ∀ c ∈ copyCalls copies, c.copied? = none → c.written? = none := by
    intro c hc hnone
    obtain ⟨pair, -, rfl⟩ := List.mem_map.mp hc
    cases hnone
  rw [get?_after_eq_origin hcopied, filterMap_copied?_copyCalls]
  rwa [filterMap_copied?_copyCalls]

/-- Copies make nothing executable. -/
theorem executable_after_copyCalls (copies : List (Path × Path)) (m : Memory) :
    (after handler (copyCalls copies) m).executable = m.executable := by
  induction copies generalizing m with
  | nil => rfl
  | cons c copies ih =>
    rw [after_copyCalls_cons, ih]
    cases hdata : m.get? c.1 with
    | none => rw [handler_copy_error hdata]
    | some data =>
      rw [handler_copy_ok hdata]
      rfl

/-- Putting bytes where they are already changes nothing. -/
theorem put_of_lookup {files : List (Path × ByteArray)} {path : Path} {data : ByteArray}
    (h : files.lookup path = some data) : put path data files = files := by
  induction files with
  | nil => cases h
  | cons file files ih =>
    obtain ⟨other, bytes⟩ := file
    rw [List.lookup_cons] at h
    by_cases hpath : other = path
    · subst hpath
      rw [beq_self_eq_true] at h
      rw [put, if_pos rfl, Option.some.inj h]
    · rw [beq_eq_false_iff_ne.mpr (Ne.symm hpath)] at h
      rw [put, if_neg hpath, ih h]

/-- Copies whose targets hold already what their sources hold change nothing. -/
theorem after_copyCalls_of_made {copies : List (Path × Path)} {m : Memory}
    (h : ∀ c ∈ copies, m.get? c.2 = m.get? c.1) : after handler (copyCalls copies) m = m := by
  induction copies with
  | nil => rfl
  | cons c copies ih =>
    obtain ⟨hc, hcopies⟩ := List.forall_mem_cons.mp h
    have hstate : (handler (.copy c.1 c.2) m).2 = m := by
      cases hdata : m.get? c.1 with
      | none => rw [handler_copy_error hdata]
      | some data =>
        rw [handler_copy_ok hdata, set, put_of_lookup (hc.trans hdata)]
    rw [after_copyCalls_cons, hstate, ih hcopies]

end Memory

/-! ## Copies that do not run into each other -/

/-- No copy puts something else in the place of a path. -/
def Spared (copies : List (Path × Path)) (path : Path) : Prop :=
  ∀ c ∈ copies, c.2 = path → c.1 = path

theorem origin_of_spared {copies : List (Path × Path)} {path : Path} (h : Spared copies path) :
    origin copies path = path := by
  induction copies with
  | nil => rfl
  | cons c copies ih =>
    obtain ⟨hc, hcopies⟩ := List.forall_mem_cons.mp h
    rw [origin, ih hcopies]
    split
    · rename_i htarget
      exact hc htarget.symm
    · rfl

/-- Every copy of a row finds its source as it was at the start. -/
def SourcesKept (copies : List (Path × Path)) : Prop :=
  ∀ front c rest, copies = front ++ c :: rest → origin front c.1 = c.1

/-- Copies with one target have one source. -/
def TargetsAgree (copies : List (Path × Path)) : Prop :=
  ∀ a ∈ copies, ∀ b ∈ copies, a.2 = b.2 → a.1 = b.1

theorem SourcesKept.of_append {first second : List (Path × Path)}
    (h : SourcesKept (first ++ second)) : SourcesKept first := by
  intro front c rest hsplit
  refine h front c (rest ++ second) ?_
  rw [hsplit, List.append_assoc, List.cons_append]

theorem TargetsAgree.of_append {first second : List (Path × Path)}
    (h : TargetsAgree (first ++ second)) : TargetsAgree first :=
  fun a ha b hb => h a (List.mem_append_left _ ha) b (List.mem_append_left _ hb)

/-- Then every target holds at the end what its source held at the start. -/
theorem origin_target {copies : List (Path × Path)} (hsources : SourcesKept copies)
    (htargets : TargetsAgree copies) : ∀ c ∈ copies, origin copies c.2 = c.1 := by
  induction copies using List.reverseRecOn with
  | nil => exact fun c hc => absurd hc List.not_mem_nil
  | append_singleton copies d ih =>
    intro c hc
    rw [origin_concat]
    by_cases htarget : c.2 = d.2
    · rw [if_pos htarget, hsources copies d [] rfl]
      exact htargets d (by simp) c hc htarget.symm
    · rw [if_neg htarget]
      rcases List.mem_append.mp hc with hc | hc
      · exact ih hsources.of_append htargets.of_append c hc
      · exact absurd (congrArg Prod.snd (List.mem_singleton.mp hc)) htarget

/-- A row whose sources are kept has no copy that replaces the source of a later one. -/
theorem pairwise_of_origin {copies : List (Path × Path)} (hsources : SourcesKept copies)
    (htargets : TargetsAgree copies) :
    copies.Pairwise fun a b => a.2 = b.1 → a.1 = b.1 := by
  induction copies using List.reverseRecOn with
  | nil => exact .nil
  | append_singleton copies d ih =>
    have hkept := hsources.of_append
    have hagree := htargets.of_append
    refine List.pairwise_append.mpr ⟨ih hkept hagree, List.pairwise_singleton _ _,
      fun a ha b hb htarget => ?_⟩
    obtain rfl := List.mem_singleton.mp hb
    calc a.1 = origin copies a.2 := (origin_target hkept hagree a ha).symm
      _ = origin copies b.1 := by rw [htarget]
      _ = b.1 := hsources copies b [] rfl

theorem sourcesKept_of_pairwise {copies : List (Path × Path)}
    (h : copies.Pairwise fun a b => a.2 = b.1 → a.1 = b.1) : SourcesKept copies := by
  intro front c rest hsplit
  rw [hsplit, List.pairwise_append] at h
  exact origin_of_spared fun a ha => h.2.2 a ha c List.mem_cons_self

end Storage
end ToolPack
