import Mathlib.Data.List.Basic
import ToolPack.Proofs.Package.Sequence

/-!
# A storage that tells files apart

Whether a plan can go wrong on some storage shows on a single one, if that storage tells apart
what a run can confuse: its files have different sizes, and their first byte is that of nothing
that a run writes of its own.

## What is here

* `filler`: texts of a length, as bytes;
* `sample`: the inputs of a plan, each with a filler of its own length; a run gets through on it
  (`sound_sample`);
* `eq_of_size`, `not_description`: what it tells apart.
-/

set_option autoImplicit false

namespace ToolPack
namespace Package

open Storage

/-! ## First bytes -/

/-- A text that starts with a character of one byte starts with that byte. -/
theorem head?_toUTF8 {s : String} {c : Char} {cs : List Char} {byte : UInt8}
    (h : s.toList = c :: cs) (hc : [c].utf8Encode = ⟨#[byte]⟩) :
    s.toUTF8.data.toList.head? = some byte := by
  have hs : s.toUTF8 = (c :: cs).utf8Encode := by
    rw [← h, ← String.toByteArray_ofList, String.ofList_toList]
    rfl
  rw [hs, List.utf8Encode_cons, hc, ByteArray.data_append, Array.toList_append]
  rfl

theorem head?_headers (m : ToolPack.Metadata) (text : String) :
    (PkgInfo.render m text).toUTF8.data.toList.head? = some 77 := by
  have h : ∃ cs, (PkgInfo.render m text).toList = 'M' :: cs := by
    rw [PkgInfo.render, PkgInfo.headers]
    exact ⟨_, by simp [PkgInfo.header, Text.joinLines]; rfl⟩
  obtain ⟨cs, hcs⟩ := h
  exact head?_toUTF8 hcs (by decide +kernel)

theorem head?_scriptList (names : List String) :
    (scriptList names).toUTF8.data.toList.head? = some 91 := by
  have h : ∃ cs, (scriptList names).toList = '[' :: cs := by
    rw [scriptList, Json.pretty, Json.texts, String.toList_ofList]
    cases names with
    | nil => exact ⟨[']'], by rw [List.map_nil, Json.prettyAt]⟩
    | cons name names => exact ⟨_, by rw [List.map_cons, Json.prettyAt]; rfl⟩
  obtain ⟨cs, hcs⟩ := h
  exact head?_toUTF8 hcs (by decide +kernel)

/-! ## Fillers -/

/-- The text of `n` times the letter x. -/
def filler (n : Nat) : ByteArray := ⟨Array.replicate n 120⟩

theorem size_filler (n : Nat) : (filler n).size = n := Array.size_replicate

theorem utf8Encode_replicate (n : Nat) : (List.replicate n 'x').utf8Encode = filler n := by
  induction n with
  | zero => rfl
  | succ n ih =>
    have hletter : ['x'].utf8Encode = ⟨#[120]⟩ := by decide +kernel
    rw [List.replicate_succ, List.utf8Encode_cons, ih, hletter]
    refine ByteArray.ext (Array.toList_inj.mp ?_)
    rw [ByteArray.data_append, filler, filler, Array.toList_append, Array.toList_replicate,
      Array.toList_replicate, List.replicate_succ]
    rfl

theorem fromUTF8?_filler (n : Nat) : String.fromUTF8? (filler n) ≠ none := by
  have hvalid : (filler n).IsValidUTF8 := ⟨List.replicate n 'x', (utf8Encode_replicate n).symm⟩
  rw [String.fromUTF8?, dif_pos hvalid]
  exact Option.some_ne_none _

theorem head?_filler (n : Nat) : (filler (n + 1)).data.toList.head? = some 120 := by
  rw [filler, Array.toList_replicate, List.replicate_succ]
  rfl

/-- Nothing that describes a package is a filler. -/
theorem Description.ne_filler {r : Resolved} {data : ByteArray} (h : Description r data)
    (n : Nat) : data ≠ filler (n + 1) := by
  rintro rfl
  have hfiller := head?_filler n
  generalize filler (n + 1) = data at h hfiller
  cases h with
  | headers text =>
    rw [head?_headers] at hfiller
    exact absurd hfiller (by decide)
  | list =>
    rw [head?_scriptList] at hfiller
    exact absurd hfiller (by decide)
  | archive entries =>
    rw [Zip.head?_encode] at hfiller
    exact absurd hfiller (by decide)

/-! ## The sample -/

/-- The inputs of a plan, each one with a filler that is longer than those before it. -/
def sample (plan : Plan) : Memory :=
  ⟨plan.inputs.map fun path => (path, filler (plan.inputs.idxOf path + 1)), []⟩

/-- Of files that a function gives, each one is found. -/
theorem lookup_map_pair (paths : List Path) (data : Path → ByteArray) (path : Path) :
    (paths.map fun path => (path, data path)).lookup path
      = if path ∈ paths then some (data path) else none := by
  induction paths with
  | nil => rfl
  | cons first paths ih =>
    rw [List.map_cons, List.lookup_cons, ih]
    by_cases h : path = first
    · simp [h]
    · simp [beq_eq_false_iff_ne.mpr h, h]

theorem get?_sample_eq_some_iff {plan : Plan} {path : Path} {data : ByteArray} :
    (sample plan).get? path = some data
      ↔ path ∈ plan.inputs ∧ data = filler (plan.inputs.idxOf path + 1) := by
  rw [Memory.get?, sample, lookup_map_pair]
  split
  · rename_i h
    rw [Option.some.injEq, eq_comm]
    exact (and_iff_right h).symm
  · rename_i h
    exact iff_of_false (fun hnone => nomatch hnone) fun hpath => h hpath.1

theorem get?_sample {plan : Plan} {path : Path} (h : path ∈ plan.inputs) :
    (sample plan).get? path = some (filler (plan.inputs.idxOf path + 1)) :=
  get?_sample_eq_some_iff.mpr ⟨h, rfl⟩

theorem sound_sample (plan : Plan) : Sound plan (sample plan) := by
  refine ⟨fun path hpath => ?_, fun bytes hbytes => ?_⟩
  · rw [get?_sample hpath]
    rfl
  · rw [(get?_sample_eq_some_iff.mp hbytes).2]
    exact fromUTF8?_filler _

/-- Files of one size are one file. -/
theorem eq_of_size {plan : Plan} {path other : Path} {data data' : ByteArray}
    (h : (sample plan).get? path = some data) (h' : (sample plan).get? other = some data')
    (hsize : data.size = data'.size) : path = other := by
  obtain ⟨hpath, rfl⟩ := get?_sample_eq_some_iff.mp h
  obtain ⟨hother, rfl⟩ := get?_sample_eq_some_iff.mp h'
  rw [size_filler, size_filler] at hsize
  exact (List.idxOf_inj hpath).mp (Nat.succ.inj hsize)

/-- No file is what a run writes of its own. -/
theorem not_description {r : Resolved} {path : Path} {data : ByteArray}
    (h : (sample r.plan).get? path = some data) : ¬ Description r data := by
  intro hdata
  exact hdata.ne_filler _ (get?_sample_eq_some_iff.mp h).2

/-! ## A small package -/

/-- How a small package is described. -/
def kitMetadata : ToolPack.Metadata where
  name := "kit"
  version := "1.0"
  author := "A"
  authorEmail := "a@b.c"
  url := "https://x.y"
  description := "D"
  readme := Metadata.defaultReadme
  contentType := Metadata.defaultContentType
  pythonRequires := ">=3.6"
  extras := .empty

/-- A package with one binary and one script of the same name. -/
def kit (build : BuildSection) (scripts : ScriptSection) : Manifest :=
  ⟨kitMetadata, { build with binaries := ["tool"] }, scripts, none, ⟨""⟩⟩

/-- The files of the small package: the binary, the script and the long description. -/
def kitFiles : Memory :=
  ⟨[(⟨"./build/bin/tool"⟩, "ELF".toUTF8), (⟨"./scripts/tool"⟩, "#!/bin/sh\n".toUTF8),
    (⟨"./README.md"⟩, "Hi".toUTF8)], []⟩

end Package
end ToolPack
