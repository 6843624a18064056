import ToolPack.Proofs.Package.FirstProblem
import ToolPack.Proofs.Path
import ToolPack.Proofs.Storage.Copies

/-!
# Staging copies what it should and nothing else

Binaries are staged by a row of copies from one directory to another.  The copies do not run into
each other: a plain name takes its directory one segment further, so that a target is a source only
if the two directories are on one route, and two targets are one path only if the names are equal.

## What is here

* `copiesBetween`: the row of copies; `Apart`: the targets are neither sources nor each other's;
* `yields_stageBinaries`: how the staging runs when everything is there;
* `Apart.get?_staged`, `Apart.get?_kept`: what it leaves under a path;
* `staging_is_faithful`: what is staged is what was there, nothing else changes, and staging once
  more does nothing.
-/

set_option autoImplicit false

namespace ToolPack
namespace Package

open Storage ToolPack.Action

/-! ## Names in two directories -/

/-- The copies of files from one directory to another. -/
def copiesBetween (source dest : Path) (names : List String) : List (Path × Path) :=
  names.map fun name => (source.join name, dest.join name)

/-- Copies between two directories stay out of each other's way. -/
structure Apart (source dest : Path) (names : List String) : Prop where
  target_ne_source : ∀ name ∈ names, ∀ other ∈ names, dest.join name ≠ source.join other
  eq_of_target : ∀ name ∈ names, ∀ other ∈ names, dest.join name = dest.join other → name = other

/-- Plain names are apart in directories on different routes. -/
theorem apart_of_route_ne {source dest : Path} {names : List String}
    (hnames : ∀ name ∈ names, PlainName name) (hdirs : dest.route ≠ source.route) :
    Apart source dest names := by
  refine ⟨fun name hname other hother hjoin => hdirs ?_, fun name hname other hother hjoin => ?_⟩
  · exact (Path.eq_of_join_eq_join (hnames name hname).fileName (hnames other hother).fileName
      hjoin).1
  · exact (Path.eq_of_join_eq_join (hnames name hname).fileName (hnames other hother).fileName
      hjoin).2

variable {source dest : Path} {names : List String}

theorem Apart.of_cons {name : String} (h : Apart source dest (name :: names)) :
    Apart source dest names :=
  ⟨fun a ha b hb => h.target_ne_source a (List.mem_cons_of_mem _ ha) b (List.mem_cons_of_mem _ hb),
    fun a ha b hb => h.eq_of_target a (List.mem_cons_of_mem _ ha) b (List.mem_cons_of_mem _ hb)⟩

theorem Apart.sourcesKept (h : Apart source dest names) :
    SourcesKept (copiesBetween source dest names) := by
  refine sourcesKept_of_pairwise (List.pairwise_of_forall_mem_list ?_)
  rintro a ha b hb htarget
  obtain ⟨name, hname, rfl⟩ := List.mem_map.mp ha
  obtain ⟨other, hother, rfl⟩ := List.mem_map.mp hb
  exact absurd htarget (h.target_ne_source name hname other hother)

theorem Apart.targetsAgree (h : Apart source dest names) :
    TargetsAgree (copiesBetween source dest names) := by
  rintro a ha b hb htarget
  obtain ⟨name, hname, rfl⟩ := List.mem_map.mp ha
  obtain ⟨other, hother, rfl⟩ := List.mem_map.mp hb
  rw [h.eq_of_target name hname other hother htarget]

/-! ## How the staging runs -/

variable {files : Memory} {held : String → ByteArray}

/-- The files of a directory, with what they hold. -/
def Holds (files : Memory) (dir : Path) (names : List String) (held : String → ByteArray) : Prop :=
  ∀ name ∈ names, files.get? (dir.join name) = some (held name)

/-- The file that is found under a name. -/
def foundFile (source : Path) (held : String → ByteArray) (name : String) : Artifact :=
  ⟨name, source.join name, (held name).size⟩

/-- The file that is copied under a name. -/
def copiedFile (dest : Path) (held : String → ByteArray) (name : String) : StagedFile :=
  ⟨name, dest.join name, (held name).size⟩

theorem Holds.found (h : Holds files source names held) :
    List.Forall₂ (Located files source) names (names.map (foundFile source held)) := by
  rw [List.forall₂_map_right_iff, List.forall₂_same]
  exact fun name hname => ⟨held name, h name hname, rfl⟩

/-- Copies that are apart are made one after the other, and each finds its source as it was. -/
theorem yields_copyEach (hapart : Apart source dest names) (hheld : Holds files source names held) :
    Yields Memory.handler (copyEach dest (names.map (foundFile source held))) files
      (.ok (names.map (copiedFile dest held))) (copyCalls (copiesBetween source dest names))
      (after Memory.handler (copyCalls (copiesBetween source dest names)) files) := by
  induction names generalizing files with
  | nil => exact yields_done _ _ _
  | cons name names ih =>
    have hanswer : Memory.handler (.copy (source.join name) (dest.join name)) files
        = (.ok (held name).size, files.set (dest.join name) (held name)) :=
      Memory.handler_copy_ok (hheld name List.mem_cons_self)
    -- What has just been put in place is no source, so the sources to come are as they were.
    have hlater : Holds (files.set (dest.join name) (held name)) source names held := by
      intro other hother
      have hne := hapart.target_ne_source name List.mem_cons_self other
        (List.mem_cons_of_mem _ hother)
      rw [Memory.get?_set_of_ne _ hne.symm]
      exact hheld other (List.mem_cons_of_mem _ hother)
    have hfirst : Yields Memory.handler (copyArtifact dest (foundFile source held name)) files
        (.ok (copiedFile dest held name)) [.copy (source.join name) (dest.join name)]
        (files.set (dest.join name) (held name)) :=
      yields_call_bind hanswer (yields_report_bind (yields_done _ _ _))
    have hstate : after Memory.handler (copyCalls (copiesBetween source dest (name :: names))) files
        = after Memory.handler (copyCalls (copiesBetween source dest names))
          (files.set (dest.join name) (held name)) := by
      rw [copiesBetween, List.map_cons, after_copyCalls_cons, hanswer]
      rfl
    rw [hstate]
    exact hfirst.bind ((ih hapart.of_cons hlater).map (copiedFile dest held name :: ·))

/-- When all files are there, they are looked for and then copied. -/
theorem yields_stageBinaries (hapart : Apart source dest names)
    (hheld : Holds files source names held) :
    Yields Memory.handler (stageBinaries names source dest) files
      (.ok (names.map (copiedFile dest held)))
      (lookups source names ++ .makeDirs dest :: copyCalls (copiesBetween source dest names))
      (after Memory.handler (copyCalls (copiesBetween source dest names)) files) := by
  have hdirs : Memory.handler (.makeDirs dest) files = (.ok (), files) := rfl
  exact (yields_verifyArtifacts _ hheld.found).bind
    (yields_call_bind hdirs (yields_copyEach hapart hheld))

/-! ## What the staging leaves -/

theorem Holds.sources_present (h : Holds files source names held) :
    ∀ c ∈ copiesBetween source dest names, (files.get? c.1).isSome := by
  intro c hc
  obtain ⟨name, hname, rfl⟩ := List.mem_map.mp hc
  rw [h name hname]
  rfl

/-- Every target holds what its source held. -/
theorem Apart.get?_staged (hapart : Apart source dest names)
    (hheld : Holds files source names held) {name : String} (hname : name ∈ names) :
    (after Memory.handler (copyCalls (copiesBetween source dest names)) files).get?
      (dest.join name) = some (held name) := by
  have hcopy : (source.join name, dest.join name) ∈ copiesBetween source dest names :=
    List.mem_map_of_mem hname
  rw [Memory.get?_after_copyCalls hheld.sources_present,
    origin_target hapart.sourcesKept hapart.targetsAgree _ hcopy]
  exact hheld name hname

/-- A path that is no target keeps what it held. -/
theorem get?_kept (hheld : Holds files source names held) {path : Path}
    (hpath : ∀ name ∈ names, path ≠ dest.join name) :
    (after Memory.handler (copyCalls (copiesBetween source dest names)) files).get? path
      = files.get? path := by
  rw [Memory.get?_after_copyCalls hheld.sources_present, origin_of_spared]
  intro c hc htarget
  obtain ⟨name, hname, rfl⟩ := List.mem_map.mp hc
  exact absurd htarget.symm (hpath name hname)

/-- Sources are no targets. -/
theorem Apart.get?_source (hapart : Apart source dest names)
    (hheld : Holds files source names held) {name : String} (hname : name ∈ names) :
    (after Memory.handler (copyCalls (copiesBetween source dest names)) files).get?
      (source.join name) = files.get? (source.join name) :=
  get?_kept hheld fun other hother =>
    (hapart.target_ne_source other hother name hname).symm

/-- **Staging is faithful, touches its targets only, and is done once and for all.**  Binaries with
names that pass their check, all of them there, are staged from one directory to another on a
different route: what is reported are the names in their order, each with its place in the second
directory and the length of its source; each place holds what the source held at the start; every
other path keeps what it held, so do all sources in particular; and staging once more reports the
same and leaves the storage as it is. -/
theorem staging_is_faithful {field : String} {names : List String} {source dest : Path}
    {files : Memory} {held : String → ByteArray} (hnames : Check.plainNames field names = .ok ())
    (hdirs : dest.route ≠ source.route)
    (hheld : ∀ name ∈ names, files.get? (source.join name) = some (held name)) :
    let ran := (stageBinaries names source dest).run Memory.handler files
    let again := (stageBinaries names source dest).run Memory.handler ran.state
    ran.result = .ok (names.map fun name => ⟨name, dest.join name, (held name).size⟩)
      ∧ (∀ name ∈ names, ran.state.get? (dest.join name) = some (held name))
      ∧ (∀ path, (∀ name ∈ names, path ≠ dest.join name) →
          ran.state.get? path = files.get? path)
      ∧ (∀ name ∈ names, ran.state.get? (source.join name) = files.get? (source.join name))
      ∧ ran.state.executable = files.executable
      ∧ again.result = ran.result ∧ again.state = ran.state := by
  intro ran again
  have hapart := apart_of_route_ne (Check.plainNames_eq_ok_iff.mp hnames).1 hdirs
  have hran := yields_stageBinaries hapart hheld
  have hstate : ran.state = _ := hran.state
  have hstaged : ∀ name ∈ names, ran.state.get? (dest.join name) = some (held name) := by
    rw [hstate]
    exact fun name => hapart.get?_staged hheld
  have hsource : ∀ name ∈ names,
      ran.state.get? (source.join name) = files.get? (source.join name) := by
    rw [hstate]
    exact fun name => hapart.get?_source hheld
  have hheld' : Holds ran.state source names held := fun name hname =>
    (hsource name hname).trans (hheld name hname)
  have hagain := yields_stageBinaries hapart hheld'
  have hmade : ∀ c ∈ copiesBetween source dest names,
      ran.state.get? c.2 = ran.state.get? c.1 := by
    intro c hc
    obtain ⟨name, hname, rfl⟩ := List.mem_map.mp hc
    rw [hstaged name hname, hheld' name hname]
  refine ⟨hran.result, hstaged, fun path hpath => ?_, hsource, ?_, ?_, ?_⟩
  · rw [hstate]
    exact get?_kept hheld hpath
  · rw [hstate]
    exact Memory.executable_after_copyCalls _ files
  · exact hagain.result.trans hran.result.symm
  · exact hagain.state.trans (Memory.after_copyCalls_of_made hmade)

/-- Two binaries, one of which has been staged before from something else. -/
theorem two_binaries_are_staged :
    let files : Memory := ⟨[(⟨"bin/a"⟩, "A".toUTF8), (⟨"bin/b"⟩, "BB".toUTF8),
      (⟨"./lib/a"⟩, "old".toUTF8)], []⟩
    let staging := stageBinaries ["a", "b"] ⟨"bin"⟩ ⟨"./lib/"⟩
    let ran := staging.run Memory.handler files
    Check.plainNames "build.binaries" ["a", "b"] = .ok ()
      ∧ ran.result = .ok [⟨"a", ⟨"./lib/a"⟩, 1⟩, ⟨"b", ⟨"./lib/b"⟩, 2⟩]
      ∧ ran.state.get? ⟨"./lib/a"⟩ = some "A".toUTF8
      ∧ ran.state.get? ⟨"bin/a"⟩ = some "A".toUTF8
      ∧ (staging.run Memory.handler ran.state).state = ran.state := by
  intro files staging ran
  have hnames : Check.plainNames "build.binaries" ["a", "b"] = .ok () := rfl
  have hdirs : (⟨"./lib/"⟩ : Path).route ≠ (⟨"bin"⟩ : Path).route := by decide
  let held : String → ByteArray := fun name => if name = "a" then "A".toUTF8 else "BB".toUTF8
  have hheld : ∀ name ∈ ["a", "b"], files.get? ((⟨"bin"⟩ : Path).join name) = some (held name) := by
    decide +kernel
  obtain ⟨hresult, hstaged, -, hsources, -, -, hagain⟩ := staging_is_faithful hnames hdirs hheld
  exact ⟨hnames, hresult, hstaged "a" (by decide), hsources "a" (by decide), hagain⟩

end Package
end ToolPack
