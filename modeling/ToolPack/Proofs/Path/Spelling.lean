import Mathlib.Logic.Relation
import ToolPack.Proofs.Path

/-!
# Spellings of one path

Where nothing is known of the places that two paths lead to, the paths themselves decide whether
they name one directory.  They are read component by component, and what is read is the route: the
root, if the path starts there, and the segments that name something.  So slashes that are repeated
or stand at the end do not count, nor do dots that are a segment; and nothing else is overlooked,
since every spelling is taken to every other one on the same route by such changes alone.

A slash or a dot counts where it makes a path absolute or relative: a slash behind the empty path is
the root, and behind a dot an absolute path is a relative one.  And a change that does not count for
the spelling can count for the system, which finds the place of one spelling and not that of the
other: then it is the places that decide, where both are found.

## What is here

* `readComponents_eq`: what is read are the components; `bareComponents_eq_iff`: without the dot at
  the start they are the route;
* `Respelled`: two spellings that differ in one thing that does not count, which takes a path that
  is not empty for a slash at its end, and one that is relative for a dot in front; `SpelledAlike`:
  two that differ in as many as one likes;
* `spelledAlike_iff`: paths are spelled alike exactly if they are on one route;
* `spelling_decides`: what is refused where one of two directories leads nowhere;
* `spelling_counts`: slashes and dots that do count.
-/

set_option autoImplicit false

namespace ToolPack
namespace Path

open Text

/-! ## What is read -/

/-- Of pieces between slashes, those that stand for something are the segments. -/
theorem filterMap_ofSegment? (cuts : List (List Char)) :
    cuts.filterMap Component.ofSegment?
      = ((cuts.map String.ofList).filter fun s => s != "" && s != ".").map
          Component.ofSegment := by
  induction cuts with
  | nil => rfl
  | cons segment cuts ih =>
    have hname : ∀ text : String, String.ofList segment = text ↔ segment = text.toList := by
      intro text
      rw [← String.toList_inj, String.toList_ofList]
    by_cases hnothing : segment = [] ∨ segment = ['.']
    · rcases hnothing with rfl | rfl <;> simpa [Component.ofSegment?] using ih
    · obtain ⟨hempty, hhere⟩ := not_or.mp hnothing
      by_cases hup : segment = ['.', '.']
      · subst hup
        simpa [Component.ofSegment?, Component.ofSegment] using ih
      · simp [Component.ofSegment?, Component.ofSegment, hempty, hhere, hup, hname, ih]

/-- The segment at hand and what comes behind it are read piece by piece. -/
theorem readBody_eq {segment : List Char} (h : '/' ∉ segment) (cs : List Char) :
    readBody segment cs = (splitOn '/' (segment ++ cs)).filterMap Component.ofSegment? := by
  induction cs generalizing segment with
  | nil =>
    rw [List.append_nil, splitOn_of_not_mem h, readBody]
    cases hsegment : Component.ofSegment? segment <;> simp [hsegment]
  | cons c cs ih =>
    by_cases hc : c = '/'
    · subst hc
      rw [readBody, if_pos rfl, ih List.not_mem_nil, splitOn_append_cons, splitOn_of_not_mem h]
      cases hsegment : Component.ofSegment? segment <;> simp [hsegment]
    · rw [readBody, if_neg hc, ih (by simp [h, Ne.symm hc]), List.append_assoc]
      rfl

/-- Behind the start of a path, its segments are read. -/
theorem readBody_toList (text : String) :
    readBody [] text.toList = (segments ⟨text⟩).map Component.ofSegment := by
  rw [readBody_eq List.not_mem_nil, List.nil_append, filterMap_ofSegment?]
  rfl

/-- A dot that the path starts with stands for nothing behind its start. -/
theorem readBody_tail {cs : List Char} (h : startsHere cs = true) :
    readBody [] cs.tail = readBody [] cs := by
  unfold startsHere at h
  split at h
  · rename_i rest
    cases rest with
    | nil => rfl
    | cons c rest =>
      obtain rfl : c = '/' := by simpa using h
      rfl
  · cases h

/-- The first piece goes up to the first separator. -/
theorem head?_splitOn (sep : Char) (cs : List Char) :
    (splitOn sep cs).head? = some (cs.takeWhile (· != sep)) := by
  induction cs with
  | nil => rfl
  | cons c cs ih =>
    by_cases hc : c = sep
    · simp [splitOn, hc]
    · obtain ⟨cuts, hcuts⟩ := List.head?_eq_some_iff.mp ih
      simp [splitOn, hc, hcuts, glue]

/-- A path starts with a dot that is written out exactly if that is its first piece. -/
theorem startsHere_iff (text : String) :
    startsHere text.toList = true ↔ (pieces '/' text).head? = some "." := by
  have hfirst : (pieces '/' text).head? = some "."
      ↔ text.toList.takeWhile (· != '/') = ['.'] := by
    rw [pieces, List.head?_map, head?_splitOn, Option.map_some, Option.some.injEq,
      ← String.toList_inj, String.toList_ofList]
    rfl
  rw [hfirst]
  cases text.toList with
  | nil => simp [startsHere]
  | cons c rest =>
    by_cases hdot : c = '.'
    · subst hdot
      cases rest <;> simp [startsHere, List.takeWhile_cons]
    · by_cases hslash : c = '/' <;> simp [startsHere, hdot, hslash]

/-- What is read are the components of the path. -/
theorem readComponents_eq (path : Path) : path.readComponents = path.components := by
  rw [components, start, readComponents]
  split
  · rename_i cs hcs
    have hroot : path.isAbsolute = true := by simp [isAbsolute, isRooted, hcs]
    have hbody := readBody_toList path.text
    rw [hcs] at hbody
    rw [if_pos hroot, ← hbody]
    rfl
  · rename_i hrelative
    have hroot : ¬ path.isAbsolute = true := by
      intro habsolute
      obtain ⟨cs, hcs⟩ := List.head?_eq_some_iff.mp (beq_iff_eq.mp habsolute)
      exact hrelative cs hcs
    rw [if_neg hroot, ← readBody_toList]
    by_cases hhere : startsHere path.text.toList = true
    · rw [if_pos hhere, if_pos ((startsHere_iff _).mp hhere), readBody_tail hhere]
      rfl
    · rw [if_neg hhere, if_neg (mt (startsHere_iff _).mpr hhere)]
      rfl

theorem Component.ofSegment_ne_here (segment : String) : ofSegment segment ≠ .here := by
  rw [ofSegment]
  split <;> nofun

theorem Component.ofSegment_ne_root (segment : String) : ofSegment segment ≠ .root := by
  rw [ofSegment]
  split <;> nofun

theorem Component.ofSegment_injective : Function.Injective ofSegment := by
  intro a b h
  by_cases ha : a = ".." <;> by_cases hb : b = ".." <;> simp_all [ofSegment]

/-- Without the dot at the start, the components are the root, if there is one, and the segments. -/
theorem bareComponents_eq (path : Path) :
    path.bareComponents
      = (if path.isAbsolute then [.root] else []) ++ path.segments.map Component.ofSegment := by
  have hsegments : (path.segments.map Component.ofSegment).filter (· ≠ .here)
      = path.segments.map Component.ofSegment := by
    refine List.filter_eq_self.mpr fun component hmem => ?_
    obtain ⟨segment, -, rfl⟩ := List.mem_map.mp hmem
    simp [Component.ofSegment_ne_here]
  rw [bareComponents, readComponents_eq, components, List.filter_append, hsegments, start]
  split
  · rfl
  · split <;> rfl

/-- Paths have the same components, but for a dot at the start, exactly if they are on one route. -/
theorem bareComponents_eq_iff {a b : Path} :
    a.bareComponents = b.bareComponents ↔ a.route = b.route := by
  have hinj := List.map_injective_iff.mpr Component.ofSegment_injective
  have hroot : ∀ segments : List String, ∀ rest : List Component,
      segments.map Component.ofSegment ≠ .root :: rest := by
    intro segments rest h
    obtain ⟨segment, more, -, hsegment, -⟩ := List.map_eq_cons_iff.mp h
    exact Component.ofSegment_ne_root segment hsegment
  rw [bareComponents_eq, bareComponents_eq, route, route, Route.mk.injEq]
  cases a.isAbsolute <;> cases b.isAbsolute <;>
    simp [hinj.eq_iff, hroot, (hroot _ _).symm]

/-! ## Spellings -/

/-- Two spellings that differ in one thing that does not count. -/
inductive Respelled : String → String → Prop
  /-- A slash is written twice. -/
  | slash (front back : String) : Respelled (front ++ "/" ++ back) (front ++ "//" ++ back)
  /-- A dot is put between two segments. -/
  | dot (front back : String) : Respelled (front ++ "/" ++ back) (front ++ "/./" ++ back)
  /-- A relative path starts with a dot. -/
  | dotFirst {text : String} (h : isRooted text = false) : Respelled text ("./" ++ text)
  | slashLast {text : String} (h : text ≠ "") : Respelled text (text ++ "/")
  | dotLast {text : String} (h : text ≠ "") : Respelled text (text ++ "/.")

/-- Two paths whose spellings differ in nothing that counts. -/
def SpelledAlike (a b : Path) : Prop := Relation.EqvGen Respelled a.text b.text

/-- What does not count leaves the route. -/
theorem Respelled.route_eq {text text' : String} (h : Respelled text text') :
    route ⟨text⟩ = route ⟨text'⟩ := by
  have hdot : segments ⟨"."⟩ = [] := by decide
  cases h with
  | slash front back =>
    have htwice : front ++ "//" ++ back = front ++ "/" ++ "/" ++ back := by
      simp [String.append_assoc]
    simp [route, isAbsolute, htwice, segments_append_slash, segments_slash, isRooted_append]
  | dot front back =>
    have hbetween : front ++ "/./" ++ back = front ++ "/" ++ "." ++ "/" ++ back := by
      simp [String.append_assoc]
    simp [route, isAbsolute, hbetween, segments_append_slash, isRooted_append, hdot]
  | dotFirst hrelative =>
    have hfirst : "./" ++ text = "." ++ "/" ++ text := by simp
    have hdotted : isRooted (toString "./") = false := by decide
    rw [route, route, isAbsolute, isAbsolute, hrelative, hfirst, isRooted_append_slash,
      segments_append_slash, hdot, List.nil_append]
    rfl
  | slashLast hsome => exact (route_append_slash hsome).symm
  | dotLast hsome =>
    have hlast : text ++ "/." = text ++ "/" ++ "." := by simp [String.append_assoc]
    simp [route, isAbsolute, hlast, segments_append_slash, isRooted_append_slash,
      isRooted_append hsome, hdot]

/-- Segments, each with a slash behind it. -/
def slashed : List String → String
  | [] => ""
  | segment :: segments => segment ++ "/" ++ slashed segments

/-- The spelling that has no more dots and slashes than it needs to start with what the path starts
with, and to have a slash behind each segment. -/
def shortest (route : Route) : String :=
  (if route.absolute then "" else ".") ++ "/" ++ slashed route.segments

theorem slashed_map_ofList {cuts : List (List Char)} (h : cuts ≠ []) :
    slashed (cuts.map String.ofList) = String.ofList (joinChars '/' cuts) ++ "/" := by
  induction cuts with
  | nil => exact absurd rfl h
  | cons cut cuts ih =>
    by_cases hlast : cuts = []
    · simp [hlast, slashed, joinChars]
    · have hslash : ∀ cs : List Char, String.ofList ('/' :: cs) = "/" ++ String.ofList cs := by
        intro cs
        rw [← List.singleton_append, String.ofList_append]
      rw [List.map_cons, slashed, ih hlast, joinChars_cons hlast, String.ofList_append, hslash]
      simp [String.append_assoc]

/-- The pieces of a text, each with a slash behind it, are the text with one more slash. -/
theorem slashed_pieces (text : String) : slashed (pieces '/' text) = text ++ "/" := by
  rw [pieces, slashed_map_ofList (splitOn_ne_nil '/' _), joinChars_splitOn, String.ofList_toList]

/-- Behind a slash, the pieces that stand for nothing can be left out one after the other. -/
theorem eqvGen_slashed (front : String) (cuts : List String) :
    Relation.EqvGen Respelled (front ++ "/" ++ slashed cuts)
      (front ++ "/" ++ slashed (cuts.filter fun s => s != "" && s != ".")) := by
  induction cuts generalizing front with
  | nil => exact .refl _
  | cons segment cuts ih =>
    by_cases hempty : segment = ""
    · subst hempty
      have hslash : "/" ++ ("/" ++ slashed cuts) = "//" ++ slashed cuts := by
        rw [← String.append_assoc]
        rfl
      have hstep := Respelled.slash front (slashed cuts)
      refine .trans _ _ _ (.symm _ _ (.rel _ _ ?_)) (by simpa using ih front)
      simpa [slashed, hslash, String.append_assoc] using hstep
    · by_cases hhere : segment = "."
      · subst hhere
        have hdot : "/" ++ ("./" ++ slashed cuts) = "/./" ++ slashed cuts := by
          rw [← String.append_assoc]
          rfl
        have hstep := Respelled.dot front (slashed cuts)
        refine .trans _ _ _ (.symm _ _ (.rel _ _ ?_)) (by simpa using ih front)
        simpa [slashed, hdot, String.append_assoc] using hstep
      · have hrest := ih (front ++ "/" ++ segment)
        simpa [hempty, hhere, slashed, String.append_assoc] using hrest

/-- A path is spelled like the shortest spelling of its route. -/
theorem spelledAlike_shortest (path : Path) : SpelledAlike path ⟨shortest path.route⟩ := by
  rw [SpelledAlike, shortest, route]
  cases hroot : path.isAbsolute with
  | false =>
    -- a relative path is put behind a dot, and gets a slash at its end
    have hfirst := Respelled.dotFirst hroot
    have hlast : Respelled ("./" ++ path.text) ("./" ++ path.text ++ "/") := .slashLast (by simp)
    have hpieces := eqvGen_slashed "." (pieces '/' path.text)
    rw [slashed_pieces] at hpieces
    refine .trans _ _ _ (.rel _ _ hfirst) (.trans _ _ _ (.rel _ _ hlast) ?_)
    simpa [segments, String.append_assoc] using hpieces
  | true =>
    -- the first piece of an absolute path is empty: the slash behind it is the root
    obtain ⟨rest, hrest⟩ : ∃ rest, path.text = "/" ++ rest := by
      obtain ⟨cs, hcs⟩ := List.head?_eq_some_iff.mp (beq_iff_eq.mp hroot)
      refine ⟨String.ofList cs, String.toList_inj.mp ?_⟩
      simp [hcs]
    have hlast : Respelled path.text (path.text ++ "/") := .slashLast (by simp [hrest])
    have hpieces := eqvGen_slashed "" (pieces '/' rest)
    have hsegments : path.segments = (pieces '/' rest).filter fun s => s != "" && s != "." := by
      have h := segments_append_slash "" rest
      rw [segments_empty, List.nil_append] at h
      rw [← segments, ← h, String.empty_append, ← hrest]
    rw [slashed_pieces, ← hsegments] at hpieces
    refine .trans _ _ _ (.rel _ _ hlast) ?_
    simpa [hrest, String.append_assoc] using hpieces

theorem route_eq_of_eqvGen {text text' : String} (h : Relation.EqvGen Respelled text text') :
    route ⟨text⟩ = route ⟨text'⟩ := by
  induction h with
  | rel _ _ hstep => exact hstep.route_eq
  | refl _ => rfl
  | symm _ _ _ ih => exact ih.symm
  | trans _ _ _ _ _ ih ih' => exact ih.trans ih'

/-- Paths are spelled alike exactly if they are on one route. -/
theorem spelledAlike_iff {a b : Path} : SpelledAlike a b ↔ a.route = b.route := by
  refine ⟨route_eq_of_eqvGen, fun h => ?_⟩
  have ha := spelledAlike_shortest a
  rw [h] at ha
  exact .trans _ _ _ ha (.symm _ _ (spelledAlike_shortest b))

end Path

open ToolPack.Path

namespace Check

/-! ## What is refused -/

/-- A directory is refused because it is the one that is read from. -/
def RefusesAs (canonical : Canonical) (field : String) (dir source : Path) : Prop :=
  distinctDirs canonical field dir source
    = .error (.invalidValue field dir.text (.sameAsSource source))

theorem refusesAs_iff {canonical : Canonical} {field : String} {dir source : Path} :
    RefusesAs canonical field dir source ↔ sameDir canonical dir source = true := by
  rw [RefusesAs, distinctDirs, require]
  cases sameDir canonical dir source <;> simp [refuse]

/-- A directory passes unless it is refused. -/
theorem distinctDirs_eq_ok_iff {canonical : Canonical} {field : String} {dir source : Path} :
    distinctDirs canonical field dir source = .ok () ↔ ¬ RefusesAs canonical field dir source := by
  rw [refusesAs_iff, distinctDirs, require_eq_ok_iff, Bool.not_eq_true', Bool.not_eq_true]

/-- Where one of two paths leads nowhere, the routes decide. -/
theorem sameDir_of_unknown {canonical : Canonical} {a b : Path}
    (h : canonical a = none ∨ canonical b = none) :
    sameDir canonical a b = true ↔ a.route = b.route := by
  have hcomponents : sameDir canonical a b = decide (a.bareComponents = b.bareComponents) := by
    rcases h with ha | hb
    · rw [sameDir, ha]
    · cases ha : canonical a <;> rw [sameDir, ha, hb]
  rw [hcomponents, decide_eq_true_eq, bareComponents_eq_iff]

/-- A path names the directory that it names. -/
theorem sameDir_self (canonical : Canonical) (path : Path) :
    sameDir canonical path path = true := by
  cases hplace : canonical path <;> simp [sameDir, hplace]

end Check

open Check

/-- **Where one of two directories leads nowhere, the spelling decides, and only what is harmless in
it is overlooked.**  The directory is refused exactly if both paths are absolute or both relative
and they have the same segments but for empty ones and dots, and that is exactly if repeated
slashes, dots and slashes at the end take one spelling to the other.  So it does not matter which of
the two is read from, nor how either of them is spelled; and no path passes against itself. -/
theorem spelling_decides {canonical : Canonical} {dir source : Path}
    (h : canonical dir = none ∨ canonical source = none) (field : String) :
    (RefusesAs canonical field dir source
        ↔ dir.isAbsolute = source.isAbsolute ∧ dir.segments = source.segments)
      ∧ (distinctDirs canonical field dir source = .ok ()
        ↔ ¬ (dir.isAbsolute = source.isAbsolute ∧ dir.segments = source.segments))
      ∧ (RefusesAs canonical field dir source ↔ SpelledAlike dir source)
      ∧ (RefusesAs canonical field dir source ↔ RefusesAs canonical field source dir)
      ∧ (∀ path, RefusesAs canonical field path path)
      ∧ ∀ dir' source', SpelledAlike dir dir' → SpelledAlike source source' →
        (canonical dir' = none ∨ canonical source' = none) →
          (RefusesAs canonical field dir' source' ↔ RefusesAs canonical field dir source) := by
  have hroute : dir.route = source.route
      ↔ dir.isAbsolute = source.isAbsolute ∧ dir.segments = source.segments := by
    rw [route, route, Route.mk.injEq]
  have hrefused : RefusesAs canonical field dir source ↔ dir.route = source.route :=
    refusesAs_iff.trans (sameDir_of_unknown h)
  refine ⟨hrefused.trans hroute, ?_, hrefused.trans spelledAlike_iff.symm, ?_, ?_, ?_⟩
  · rw [distinctDirs_eq_ok_iff, hrefused, hroute]
  · rw [hrefused, refusesAs_iff, sameDir_of_unknown h.symm, eq_comm]
  · exact fun path => refusesAs_iff.mpr (sameDir_self canonical path)
  · intro dir' source' hdir hsource h'
    rw [hrefused, refusesAs_iff, sameDir_of_unknown h', spelledAlike_iff.mp hdir,
      spelledAlike_iff.mp hsource]

/-- A directory that is not there yet, spelled in the way of the one that is read from and in
another one. -/
theorem respelled_directory_is_refused :
    let canonical : Canonical := fun path =>
      if path = ⟨"build/bin"⟩ then some ["bin", "build", "kit"] else none
    canonical ⟨".//build/./bin/"⟩ = none
      ∧ RefusesAs canonical "build.output_dir" ⟨".//build/./bin/"⟩ ⟨"build/bin"⟩
      ∧ canonical ⟨"build/lib/../bin"⟩ = none
      ∧ distinctDirs canonical "build.output_dir" ⟨"build/lib/../bin"⟩ ⟨"build/bin"⟩ = .ok () := by
  intro canonical
  have hspelled : canonical ⟨".//build/./bin/"⟩ = none := by decide
  have hother : canonical ⟨"build/lib/../bin"⟩ = none := by decide
  exact ⟨hspelled, (spelling_decides (.inl hspelled) _).1.mpr (by decide), hother,
    (spelling_decides (.inl hother) _).2.1.mpr (by decide)⟩

/-- Slashes and dots that count: a slash behind the empty path, a dot in front of an absolute one,
and a dot for the empty path where the place of the one is found and that of the other is not. -/
theorem spelling_counts :
    let canonical : Canonical := fun path =>
      if path ∈ [⟨"./"⟩, ⟨"/kit"⟩] then some ["kit"] else none
    (canonical ⟨""⟩ = none ∧ RefusesAs canonical "build.output_dir" ⟨""⟩ ⟨""⟩
        ∧ distinctDirs canonical "build.output_dir" ⟨"" ++ "/"⟩ ⟨""⟩ = .ok ())
      ∧ (canonical ⟨"/lib"⟩ = none ∧ RefusesAs canonical "build.output_dir" ⟨"/lib"⟩ ⟨"/lib"⟩
        ∧ distinctDirs canonical "build.output_dir" ⟨"./" ++ "/lib"⟩ ⟨"/lib"⟩ = .ok ())
      ∧ distinctDirs canonical "build.output_dir" ⟨""⟩ ⟨"/kit"⟩ = .ok ()
      ∧ RefusesAs canonical "build.output_dir" ⟨"./" ++ ""⟩ ⟨"/kit"⟩ := by
  intro canonical
  simp only [distinctDirs_eq_ok_iff, refusesAs_iff]
  decide

end ToolPack
