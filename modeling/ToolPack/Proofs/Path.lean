import Mathlib.Data.List.DropRight
import ToolPack.Proofs.Manifest.Accepted
import ToolPack.Proofs.Text.Pieces

/-!
# Paths by their components

A path is a text, but what it leads to is a matter of its components: the root if it starts there, a
leading `.`, and then one for each segment.  Joining a name to a directory puts one component behind
those of the directory, however the directory is spelled, provided that the name is a single segment
that names something.

## What is here

* `Path.components`: the components of a path, in order;
* `Path.IsChildOf`, `Path.StaysBelow`: a path that is directly in a directory, and one that leads
  nowhere but further down;
* `Path.FileName`: names that are single segments; plain names are (`PlainName.fileName`);
* `components_append_name`, `components_join_append`: what a name at the end of a path adds;
* `append_join`: joining is associative;
* `route_join`, `eq_of_join_eq_join`: a name takes the route of its directory one segment further,
  so joining loses neither;
* `parent?_join`: the parent of what is joined to a directory is the directory;
* `directoryPart`, `lastPart`: a text up to its last slash, and what comes behind it.
-/

set_option autoImplicit false

namespace ToolPack

namespace Path

/-- A name that is a single segment of a path and names a file or a directory there. -/
structure FileName (name : String) : Prop where
  noSlash : '/' ∉ name.toList
  ne_empty : name ≠ ""
  ne_here : name ≠ "."
  ne_up : name ≠ ".."

instance (name : String) : Decidable (FileName name) :=
  decidable_of_iff ('/' ∉ name.toList ∧ name ≠ "" ∧ name ≠ "." ∧ name ≠ "..")
    ⟨fun ⟨hslash, hempty, hhere, hup⟩ => ⟨hslash, hempty, hhere, hup⟩,
      fun h => ⟨h.noSlash, h.ne_empty, h.ne_here, h.ne_up⟩⟩

end Path

theorem PlainName.fileName {name : String} (h : PlainName name) : Path.FileName name := by
  have hinside := h.staysInside
  simp only [Check.staysInside, Bool.and_eq_true, bne_iff_ne] at hinside
  refine ⟨h.not_mem, fun hempty => ?_, hinside.1.2, hinside.2⟩
  have hblank := h.notBlank
  rw [hempty] at hblank
  exact absurd hblank (by decide)

namespace Path

open Text

/-- A route, one segment further. -/
def Route.push (route : Route) (name : String) : Route :=
  ⟨route.absolute, route.segments ++ [name]⟩

theorem Route.push_inj {a b : Route} {name name' : String} :
    a.push name = b.push name' ↔ a = b ∧ name = name' := by
  rw [push, push, Route.mk.injEq, List.append_singleton_inj, ← and_assoc, ← Route.mk.injEq]

/-! ## Components -/

/-- The component that a segment stands for. -/
def Component.ofSegment (segment : String) : Component :=
  if segment = ".." then .up else .named segment

/-- What a path starts with: the root, a `.` that is written out, or nothing. -/
def start (path : Path) : List Component :=
  if path.isAbsolute then [.root]
  else if (pieces '/' path.text).head? = some "." then [.here]
  else []

/-- The components of a path. -/
def components (path : Path) : List Component :=
  path.start ++ path.segments.map Component.ofSegment

/-- The path is that of something directly in the directory. -/
def IsChildOf (path dir : Path) : Prop := ∃ name, path.components = dir.components ++ [.named name]

/-- The path is relative, and it never goes up. -/
def StaysBelow (path : Path) : Prop := .root ∉ path.components ∧ .up ∉ path.components

instance (path : Path) : Decidable path.StaysBelow :=
  inferInstanceAs (Decidable (.root ∉ path.components ∧ .up ∉ path.components))

/-- A path that ends in a name has one last component, and is a child of the directory that the
others lead to. -/
theorem isChildOf_iff {path dir : Path} {front : List Component} {name : String}
    (h : path.components = front ++ [.named name]) :
    path.IsChildOf dir ↔ front = dir.components := by
  constructor
  · rintro ⟨other, hother⟩
    exact (List.append_inj' (h.symm.trans hother) rfl).1
  · rintro rfl
    exact ⟨name, h⟩

/-! ## A name at the end of a path -/

/-- A text that a name can be put behind: it is empty, or it ends in a slash. -/
def IsOpen (text : String) : Prop := text = "" ∨ ∃ front, text = front ++ "/"

theorem endsInSlash_iff {text : String} :
    endsInSlash text = true ↔ ∃ front, text = front ++ "/" := by
  rw [endsInSlash, beq_iff_eq, List.getLast?_eq_some_iff]
  constructor
  · rintro ⟨front, hfront⟩
    refine ⟨String.ofList front, String.toList_inj.mp ?_⟩
    rw [hfront, String.toList_append, String.toList_ofList]
    rfl
  · rintro ⟨front, rfl⟩
    exact ⟨front.toList, String.toList_append⟩

/-- The segments around a slash are those of both sides. -/
theorem segments_append_slash (front back : String) :
    segments ⟨front ++ "/" ++ back⟩ = segments ⟨front⟩ ++ segments ⟨back⟩ := by
  rw [segments, pieces_append rfl, List.filter_append]
  rfl

@[simp] theorem segments_empty : segments ⟨""⟩ = [] := by decide

theorem FileName.segments {name : String} (h : FileName name) : segments ⟨name⟩ = [name] := by
  rw [Path.segments, pieces_of_not_mem h.noSlash]
  simp [h.ne_empty, h.ne_here]

theorem FileName.not_rooted {name : String} (h : FileName name) : isRooted name = false := by
  rw [isRooted, beq_eq_false_iff_ne]
  exact fun hhead => h.noSlash (List.mem_of_mem_head? hhead)

/-- Whether a text is rooted is settled at its start. -/
theorem isRooted_append {text : String} (h : text ≠ "") (more : String) :
    isRooted (text ++ more) = isRooted text := by
  have hchars : text.toList ≠ [] := fun hnil => h (String.toList_eq_nil_iff.mp hnil)
  rw [isRooted, isRooted, String.toList_append, List.head?_append_of_ne_nil _ hchars]

theorem isRooted_append_slash (front back : String) :
    isRooted (front ++ "/" ++ back) = isRooted (front ++ "/") :=
  isRooted_append (fun hempty => absurd (String.append_eq_empty_iff.mp hempty).2 (by decide)) back

/-- The first piece of a path is settled at its first slash. -/
theorem head?_pieces_append_slash (front back : String) :
    (pieces '/' (front ++ "/" ++ back)).head? = (pieces '/' front).head? := by
  rw [pieces_append rfl, List.head?_append_of_ne_nil _ (pieces_ne_nil '/' front)]

theorem head?_pieces_slash (front : String) :
    (pieces '/' (front ++ "/")).head? = (pieces '/' front).head? := by
  have h := head?_pieces_append_slash front ""
  rwa [String.append_empty] at h

/-- What a path starts with depends on two things. -/
theorem start_congr {path other : Path} (habsolute : path.isAbsolute = other.isAbsolute)
    (hhead : (pieces '/' path.text).head? = (pieces '/' other.text).head?) :
    path.start = other.start := by
  rw [start, start, habsolute, hhead]

theorem start_append_slash (front back : String) :
    start ⟨front ++ "/" ++ back⟩ = start ⟨front ++ "/"⟩ :=
  start_congr (isRooted_append_slash front back)
    ((head?_pieces_append_slash front back).trans (head?_pieces_slash front).symm)

theorem segments_slash (front : String) : segments ⟨front ++ "/"⟩ = segments ⟨front⟩ := by
  have h := segments_append_slash front ""
  rwa [String.append_empty, segments_empty, List.append_nil] at h

/-- A slash at the end of a path does not count. -/
theorem components_append_slash {text : String} (h : text ≠ "") :
    components ⟨text ++ "/"⟩ = components ⟨text⟩ := by
  rw [components, components, start_congr (isRooted_append h "/") (head?_pieces_slash text),
    segments_slash]

/-- Nor does it count for the route. -/
theorem route_append_slash {text : String} (h : text ≠ "") :
    route ⟨text ++ "/"⟩ = route ⟨text⟩ := by
  rw [route, route, isAbsolute, isAbsolute, isRooted_append h, segments_slash]

/-- A name at the end of a path is its last component. -/
theorem components_append_name {text name : String} (hopen : IsOpen text) (hname : FileName name) :
    components ⟨text ++ name⟩ = components ⟨text⟩ ++ [.named name] := by
  have hlast : Component.ofSegment name = .named name := if_neg hname.ne_up
  rcases hopen with rfl | ⟨front, rfl⟩
  · have hstart : start ⟨name⟩ = [] := by
      simp [start, isAbsolute, hname.not_rooted, pieces_of_not_mem hname.noSlash, hname.ne_here]
    rw [String.empty_append, components, hstart, hname.segments, List.map_singleton, hlast]
    rfl
  · rw [components, components, start_append_slash, segments_append_slash, segments_slash,
      hname.segments, List.map_append, List.map_singleton, hlast, List.append_assoc]

/-- It is the last segment of the route. -/
theorem route_append_name {text name : String} (hopen : IsOpen text) (hname : FileName name) :
    route ⟨text ++ name⟩ = (route ⟨text⟩).push name := by
  rcases hopen with rfl | ⟨front, rfl⟩
  · rw [String.empty_append, route, isAbsolute, hname.not_rooted, hname.segments]
    rfl
  · rw [route, route, isAbsolute, isAbsolute, isRooted_append_slash, segments_append_slash,
      segments_slash, hname.segments, Route.push]

/-- A slash behind the name does not count. -/
theorem components_append_name_slash {text name : String} (hopen : IsOpen text)
    (hname : FileName name) :
    components ⟨text ++ name ++ "/"⟩ = components ⟨text⟩ ++ [.named name] := by
  rw [components_append_slash, components_append_name hopen hname]
  exact fun hempty => hname.ne_empty (String.append_eq_empty_iff.mp hempty).2

@[simp] theorem components_empty : components ⟨""⟩ = [] := by decide

/-- A name alone is one component. -/
theorem FileName.components {name : String} (h : FileName name) :
    components ⟨name⟩ = [.named name] := by
  have hname := components_append_name (.inl rfl) h
  rwa [String.empty_append, components_empty, List.nil_append] at hname

theorem FileName.staysBelow {name : String} (h : FileName name) : StaysBelow ⟨name⟩ := by
  rw [StaysBelow, h.components]
  simp

/-! ## Joining -/

theorem join_rooted {dir : Path} {name : String} (h : isRooted name = true) :
    dir.join name = ⟨name⟩ := if_pos h

theorem join_ne_empty (dir : Path) {name : String} (h : name ≠ "") : (dir.join name).text ≠ "" := by
  rw [join]
  split
  · exact h
  · split <;> simp [h]

/-- Joining nothing closes a directory with a slash where names are to be put behind one. -/
theorem join_empty (dir : Path) :
    dir.join "" = if dir.text.isEmpty || endsInSlash dir.text then dir else ⟨dir.text ++ "/"⟩ := by
  have hrooted : isRooted "" = false := rfl
  simp only [join, hrooted, Bool.false_eq_true, if_false, String.append_empty]

theorem join_not_rooted {dir : Path} {name : String} (h : isRooted name = false) :
    dir.join name = ⟨(dir.join "").text ++ name⟩ := by
  rw [join_empty, join, h, if_neg Bool.false_ne_true]
  split <;> rfl

theorem components_join_empty (dir : Path) : (dir.join "").components = dir.components := by
  rw [join_empty]
  split
  · rfl
  · rename_i hclosed
    refine components_append_slash fun h => hclosed ?_
    rw [h]
    rfl

theorem route_join_empty (dir : Path) : (dir.join "").route = dir.route := by
  rw [join_empty]
  split
  · rfl
  · rename_i hclosed
    refine route_append_slash fun h => hclosed ?_
    rw [h]
    rfl

theorem isOpen_join_empty (dir : Path) : IsOpen (dir.join "").text := by
  rw [join_empty]
  split
  · rename_i h
    rcases (Bool.or_eq_true _ _).mp h with hnil | hslash
    · exact .inl (String.isEmpty_iff.mp hnil)
    · exact .inr (endsInSlash_iff.mp hslash)
  · exact .inr ⟨dir.text, rfl⟩

theorem isOpen_append {text more : String} (h : IsOpen text) (hmore : IsOpen more) :
    IsOpen (text ++ more) := by
  rcases hmore with rfl | ⟨front, rfl⟩
  · rwa [String.append_empty]
  · exact .inr ⟨text ++ front, String.append_assoc.symm⟩

theorem isOpen_join {front : String} (dir : Path) (h : IsOpen front) :
    IsOpen (dir.join front).text := by
  cases hrooted : isRooted front with
  | true => rwa [join_rooted hrooted]
  | false =>
    rw [join_not_rooted hrooted]
    exact isOpen_append (isOpen_join_empty dir) h

/-- What is put behind an open text and has no slash is put behind its join as well. -/
theorem join_append {dir : Path} {front last : String} (hopen : IsOpen front)
    (hlast : '/' ∉ last.toList) : dir.join (front ++ last) = ⟨(dir.join front).text ++ last⟩ := by
  have hrooted : isRooted (front ++ last) = isRooted front := by
    rcases hopen with rfl | ⟨text, rfl⟩
    · rw [String.empty_append, isRooted, beq_eq_false_iff_ne.mpr]
      · rfl
      · exact fun hhead => hlast (List.mem_of_mem_head? hhead)
    · exact isRooted_append_slash text last
  cases h : isRooted front with
  | true => rw [join_rooted (hrooted.trans h), join_rooted h]
  | false => rw [join_not_rooted (hrooted.trans h), join_not_rooted h, String.append_assoc]

/-- The end of a text tells whether it ends in a slash. -/
theorem endsInSlash_append {text : String} (h : text ≠ "") (front : String) :
    endsInSlash (front ++ text) = endsInSlash text := by
  have hchars : text.toList ≠ [] := fun hnil => h (String.toList_eq_nil_iff.mp hnil)
  rw [endsInSlash, endsInSlash, String.toList_append, List.getLast?_append_of_ne_nil _ hchars]

/-- A directory that names can be put behind is left as it is. -/
theorem join_empty_of_isOpen {dir : Path} (h : IsOpen dir.text) : dir.join "" = dir := by
  rw [join_empty]
  refine if_pos ((Bool.or_eq_true _ _).mpr ?_)
  rcases h with hempty | hslash
  · exact .inl (String.isEmpty_iff.mpr hempty)
  · exact .inr (endsInSlash_iff.mpr hslash)

/-- A slash that is lacking at the end is lacking whatever stands in front. -/
theorem join_empty_append (dir : Path) (text : String) :
    (⟨(dir.join "").text ++ text⟩ : Path).join ""
      = ⟨(dir.join "").text ++ ((⟨text⟩ : Path).join "").text⟩ := by
  by_cases h : text = ""
  · rw [h, String.append_empty, join_empty_of_isOpen (isOpen_join_empty dir)]
    exact congrArg Path.mk String.append_empty.symm
  · have hempty : text.isEmpty = false := Bool.eq_false_iff.mpr (mt String.isEmpty_iff.mp h)
    have hempty' : ((dir.join "").text ++ text).isEmpty = false :=
      Bool.eq_false_iff.mpr fun hboth =>
        h (String.append_eq_empty_iff.mp (String.isEmpty_iff.mp hboth)).2
    rw [join_empty, join_empty ⟨text⟩, endsInSlash_append h, hempty, hempty']
    split
    · rfl
    · exact congrArg Path.mk String.append_assoc

/-- Where a name is joined to something, this settles whether the join is absolute. -/
theorem isAbsolute_join_eq {dir : Path} {name : String} (hdir : dir.text ≠ "")
    (hname : isRooted name = false) : (dir.join name).isAbsolute = dir.isAbsolute := by
  rw [join, hname, if_neg Bool.false_ne_true]
  split
  · exact isRooted_append hdir name
  · rw [isAbsolute, String.append_assoc]
    exact isRooted_append hdir _

theorem isAbsolute_join {dir : Path} (h : dir.isAbsolute = true) (name : String) :
    (dir.join name).isAbsolute = true := by
  cases hname : isRooted name with
  | true => rwa [join_rooted hname]
  | false =>
    rwa [isAbsolute_join_eq _ hname]
    intro hempty
    rw [isAbsolute, hempty] at h
    exact absurd h (by decide)

/-- Below nothing a path is as it is written. -/
theorem empty_join (name : String) : (⟨""⟩ : Path).join name = ⟨name⟩ := by
  cases hname : isRooted name with
  | true => exact join_rooted hname
  | false => rw [join_not_rooted hname, join_empty_of_isOpen (.inl rfl), String.empty_append]

/-- An absolute path is the same wherever it is seen from. -/
theorem append_of_isAbsolute (dir : Path) {path : Path} (h : path.isAbsolute = true) :
    dir.append path = path :=
  join_rooted h

/-- **Joining is associative**, as texts, whatever is rooted, empty or ends in a slash. -/
theorem append_join (dir front : Path) (name : String) :
    (dir.append front).join name = dir.append (front.join name) := by
  cases hname : isRooted name with
  | true =>
    rw [join_rooted hname, join_rooted hname]
    exact (join_rooted hname).symm
  | false =>
    cases hfront : front.isAbsolute with
    | true =>
      rw [append_of_isAbsolute dir hfront, append_of_isAbsolute dir (isAbsolute_join hfront name)]
    | false =>
      have hjoined : isRooted (front.join name).text = false := by
        by_cases hempty : front.text = ""
        · rwa [join_not_rooted hname, join_empty_of_isOpen (.inl hempty), hempty,
            String.empty_append]
        · exact (isAbsolute_join_eq hempty hname).trans hfront
      rw [append, append, join_not_rooted hfront, join_not_rooted hjoined, join_not_rooted hname,
        join_not_rooted hname, join_empty_append, String.append_assoc]

/-- Joining a name that has directories in front of it adds the name to what those lead to. -/
theorem components_join_append {dir : Path} {front name : String} (hopen : IsOpen front)
    (hname : FileName name) :
    (dir.join (front ++ name)).components = (dir.join front).components ++ [.named name] := by
  rw [join_append hopen hname.noSlash]
  exact components_append_name (isOpen_join dir hopen) hname

/-- Joining a name to a directory adds one component. -/
theorem components_join (dir : Path) {name : String} (h : FileName name) :
    (dir.join name).components = dir.components ++ [.named name] := by
  have hjoin : (dir.join ("" ++ name)).components = (dir.join "").components ++ [.named name] :=
    components_join_append (.inl rfl) h
  rwa [String.empty_append, components_join_empty] at hjoin

/-- A name that is joined to a directory is directly in it. -/
theorem isChildOf_join (dir : Path) {name : String} (h : FileName name) :
    (dir.join name).IsChildOf dir :=
  ⟨name, components_join dir h⟩

example : ((⟨"./dist//"⟩ : Path).join "kit.zip").components
    = [.here, .named "dist", .named "kit.zip"] := by decide

/-- A join ends as the name does. -/
theorem getLast?_join (dir : Path) {name : String} (h : name ≠ "") :
    (dir.join name).text.toList.getLast? = name.toList.getLast? := by
  have hchars : name.toList ≠ [] := fun hnil => h (String.toList_eq_nil_iff.mp hnil)
  cases hrooted : isRooted name with
  | true => rw [join_rooted hrooted]
  | false =>
    rw [join_not_rooted hrooted, String.toList_append, List.getLast?_append_of_ne_nil _ hchars]

/-- Names that end differently lead to different paths, whatever directories they are joined to. -/
theorem join_ne_join (dir other : Path) {name name' : String} (hname : name ≠ "")
    (hname' : name' ≠ "") (hlast : name.toList.getLast? ≠ name'.toList.getLast?) :
    dir.join name ≠ other.join name' := by
  intro h
  have hends := congrArg (fun path => path.text.toList.getLast?) h
  simp only [getLast?_join _ hname, getLast?_join _ hname'] at hends
  exact hlast hends

/-- A name that is joined to a directory goes one segment further than the directory. -/
theorem route_join (dir : Path) {name : String} (h : FileName name) :
    (dir.join name).route = dir.route.push name := by
  rw [join_not_rooted h.not_rooted, route_append_name (isOpen_join_empty dir) h, route_join_empty]

/-- Paths of one text have their names in directories on one route, and the names are equal. -/
theorem eq_of_join_eq_join {dir other : Path} {name name' : String} (h : FileName name)
    (h' : FileName name') (hjoin : dir.join name = other.join name') :
    dir.route = other.route ∧ name = name' := by
  have hroute := congrArg route hjoin
  rw [route_join dir h, route_join other h'] at hroute
  exact Route.push_inj.mp hroute

/-! ## Parents -/

/-- A `.` at the end of a path does not count. -/
theorem components_append_slash_here (text : String) :
    components ⟨text ++ "/" ++ "."⟩ = components ⟨text ++ "/"⟩ := by
  have hhere : segments ⟨"."⟩ = [] := by decide
  rw [components, components, start_append_slash, segments_append_slash, segments_slash, hhere,
    List.append_nil]

theorem ofList_reverse_cons (c : Char) (cs : List Char) :
    String.ofList (c :: cs).reverse = String.ofList cs.reverse ++ String.ofList [c] := by
  rw [List.reverse_cons, String.ofList_append]

/-- What is trimmed from the end of a path does not count. -/
theorem components_trimEnd (cs : List Char) :
    components ⟨String.ofList (trimEnd cs).reverse⟩ = components ⟨String.ofList cs.reverse⟩ := by
  fun_induction trimEnd cs with
  | case1 rest hrest => rw [List.isEmpty_iff.mp hrest]
  | case2 rest hrest ih =>
    have hsome : String.ofList rest.reverse ≠ "" := by simpa using hrest
    rw [ih, ofList_reverse_cons '/' rest]
    exact (components_append_slash hsome).symm
  | case3 rest ih =>
    rw [ih, ofList_reverse_cons '.', ofList_reverse_cons '/']
    exact (components_append_slash_here _).symm
  | case4 cs => rfl

theorem FileName.exists_reverse_eq_cons {name : String} (h : FileName name) :
    ∃ c rest, name.toList.reverse = c :: rest ∧ c ≠ '/' ∧ '/' ∉ rest := by
  cases hchars : name.toList.reverse with
  | nil => exact absurd (String.toList_eq_nil_iff.mp (List.reverse_eq_nil_iff.mp hchars)) h.ne_empty
  | cons c rest =>
    have hslash : '/' ∉ c :: rest := by
      rw [← hchars]
      exact fun hmem => h.noSlash (List.mem_reverse.mp hmem)
    exact ⟨c, rest, rfl, Ne.symm (List.ne_of_not_mem_cons hslash),
      List.not_mem_of_not_mem_cons hslash⟩

/-- Nothing is trimmed from a path that ends in a name. -/
theorem FileName.trimEnd_reverse_append {name : String} (h : FileName name) (cs : List Char) :
    trimEnd (name.toList.reverse ++ cs) = name.toList.reverse ++ cs := by
  obtain ⟨c, rest, hchars, hc, hslash⟩ := h.exists_reverse_eq_cons
  rw [hchars]
  refine trimEnd.eq_3 _ (fun tail htail => hc (List.cons.inj htail).1) fun tail htail => ?_
  obtain ⟨rfl, hrest⟩ := List.cons.inj htail
  cases rest with
  | nil =>
    -- the name would be a single dot
    refine h.ne_here (String.toList_inj.mp ?_)
    rw [← List.reverse_reverse name.toList, hchars]
    rfl
  | cons d rest => exact hslash ((List.cons.inj hrest).1 ▸ List.mem_cons_self)

/-- What stands in front of a name, up to the slash in front of it. -/
theorem FileName.dropWhile_reverse_append {name front : String} (h : FileName name)
    (hopen : IsOpen front) :
    (name.toList.reverse ++ front.toList.reverse).dropWhile (· != '/') = front.toList.reverse := by
  rw [List.dropWhile_append_of_pos]
  · rcases hopen with rfl | ⟨text, rfl⟩
    · rfl
    · rw [String.toList_append, List.reverse_append]
      rfl
  · intro c hc
    rw [bne_iff_ne]
    exact fun hslash => h.noSlash (hslash ▸ List.mem_reverse.mp hc)

/-- The parent of what is joined to a directory is the directory, however it is spelled. -/
theorem parent?_join (dir : Path) {name : String} (h : FileName name) :
    ∃ parent, (dir.join name).parent? = some parent ∧ parent.components = dir.components := by
  have hopen := isOpen_join_empty dir
  have hchars : (dir.join name).text.toList.reverse
      = name.toList.reverse ++ (dir.join "").text.toList.reverse := by
    rw [join_not_rooted h.not_rooted, String.toList_append, List.reverse_append]
  refine ⟨⟨String.ofList (trimEnd (dir.join "").text.toList.reverse).reverse⟩, ?_, ?_⟩
  · obtain ⟨c, rest, hname, hc, -⟩ := h.exists_reverse_eq_cons
    rw [parent?, hchars, h.trimEnd_reverse_append]
    split
    · rename_i hnil
      rw [hname] at hnil
      cases hnil
    · rename_i hroot
      rw [hname] at hroot
      exact absurd (List.cons.inj hroot).1 hc
    · rw [h.dropWhile_reverse_append hopen]
  · rw [components_trimEnd, List.reverse_reverse, String.ofList_toList]
    exact components_join_empty dir

/-! ## The directories in front of a name -/

/-- A text up to its last slash, and with it. -/
def directoryPart (text : String) : String :=
  String.ofList (text.toList.rdropWhile (· != '/'))

/-- What comes behind the last slash of a text. -/
def lastPart (text : String) : String := String.ofList (text.toList.rtakeWhile (· != '/'))

theorem directoryPart_append_lastPart (text : String) :
    directoryPart text ++ lastPart text = text := by
  refine String.toList_inj.mp ?_
  rw [String.toList_append, directoryPart, lastPart, String.toList_ofList, String.toList_ofList]
  exact List.rdropWhile_append_rtakeWhile

theorem not_mem_lastPart (text : String) : '/' ∉ (lastPart text).toList := by
  rw [lastPart, String.toList_ofList]
  intro h
  simpa using List.mem_rtakeWhile_imp h

theorem isOpen_directoryPart (text : String) : IsOpen (directoryPart text) := by
  by_cases h : text.toList.rdropWhile (· != '/') = []
  · left
    rw [directoryPart, h, String.ofList_nil]
  · right
    refine endsInSlash_iff.mp ?_
    rw [endsInSlash, directoryPart, String.toList_ofList, List.getLast?_eq_getLast_of_ne_nil h]
    simpa using List.rdropWhile_last_not (· != '/') text.toList h

theorem directoryPart_of_not_mem {text : String} (h : '/' ∉ text.toList) :
    directoryPart text = "" := by
  have hnil : text.toList.rdropWhile (· != '/') = [] := by
    rw [List.rdropWhile_eq_nil_iff]
    intro c hc
    rw [bne_iff_ne]
    exact fun hslash => h (hslash ▸ hc)
  rw [directoryPart, hnil, String.ofList_nil]

end Path
end ToolPack
