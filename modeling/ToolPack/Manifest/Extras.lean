/-!
# Extras of a package

An extra is a named list of further requirements.  Extras are kept in ascending order of their
names, whatever the order in which they were given, and no name is there twice: that is part of
the type.

## What is here

* `Extras`: the extras with their order;
* `Extras.insert`: one more, in the place of one of that name;
* `Extras.ofList`: the extras of a list, later ones winning; their names are those of the list
  (`Extras.mem_map_ofList`).
-/

set_option autoImplicit false

namespace ToolPack

/-- Extras under strictly ascending names. -/
structure Extras where
  entries : List (String × List String)
  ascending : entries.Pairwise fun a b => a.1 < b.1
  deriving DecidableEq

namespace Extras

/-- No extras. -/
def empty : Extras := ⟨[], .nil⟩

instance : Inhabited Extras := ⟨empty⟩

/-- Puts requirements under a name, in order. -/
def put (name : String) (requirements : List String) :
    List (String × List String) → List (String × List String)
  | [] => [(name, requirements)]
  | e :: rest =>
    if name < e.1 then (name, requirements) :: e :: rest
    else if e.1 < name then e :: put name requirements rest
    else (name, requirements) :: rest

/-- The names behind a put are the one that was put and those that were there. -/
theorem mem_put {name : String} {requirements : List String} {es : List (String × List String)}
    {e : String × List String} (h : e ∈ put name requirements es) :
    e = (name, requirements) ∨ e ∈ es := by
  induction es with
  | nil => simpa [put] using h
  | cons a rest ih =>
    simp only [put] at h
    split at h
    · simpa using h
    · split at h
      · rcases List.mem_cons.mp h with h | h
        · exact .inr (by simp [h])
        · rcases ih h with h | h
          · exact .inl h
          · exact .inr (List.mem_cons_of_mem _ h)
      · rcases List.mem_cons.mp h with h | h
        · exact .inl h
        · exact .inr (List.mem_cons_of_mem _ h)

theorem ascending_put (name : String) (requirements : List String)
    {es : List (String × List String)} (h : es.Pairwise fun a b => a.1 < b.1) :
    (put name requirements es).Pairwise fun a b => a.1 < b.1 := by
  induction h with
  | nil => simp [put]
  | @cons a rest ha hrest ih =>
    simp only [put]
    split
    · rename_i hlt
      refine .cons (fun b hb => ?_) (.cons ha hrest)
      rcases List.mem_cons.mp hb with rfl | hb
      · exact hlt
      · exact String.lt_trans hlt (ha b hb)
    · rename_i hge
      split
      · rename_i hlt
        refine .cons (fun b hb => ?_) ih
        rcases mem_put hb with rfl | hb
        · exact hlt
        · exact ha b hb
      · rename_i hle
        have heq : name = a.1 :=
          String.le_antisymm (String.not_lt.mp hle) (String.not_lt.mp hge)
        exact .cons (fun b hb => heq ▸ ha b hb) hrest

/-- One more extra, in the place of one of that name. -/
def insert (extras : Extras) (name : String) (requirements : List String) : Extras :=
  ⟨put name requirements extras.entries, ascending_put name requirements extras.ascending⟩

/-- The extras of a list; of two under one name the later one counts. -/
def ofList (es : List (String × List String)) : Extras :=
  es.foldl (fun extras e => extras.insert e.1 e.2) empty

/-! ## Names -/

theorem mem_map_put {name other : String} {requirements : List String}
    {es : List (String × List String)} :
    other ∈ (put name requirements es).map (·.1) ↔ other = name ∨ other ∈ es.map (·.1) := by
  induction es with
  | nil => simp [put]
  | cons e es ih =>
    rw [put]
    split
    · simp
    · split
      · rw [List.map_cons, List.mem_cons, ih, List.map_cons, List.mem_cons]
        exact or_left_comm
      · rename_i hge hle
        have heq : name = e.1 :=
          String.le_antisymm (String.not_lt.mp hle) (String.not_lt.mp hge)
        simp [heq]

/-- The names of the extras of a list are those of the list. -/
theorem mem_map_ofList {es : List (String × List String)} {name : String} :
    name ∈ (ofList es).entries.map (·.1) ↔ name ∈ es.map (·.1) := by
  have hfold : ∀ extras : Extras,
      name ∈ (es.foldl (fun extras e => extras.insert e.1 e.2) extras).entries.map (·.1)
        ↔ name ∈ extras.entries.map (·.1) ∨ name ∈ es.map (·.1) := by
    induction es with
    | nil => simp
    | cons e es ih =>
      intro extras
      rw [List.foldl_cons, ih, insert, mem_map_put, List.map_cons, List.mem_cons]
      exact or_assoc.trans or_left_comm
  rw [ofList, hfold]
  simp [empty]

end Extras
end ToolPack
