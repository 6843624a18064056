/-!
# Steps that may fail

A row of steps ends well if each of its steps does, and ends with an error only if one of them does.
Programs and lookups alike are such rows: what is said here is used to take them apart.

## What is here

* `exists_of_bind_eq_ok`, `exists_of_map_eq_ok`: the first step of a row that ends well;
* `bind_ne_error`: an error with which no step of a row ends.
-/

set_option autoImplicit false

namespace ToolPack

variable {ε α β : Type}

theorem exists_of_bind_eq_ok {x : Except ε α} {f : α → Except ε β} {b : β}
    (h : x >>= f = .ok b) : ∃ a, x = .ok a ∧ f a = .ok b := by
  cases x with
  | error e => cases h
  | ok a => exact ⟨a, rfl, h⟩

theorem exists_of_map_eq_ok {x : Except ε α} {f : α → β} {b : β} (h : x.map f = .ok b) :
    ∃ a, x = .ok a ∧ f a = b := by
  cases x with
  | error e => cases h
  | ok a => exact ⟨a, rfl, Except.ok.inj h⟩

theorem ok_ne_error {e : ε} {a : α} : (.ok a : Except ε α) ≠ .error e := by
  intro he
  cases he

/-- An error that is another one is so whatever there would have been without it. -/
theorem error_ne_error {e e' : ε} (h : (.error e : Except ε α) ≠ .error e') :
    (.error e : Except ε β) ≠ .error e' :=
  fun he => h (congrArg Except.error (Except.error.inj he))

/-- Two steps do not end with an error with which neither of them ends. -/
theorem bind_ne_error {first : Except ε α} {second : α → Except ε β} {e : ε}
    (hfirst : first ≠ .error e) (hsecond : ∀ a, second a ≠ .error e) :
    (first >>= second) ≠ .error e := by
  cases first with
  | error other => exact error_ne_error hfirst
  | ok a => exact hsecond a

end ToolPack
