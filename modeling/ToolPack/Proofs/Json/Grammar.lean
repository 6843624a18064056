import ToolPack.Json.Value

/-!
# What a JSON text says

The grammar of JSON, as a relation between a text and the value that it stands for.  Any reader of
JSON makes of a text the value that it stands for, so what is proved of the relation holds for all
of them.  Numbers are kept as they are written: what a reader makes of their digits is its own
affair.

Parts of a text are read from the front: `ReadsValue v cs rest` says that `cs` starts with a text
for `v`, and that `rest` is what comes behind it.

## What is here

* `Reading`: the values that JSON texts stand for;
* `ReadsText`, `ReadsValue`, `ReadsItems`, `ReadsField`, `ReadsFields`: the grammar;
* `Document`: a text that stands for a value; `Document.unique`: it does for one at most;
* `Json.reading`, `document_pretty_iff`: what is printed over several lines stands for the value
  that was printed, and for nothing else.
-/

set_option autoImplicit false

namespace ToolPack
namespace Json

/-- A value that a JSON text stands for. -/
inductive Reading where
  | null
  | truth (value : Bool)
  /-- A number, as it is written. -/
  | number (digits : List Char)
  | text (s : String)
  | list (items : List Reading)
  /-- Fields in the order in which they are written, also those of one name. -/
  | record (fields : List (String × Reading))

/-! ## Characters -/

/-- The characters between the parts of a text. -/
def isBlank (c : Char) : Bool := c == ' ' || c == '\t' || c == '\n' || c == '\r'

/-- A text from its first character that counts on. -/
def skip (cs : List Char) : List Char := cs.dropWhile isBlank

/-- The character that a short escape stands for. -/
def shortEscape? (c : Char) : Option Char :=
  if c = '"' ∨ c = '\\' ∨ c = '/' then some c
  else if c = 'b' then some '\x08'
  else if c = 'f' then some '\x0c'
  else if c = 'n' then some '\n'
  else if c = 'r' then some '\r'
  else if c = 't' then some '\t'
  else none

/-- The value of a digit in base sixteen; both cases are read. -/
def hexValue? (c : Char) : Option Nat :=
  if '0' ≤ c ∧ c ≤ '9' then some (c.toNat - '0'.toNat)
  else if 'a' ≤ c ∧ c ≤ 'f' then some (c.toNat - 'a'.toNat + 10)
  else if 'A' ≤ c ∧ c ≤ 'F' then some (c.toNat - 'A'.toNat + 10)
  else none

/-- The number that four digits stand for. -/
def codeUnit? (a b c d : Char) : Option Nat := do
  return ((((← hexValue? a) * 16 + (← hexValue? b)) * 16 + (← hexValue? c)) * 16 + (← hexValue? d))

/-- The first half of a character that takes two numbers. -/
def IsHigh (n : Nat) : Prop := 0xD800 ≤ n ∧ n < 0xDC00

/-- The second half of it. -/
def IsLow (n : Nat) : Prop := 0xDC00 ≤ n ∧ n < 0xE000

/-! ## The grammar -/

/-- The characters of a text in quotes, behind the first quote. -/
inductive ReadsText : List Char → List Char → List Char → Prop
  | close {rest : List Char} : ReadsText [] ('"' :: rest) rest
  /-- A character that stands for itself. -/
  | plain {c : Char} {s cs rest : List Char} (hquote : c ≠ '"') (hback : c ≠ '\\')
      (hprints : 0x20 ≤ c.toNat) (h : ReadsText s cs rest) : ReadsText (c :: s) (c :: cs) rest
  | short {c d : Char} {s cs rest : List Char} (hescape : shortEscape? c = some d)
      (h : ReadsText s cs rest) : ReadsText (d :: s) ('\\' :: c :: cs) rest
  | unit {a b c d : Char} {n : Nat} {s cs rest : List Char} (hunit : codeUnit? a b c d = some n)
      (hhigh : ¬ IsHigh n) (hlow : ¬ IsLow n) (h : ReadsText s cs rest) :
      ReadsText (Char.ofNat n :: s) ('\\' :: 'u' :: a :: b :: c :: d :: cs) rest
  | pair {a b c d a' b' c' d' : Char} {n n' : Nat} {s cs rest : List Char}
      (hunit : codeUnit? a b c d = some n) (hhigh : IsHigh n)
      (hunit' : codeUnit? a' b' c' d' = some n') (hlow : IsLow n') (h : ReadsText s cs rest) :
      ReadsText (Char.ofNat (0x10000 + (n - 0xD800) * 0x400 + (n' - 0xDC00)) :: s)
        ('\\' :: 'u' :: a :: b :: c :: d :: '\\' :: 'u' :: a' :: b' :: c' :: d' :: cs) rest

/-- One digit at least, and nothing else. -/
def AreDigits (cs : List Char) : Prop := cs ≠ [] ∧ ∀ c ∈ cs, '0' ≤ c ∧ c ≤ '9'

/-- A number: its digits do not start with an idle zero. -/
inductive IsNumber : List Char → Prop
  | intro {sign whole fraction exponent : List Char} (hsign : sign = [] ∨ sign = ['-'])
      (hwhole : AreDigits whole) (hzero : whole.head? = some '0' → whole = ['0'])
      (hfraction : fraction = [] ∨ ∃ digits, AreDigits digits ∧ fraction = '.' :: digits)
      (hexponent : exponent = [] ∨ ∃ mark sign digits, (mark = 'e' ∨ mark = 'E')
        ∧ (sign = [] ∨ sign = ['-'] ∨ sign = ['+']) ∧ AreDigits digits
        ∧ exponent = mark :: sign ++ digits) :
      IsNumber (sign ++ whole ++ fraction ++ exponent)

/-- The characters that numbers are written with. -/
def isOfNumber (c : Char) : Bool :=
  ('0' ≤ c && c ≤ '9') || c == '-' || c == '+' || c == '.' || c == 'e' || c == 'E'

mutual

/-- A value. -/
inductive ReadsValue : Reading → List Char → List Char → Prop
  | null {rest : List Char} : ReadsValue .null ('n' :: 'u' :: 'l' :: 'l' :: rest) rest
  | yes {rest : List Char} : ReadsValue (.truth true) ('t' :: 'r' :: 'u' :: 'e' :: rest) rest
  | no {rest : List Char} :
      ReadsValue (.truth false) ('f' :: 'a' :: 'l' :: 's' :: 'e' :: rest) rest
  /-- A number goes on as far as it can. -/
  | number {digits cs rest : List Char} (h : IsNumber digits) (hcs : cs = digits ++ rest)
      (hrest : rest.head?.all (!isOfNumber ·)) : ReadsValue (.number digits) cs rest
  | text {s cs rest : List Char} (h : ReadsText s cs rest) :
      ReadsValue (.text (String.ofList s)) ('"' :: cs) rest
  | noItem {cs rest : List Char} (h : skip cs = ']' :: rest) :
      ReadsValue (.list []) ('[' :: cs) rest
  | list {v : Reading} {vs : List Reading} {cs mid rest : List Char}
      (hitem : ReadsValue v (skip cs) mid) (hitems : ReadsItems vs (skip mid) rest) :
      ReadsValue (.list (v :: vs)) ('[' :: cs) rest
  | noField {cs rest : List Char} (h : skip cs = '\x7d' :: rest) :
      ReadsValue (.record []) ('\x7b' :: cs) rest
  | record {f : String × Reading} {fs : List (String × Reading)} {cs mid rest : List Char}
      (hfield : ReadsField f (skip cs) mid) (hfields : ReadsFields fs (skip mid) rest) :
      ReadsValue (.record (f :: fs)) ('\x7b' :: cs) rest

/-- The items behind the first one, and the closing bracket. -/
inductive ReadsItems : List Reading → List Char → List Char → Prop
  | close {rest : List Char} : ReadsItems [] (']' :: rest) rest
  | next {v : Reading} {vs : List Reading} {cs mid rest : List Char}
      (hitem : ReadsValue v (skip cs) mid) (hitems : ReadsItems vs (skip mid) rest) :
      ReadsItems (v :: vs) (',' :: cs) rest

/-- A key and its value. -/
inductive ReadsField : String × Reading → List Char → List Char → Prop
  | intro {key : List Char} {v : Reading} {cs mid behind rest : List Char}
      (hkey : ReadsText key cs mid) (hcolon : skip mid = ':' :: behind)
      (hvalue : ReadsValue v (skip behind) rest) :
      ReadsField (String.ofList key, v) ('"' :: cs) rest

/-- The fields behind the first one, and the closing brace. -/
inductive ReadsFields : List (String × Reading) → List Char → List Char → Prop
  | close {rest : List Char} : ReadsFields [] ('\x7d' :: rest) rest
  | next {f : String × Reading} {fs : List (String × Reading)} {cs mid rest : List Char}
      (hfield : ReadsField f (skip cs) mid) (hfields : ReadsFields fs (skip mid) rest) :
      ReadsFields (f :: fs) (',' :: cs) rest

end

/-- A text stands for a value. -/
def Document (text : String) (v : Reading) : Prop :=
  ∃ rest, ReadsValue v (skip text.toList) rest ∧ skip rest = []

/-! ## A text stands for one value at most -/

theorem ReadsText.unique {s s' cs rest rest' : List Char} (h : ReadsText s cs rest)
    (h' : ReadsText s' cs rest') : s = s' ∧ rest = rest' := by
  induction h generalizing s' with
  | close =>
    cases h' with
    | close => exact ⟨rfl, rfl⟩
    | plain hquote => exact absurd rfl hquote
  | plain hquote hback _ _ ih =>
    cases h' with
    | close => exact absurd rfl hquote
    | plain _ _ _ h' =>
      obtain ⟨rfl, rfl⟩ := ih h'
      exact ⟨rfl, rfl⟩
    | short => exact absurd rfl hback
    | unit => exact absurd rfl hback
    | pair => exact absurd rfl hback
  | short hescape _ ih =>
    cases h' with
    | plain _ hback => exact absurd rfl hback
    | short hescape' h' =>
      obtain ⟨rfl, rfl⟩ := ih h'
      obtain rfl := Option.some.inj (hescape.symm.trans hescape')
      exact ⟨rfl, rfl⟩
    | unit => cases hescape
    | pair => cases hescape
  | unit hunit hhigh _ _ ih =>
    cases h' with
    | plain _ hback => exact absurd rfl hback
    | short hescape => cases hescape
    | unit hunit' _ _ h' =>
      obtain ⟨rfl, rfl⟩ := ih h'
      obtain rfl := Option.some.inj (hunit.symm.trans hunit')
      exact ⟨rfl, rfl⟩
    | pair hunit' hhigh' =>
      obtain rfl := Option.some.inj (hunit.symm.trans hunit')
      exact absurd hhigh' hhigh
  | pair hunit hhigh hunit' _ _ ih =>
    cases h' with
    | plain _ hback => exact absurd rfl hback
    | short hescape => cases hescape
    | unit hother hnot =>
      obtain rfl := Option.some.inj (hunit.symm.trans hother)
      exact absurd hhigh hnot
    | pair hother _ hother' _ h' =>
      obtain ⟨rfl, rfl⟩ := ih h'
      obtain rfl := Option.some.inj (hunit.symm.trans hother)
      obtain rfl := Option.some.inj (hunit'.symm.trans hother')
      exact ⟨rfl, rfl⟩

theorem AreDigits.all_ofNumber {cs : List Char} (h : AreDigits cs) :
    ∀ c ∈ cs, isOfNumber c = true := by
  intro c hc
  simp [isOfNumber, h.2 c hc]

/-- Numbers are written with their own characters only. -/
theorem IsNumber.all_ofNumber {digits : List Char} (h : IsNumber digits) :
    ∀ c ∈ digits, isOfNumber c = true := by
  obtain ⟨hsign, hwhole, -, hfraction, hexponent⟩ := h
  simp only [List.forall_mem_append]
  refine ⟨⟨⟨?_, hwhole.all_ofNumber⟩, ?_⟩, ?_⟩
  · rcases hsign with rfl | rfl <;> simp [isOfNumber]
  · rcases hfraction with rfl | ⟨digits, hdigits, rfl⟩
    · exact nofun
    · exact List.forall_mem_cons.mpr ⟨by decide, hdigits.all_ofNumber⟩
  · rcases hexponent with rfl | ⟨mark, sign, digits, hmark, hsign, hdigits, rfl⟩
    · exact nofun
    · refine List.forall_mem_append.mpr ⟨List.forall_mem_cons.mpr ⟨?_, ?_⟩, hdigits.all_ofNumber⟩
      · rcases hmark with rfl | rfl <;> decide
      · rcases hsign with rfl | rfl | rfl <;> simp [isOfNumber]

theorem IsNumber.ne_nil {digits : List Char} (h : IsNumber digits) : digits ≠ [] := by
  obtain ⟨-, hwhole, -, -, -⟩ := h
  simp [hwhole.1]

/-- A number starts with one of its characters. -/
theorem IsNumber.not_append {c : Char} {cs digits rest : List Char} (h : IsNumber digits)
    (hcs : c :: cs = digits ++ rest) : isOfNumber c = true := by
  cases digits with
  | nil => exact absurd rfl h.ne_nil
  | cons d digits =>
    obtain ⟨rfl, -⟩ := List.cons.inj hcs
    exact h.all_ofNumber _ List.mem_cons_self

theorem takeWhile_number {digits rest : List Char} (h : IsNumber digits)
    (hrest : rest.head?.all (!isOfNumber ·) = true) :
    (digits ++ rest).takeWhile isOfNumber = digits
      ∧ (digits ++ rest).dropWhile isOfNumber = rest := by
  have hstop : rest.takeWhile isOfNumber = [] ∧ rest.dropWhile isOfNumber = rest := by
    cases rest with
    | nil => exact ⟨rfl, rfl⟩
    | cons c rest =>
      have hc : isOfNumber c = false := by simpa using hrest
      simp [hc]
  rw [List.takeWhile_append_of_pos h.all_ofNumber, List.dropWhile_append_of_pos h.all_ofNumber,
    hstop.1, hstop.2, List.append_nil]
  exact ⟨rfl, rfl⟩

/-- No value starts with a closing bracket. -/
theorem ReadsValue.ne_close {v : Reading} {c : Char} {cs rest : List Char}
    (h : ReadsValue v (c :: cs) rest) : c ≠ ']' := by
  rintro rfl
  cases h with
  | number hnumber hcs => exact absurd (hnumber.not_append hcs) (by decide)

mutual

theorem ReadsValue.unique {v : Reading} {cs rest : List Char} :
    ReadsValue v cs rest →
      ∀ {v' : Reading} {rest' : List Char}, ReadsValue v' cs rest' → v = v' ∧ rest = rest'
  | .null, _, _, h' => by
    cases h' with
    | null => exact ⟨rfl, rfl⟩
    | number hnumber hcs => exact absurd (hnumber.not_append hcs) (by decide)
  | .yes, _, _, h' => by
    cases h' with
    | yes => exact ⟨rfl, rfl⟩
    | number hnumber hcs => exact absurd (hnumber.not_append hcs) (by decide)
  | .no, _, _, h' => by
    cases h' with
    | no => exact ⟨rfl, rfl⟩
    | number hnumber hcs => exact absurd (hnumber.not_append hcs) (by decide)
  | .number hnumber hcs hrest, _, _, h' => by
    cases h' with
    | number hnumber' hcs' hrest' =>
      obtain ⟨htake, hdrop⟩ := takeWhile_number hnumber hrest
      obtain ⟨htake', hdrop'⟩ := takeWhile_number hnumber' hrest'
      rw [← hcs] at htake hdrop
      rw [← hcs'] at htake' hdrop'
      exact ⟨congrArg _ (htake.symm.trans htake'), hdrop.symm.trans hdrop'⟩
    | _ => exact absurd (hnumber.not_append hcs) (by decide)
  | .text htext, _, _, h' => by
    cases h' with
    | text htext' =>
      obtain ⟨rfl, rfl⟩ := htext.unique htext'
      exact ⟨rfl, rfl⟩
    | number hnumber hcs => exact absurd (hnumber.not_append hcs) (by decide)
  | .noItem hclose, _, _, h' => by
    cases h' with
    | noItem hclose' => exact ⟨rfl, (List.cons.inj (hclose.symm.trans hclose')).2⟩
    | list hitem _ =>
      rw [hclose] at hitem
      exact absurd rfl hitem.ne_close
    | number hnumber hcs => exact absurd (hnumber.not_append hcs) (by decide)
  | .list hitem hitems, _, _, h' => by
    cases h' with
    | noItem hclose =>
      rw [hclose] at hitem
      exact absurd rfl hitem.ne_close
    | list hitem' hitems' =>
      obtain ⟨rfl, rfl⟩ := hitem.unique hitem'
      obtain ⟨rfl, rfl⟩ := hitems.unique hitems'
      exact ⟨rfl, rfl⟩
    | number hnumber hcs => exact absurd (hnumber.not_append hcs) (by decide)
  | .noField hclose, _, _, h' => by
    cases h' with
    | noField hclose' => exact ⟨rfl, (List.cons.inj (hclose.symm.trans hclose')).2⟩
    | record hfield _ =>
      rw [hclose] at hfield
      cases hfield
    | number hnumber hcs => exact absurd (hnumber.not_append hcs) (by decide)
  | .record hfield hfields, _, _, h' => by
    cases h' with
    | noField hclose =>
      rw [hclose] at hfield
      cases hfield
    | record hfield' hfields' =>
      obtain ⟨rfl, rfl⟩ := hfield.unique hfield'
      obtain ⟨rfl, rfl⟩ := hfields.unique hfields'
      exact ⟨rfl, rfl⟩
    | number hnumber hcs => exact absurd (hnumber.not_append hcs) (by decide)

theorem ReadsItems.unique {vs : List Reading} {cs rest : List Char} :
    ReadsItems vs cs rest →
      ∀ {vs' : List Reading} {rest' : List Char}, ReadsItems vs' cs rest' → vs = vs' ∧ rest = rest'
  | .close, _, _, h' => by
    cases h' with
    | close => exact ⟨rfl, rfl⟩
  | .next hitem hitems, _, _, h' => by
    cases h' with
    | next hitem' hitems' =>
      obtain ⟨rfl, rfl⟩ := hitem.unique hitem'
      obtain ⟨rfl, rfl⟩ := hitems.unique hitems'
      exact ⟨rfl, rfl⟩

theorem ReadsField.unique {f : String × Reading} {cs rest : List Char} :
    ReadsField f cs rest →
      ∀ {f' : String × Reading} {rest' : List Char}, ReadsField f' cs rest' → f = f' ∧ rest = rest'
  | .intro hkey hcolon hvalue, _, _, h' => by
    cases h' with
    | intro hkey' hcolon' hvalue' =>
      obtain ⟨rfl, rfl⟩ := hkey.unique hkey'
      obtain ⟨-, rfl⟩ := List.cons.inj (hcolon.symm.trans hcolon')
      obtain ⟨rfl, rfl⟩ := hvalue.unique hvalue'
      exact ⟨rfl, rfl⟩

theorem ReadsFields.unique {fs : List (String × Reading)} {cs rest : List Char} :
    ReadsFields fs cs rest →
      ∀ {fs' : List (String × Reading)} {rest' : List Char}, ReadsFields fs' cs rest' →
        fs = fs' ∧ rest = rest'
  | .close, _, _, h' => by
    cases h' with
    | close => exact ⟨rfl, rfl⟩
  | .next hfield hfields, _, _, h' => by
    cases h' with
    | next hfield' hfields' =>
      obtain ⟨rfl, rfl⟩ := hfield.unique hfield'
      obtain ⟨rfl, rfl⟩ := hfields.unique hfields'
      exact ⟨rfl, rfl⟩

end

/-- A text stands for one value at most. -/
theorem Document.unique {text : String} {v v' : Reading} (h : Document text v)
    (h' : Document text v') : v = v' := by
  obtain ⟨rest, hvalue, -⟩ := h
  obtain ⟨rest', hvalue', -⟩ := h'
  exact (hvalue.unique hvalue').1

/-! ## What is written -/

mutual

/-- A value that is written, as it is read. -/
def reading : Json → Reading
  | null => .null
  | text s => .text s
  | list items => .list (readings items)
  | record fields => .record (fieldReadings fields)

/-- Items, as they are read. -/
def readings : List Json → List Reading
  | [] => []
  | item :: items => reading item :: readings items

/-- A field, as it is read. -/
def fieldReading : String × Json → String × Reading
  | (key, value) => (key, reading value)

/-- Fields, as they are read. -/
def fieldReadings : List (String × Json) → List (String × Reading)
  | [] => []
  | field :: fields => fieldReading field :: fieldReadings fields

end

theorem hexValue?_hexDigit : ∀ n < 16, hexValue? (Text.hexDigit n) = some n := by decide

/-- A control character is told by its number. -/
theorem codeUnit?_of_lt {n : Nat} (h : n < 0x20) :
    codeUnit? '0' '0' (Text.hexDigit (n / 16)) (Text.hexDigit (n % 16)) = some n := by
  have hzero : hexValue? '0' = some 0 := by decide
  rw [codeUnit?, hzero, hexValue?_hexDigit _ (by omega), hexValue?_hexDigit _ (by omega)]
  simp only [Option.pure_def, Option.bind_eq_bind, Option.bind_some, Option.some.injEq]
  omega

theorem readsText_escape {c : Char} {s cs rest : List Char} (h : ReadsText s cs rest) :
    ReadsText (c :: s) (escape c ++ cs) rest := by
  rw [escape]
  split
  · rename_i hc
    exact .short (by rw [hc]; decide) h
  split
  · rename_i hc
    exact .short (by rw [hc]; decide) h
  split
  · rename_i hc
    exact .short (by rw [hc]; decide) h
  split
  · rename_i hc
    exact .short (by rw [hc]; decide) h
  split
  · rename_i hc
    exact .short (by rw [hc]; decide) h
  split
  · rename_i hc
    exact .short (by rw [hc]; decide) h
  split
  · rename_i hc
    exact .short (by rw [hc]; decide) h
  rename_i hquote hback _ _ _ _ _
  split
  · rename_i hcontrol
    have hread := ReadsText.unit (codeUnit?_of_lt hcontrol) (by rw [IsHigh]; omega)
      (by rw [IsLow]; omega) h
    rwa [Char.ofNat_toNat] at hread
  · rename_i hprints
    exact .plain hquote hback (Nat.le_of_not_lt hprints) h

/-- A text in quotes is read as it was. -/
theorem readsText_quote (s rest : List Char) :
    ReadsText s (s.flatMap escape ++ '"' :: rest) rest := by
  induction s with
  | nil => exact .close
  | cons c s ih =>
    rw [List.flatMap_cons, List.append_assoc]
    exact readsText_escape ih

theorem skip_cons {c : Char} {cs : List Char} (h : isBlank c = false) : skip (c :: cs) = c :: cs :=
  List.dropWhile_cons_of_neg (by simp [h])

/-- Line breaks and what stands in front of a line do not count. -/
theorem skip_newLine (level : Nat) (cs : List Char) : skip (newLine level ++ cs) = skip cs := by
  have hblank : ∀ c ∈ newLine level, isBlank c = true := by
    refine List.forall_mem_cons.mpr ⟨by decide, fun c hc => ?_⟩
    rw [List.eq_of_mem_replicate hc]
    decide
  exact List.dropWhile_append_of_pos hblank

/-- A value starts where it is written. -/
theorem skip_prettyAt (level : Nat) (v : Json) (cs : List Char) :
    skip (prettyAt level v ++ cs) = prettyAt level v ++ cs := by
  cases v with
  | null => exact skip_cons (by decide)
  | text s => exact skip_cons (by decide)
  | list items => cases items <;> exact skip_cons (by decide)
  | record fields => cases fields <;> exact skip_cons (by decide)

mutual

theorem readsValue_prettyAt (level : Nat) :
    (v : Json) → (rest : List Char) → ReadsValue (reading v) (prettyAt level v ++ rest) rest
  | null, rest => .null
  | text s, rest => by
    have h := ReadsValue.text (readsText_quote s.toList rest)
    rw [String.ofList_toList] at h
    simpa [reading, prettyAt, quote] using h
  | list [], rest => .noItem (skip_cons (by decide))
  | list (item :: items), rest => by
    have hitem := readsValue_prettyAt (level + 1) item
      (prettyItems (level + 1) items ++ (newLine level ++ ']' :: rest))
    rw [← skip_prettyAt, ← skip_newLine (level + 1)] at hitem
    have h := ReadsValue.list hitem (readsItems_prettyItems level items rest)
    simpa [reading, readings, prettyAt] using h
  | record [], rest => .noField (skip_cons (by decide))
  | record (field :: fields), rest => by
    have hfield := readsField_prettyField (level + 1) field
      (prettyFields (level + 1) fields ++ (newLine level ++ '\x7d' :: rest))
    rw [← skip_newLine (level + 1)] at hfield
    have h := ReadsValue.record hfield (readsFields_prettyFields level fields rest)
    simpa [reading, fieldReadings, prettyAt] using h

theorem readsItems_prettyItems (level : Nat) :
    (items : List Json) → (rest : List Char) →
      ReadsItems (readings items)
        (skip (prettyItems (level + 1) items ++ (newLine level ++ ']' :: rest))) rest
  | [], rest => by
    rw [prettyItems, List.nil_append, skip_newLine, skip_cons (by decide)]
    exact .close
  | item :: items, rest => by
    have hitem := readsValue_prettyAt (level + 1) item
      (prettyItems (level + 1) items ++ (newLine level ++ ']' :: rest))
    rw [← skip_prettyAt, ← skip_newLine (level + 1)] at hitem
    have h := ReadsItems.next hitem (readsItems_prettyItems level items rest)
    rw [prettyItems, List.cons_append, List.cons_append, List.cons_append, skip_cons (by decide)]
    simpa [readings] using h

theorem readsField_prettyField (level : Nat) :
    (field : String × Json) → (rest : List Char) →
      ReadsField (fieldReading field) (skip (prettyField level field ++ rest)) rest
  | (key, value), rest => by
    have hvalue := readsValue_prettyAt level value rest
    rw [← skip_prettyAt] at hvalue
    have h := ReadsField.intro
      (readsText_quote key.toList (':' :: ' ' :: (prettyAt level value ++ rest)))
      (skip_cons (by decide)) hvalue
    rw [String.ofList_toList] at h
    rw [prettyField, quote, List.cons_append, List.cons_append, List.cons_append,
      skip_cons (by decide)]
    simpa [fieldReading] using h

theorem readsFields_prettyFields (level : Nat) :
    (fields : List (String × Json)) → (rest : List Char) →
      ReadsFields (fieldReadings fields)
        (skip (prettyFields (level + 1) fields ++ (newLine level ++ '\x7d' :: rest))) rest
  | [], rest => by
    rw [prettyFields, List.nil_append, skip_newLine, skip_cons (by decide)]
    exact .close
  | field :: fields, rest => by
    have hfield := readsField_prettyField (level + 1) field
      (prettyFields (level + 1) fields ++ (newLine level ++ '\x7d' :: rest))
    rw [← skip_newLine (level + 1)] at hfield
    have h := ReadsFields.next hfield (readsFields_prettyFields level fields rest)
    rw [prettyFields, List.cons_append, List.cons_append, List.cons_append, skip_cons (by decide)]
    simpa [fieldReadings] using h

end

/-- **What is written over several lines says what it was written for, and nothing else.** -/
theorem document_pretty_iff {v : Json} {w : Reading} : Document v.pretty w ↔ w = reading v := by
  have hdocument : Document v.pretty (reading v) := by
    refine ⟨[], ?_, rfl⟩
    have h := readsValue_prettyAt 0 v []
    rw [← skip_prettyAt, List.append_nil] at h
    rwa [pretty, String.toList_ofList]
  constructor
  · exact fun h => h.unique hdocument
  · rintro rfl
    exact hdocument

theorem reading_texts (items : List String) :
    reading (texts items) = .list (items.map .text) := by
  have hitems : readings (items.map .text) = items.map .text := by
    induction items with
    | nil => rfl
    | cons item items ih => simp [readings, reading, ih]
  rw [texts, reading, hitems]

/-- A list of texts is read as it was written. -/
theorem document_texts_iff {items : List String} {w : Reading} :
    Document (texts items).pretty w ↔ w = .list (items.map .text) := by
  rw [document_pretty_iff, reading_texts]

end Json
end ToolPack
