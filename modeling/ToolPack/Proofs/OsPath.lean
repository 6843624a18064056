import ToolPack.OsPath
import ToolPack.Proofs.Text.Utf8

/-!
# Paths as texts and as bytes

What is done with a path that is a text can be done with its bytes: a slash and a dot are found in
the bytes where they are in the text, and nowhere else.  So on texts the two readings of a path
agree, and what the bytes are good for is the paths that are no texts.

## What is here

* `path?_eq_some_iff`, `isText_iff`: the paths that are texts;
* `isAbsolute_ofPath`, `append_ofPath`, `parentOrEmpty_ofPath`: joining and taking apart;
* `lossy_ofPath`: a text is shown as it is, and so `ofPath_lossy_iff`: what is shown for any other
  path is the text of another one;
* `isRooted_lossy`: what is shown for an absolute path is absolute.
-/

set_option autoImplicit false

namespace ToolPack
namespace OsPath

open Text

/-! ## Texts -/

theorem bytes_ofPath (path : Path) : (ofPath path).bytes = utf8Bytes path.text.toList :=
  (utf8Bytes_toList path.text).symm

@[simp] theorem path?_ofPath (path : Path) : (ofPath path).path? = some path := by
  have h : (ofPath path).bytes.toByteArray = path.text.toByteArray := by
    rw [bytes_ofPath, ← String.utf8Encode_toList]
    rfl
  rw [path?, h, String.fromUTF8?, dif_pos path.text.isValidUTF8]
  rfl

theorem path?_eq_some_iff {p : OsPath} {path : Path} : p.path? = some path ↔ p = ofPath path := by
  constructor
  · intro h
    obtain ⟨text, htext, rfl⟩ := Option.map_eq_some_iff.mp h
    rw [String.fromUTF8?] at htext
    split at htext
    · obtain rfl := Option.some.inj htext
      have hbytes : p.bytes = p.bytes.toByteArray.data.toList := by rw [List.data_toByteArray]
      exact congrArg OsPath.mk hbytes
    · cases htext
  · rintro rfl
    exact path?_ofPath path

theorem isText_iff {p : OsPath} : p.IsText ↔ ∃ path, p = ofPath path := by
  rw [IsText, Option.isSome_iff_exists]
  exact exists_congr fun path => path?_eq_some_iff

theorem isText_ofPath (path : Path) : (ofPath path).IsText := isText_iff.mpr ⟨path, rfl⟩

theorem ofPath_injective {path other : Path} (h : ofPath path = ofPath other) : path = other :=
  Option.some.inj (by rw [← path?_ofPath path, h, path?_ofPath])

@[simp] theorem lossy_ofPath (path : Path) : (ofPath path).lossy = path.text := by
  rw [lossy, bytes_ofPath, mended_utf8Bytes, String.ofList_toList]

/-- **What a path is shown as is the text of that path exactly if it is a text.** -/
theorem ofPath_lossy_iff {p : OsPath} : ofPath ⟨p.lossy⟩ = p ↔ p.IsText := by
  constructor
  · exact fun h => h ▸ isText_ofPath _
  · intro h
    obtain ⟨path, rfl⟩ := isText_iff.mp h
    rw [lossy_ofPath]

/-! ## Slashes in bytes -/

theorem utf8EncodeChar_slash : String.utf8EncodeChar '/' = [slash] := by decide

theorem utf8EncodeChar_dot : String.utf8EncodeChar '.' = [0x2E] := by decide

theorem eq_of_mem_utf8EncodeChar {c d : Char} {b : UInt8} (h : b ∈ String.utf8EncodeChar c)
    (hd : String.utf8EncodeChar d = [b]) (hb : b.toNat < 128) : c = d := by
  have hc := (eq_singleton_of_mem h hb).2
  have hd' := (eq_singleton_of_mem (c := d) (by rw [hd]; exact List.mem_singleton_self b) hb).2
  exact Char.toNat_inj.mp (hc.trans hd'.symm)

/-- A slash among the bytes of a character is that character. -/
theorem slash_mem_iff {c : Char} : slash ∈ String.utf8EncodeChar c ↔ c = '/' := by
  constructor
  · exact fun h => eq_of_mem_utf8EncodeChar h utf8EncodeChar_slash (by decide)
  · rintro rfl
    rw [utf8EncodeChar_slash]
    exact List.mem_singleton_self slash

theorem dot_mem_iff {c : Char} : 0x2E ∈ String.utf8EncodeChar c ↔ c = '.' := by
  constructor
  · exact fun h => eq_of_mem_utf8EncodeChar h utf8EncodeChar_dot (by decide)
  · rintro rfl
    rw [utf8EncodeChar_dot]
    exact List.mem_singleton_self _

/-- So the first byte of a character, from either end, tells whether it is a slash or a dot. -/
theorem exists_cons_of_perm {c : Char} {bytes : List UInt8}
    (h : bytes.Perm (String.utf8EncodeChar c)) :
    ∃ b more, bytes = b :: more ∧ (b = slash ↔ c = '/') ∧ (b = 0x2E ↔ c = '.') := by
  cases bytes with
  | nil => exact absurd h.symm.eq_nil String.utf8EncodeChar_ne_nil
  | cons b more =>
    have hmem : b ∈ String.utf8EncodeChar c := h.subset List.mem_cons_self
    refine ⟨b, more, rfl, ⟨?_, ?_⟩, ⟨?_, ?_⟩⟩
    · rintro rfl
      exact slash_mem_iff.mp hmem
    · rintro rfl
      rwa [utf8EncodeChar_slash, List.mem_singleton] at hmem
    · rintro rfl
      exact dot_mem_iff.mp hmem
    · rintro rfl
      rwa [utf8EncodeChar_dot, List.mem_singleton] at hmem

theorem head?_utf8Bytes_iff {cs : List Char} :
    (utf8Bytes cs).head? = some slash ↔ cs.head? = some '/' := by
  cases cs with
  | nil => exact ⟨nofun, nofun⟩
  | cons c cs =>
    obtain ⟨b, more, hbytes, hslash, -⟩ := exists_cons_of_perm (List.Perm.refl _)
    rw [utf8Bytes_cons, hbytes, List.cons_append, List.head?_cons, List.head?_cons,
      Option.some.injEq, Option.some.injEq]
    exact hslash

/-! ## Joining -/

theorem isAbsolute_ofPath (path : Path) : (ofPath path).isAbsolute = path.isAbsolute := by
  rw [isAbsolute, Path.isAbsolute, Path.isRooted, bytes_ofPath, Bool.eq_iff_iff, beq_iff_eq,
    beq_iff_eq]
  exact head?_utf8Bytes_iff

/-- The bytes of a row of characters that is read from its end. -/
def backBytes (cs : List Char) : List UInt8 :=
  cs.flatMap fun c => (String.utf8EncodeChar c).reverse

theorem reverse_utf8Bytes (cs : List Char) : (utf8Bytes cs).reverse = backBytes cs.reverse :=
  List.reverse_flatMap ..

theorem backBytes_cons (c : Char) (cs : List Char) :
    backBytes (c :: cs) = (String.utf8EncodeChar c).reverse ++ backBytes cs := List.flatMap_cons

theorem backBytes_slash (cs : List Char) : backBytes ('/' :: cs) = slash :: backBytes cs := by
  rw [backBytes_cons, utf8EncodeChar_slash]
  rfl

theorem backBytes_dot (cs : List Char) : backBytes ('.' :: cs) = 0x2E :: backBytes cs := by
  rw [backBytes_cons, utf8EncodeChar_dot]
  rfl

/-- Reading from the end, too, the first byte tells slashes and dots. -/
theorem exists_backBytes_cons (c : Char) (cs : List Char) :
    ∃ b more, backBytes (c :: cs) = b :: more ∧ (b = slash ↔ c = '/') ∧ (b = 0x2E ↔ c = '.') := by
  obtain ⟨b, more, hbytes, hb⟩ := exists_cons_of_perm (List.reverse_perm (String.utf8EncodeChar c))
  exact ⟨b, more ++ backBytes cs, by rw [backBytes_cons, hbytes, List.cons_append], hb⟩

theorem backBytes_eq_nil_iff {cs : List Char} : backBytes cs = [] ↔ cs = [] := by
  cases cs with
  | nil => exact iff_of_true rfl rfl
  | cons c cs =>
    obtain ⟨b, more, hbytes, -⟩ := exists_backBytes_cons c cs
    rw [hbytes]
    exact iff_of_false nofun nofun

theorem getLast?_utf8Bytes_iff {cs : List Char} :
    (utf8Bytes cs).getLast? = some slash ↔ cs.getLast? = some '/' := by
  rw [List.getLast?_eq_head?_reverse, List.getLast?_eq_head?_reverse, reverse_utf8Bytes]
  cases cs.reverse with
  | nil => exact ⟨nofun, nofun⟩
  | cons c cs =>
    obtain ⟨b, more, hbytes, hslash, -⟩ := exists_backBytes_cons c cs
    rw [hbytes, List.head?_cons, List.head?_cons, Option.some.injEq, Option.some.injEq]
    exact hslash

theorem ofPath_eq (path : Path) : ofPath path = ⟨utf8Bytes path.text.toList⟩ :=
  congrArg OsPath.mk (bytes_ofPath path)

theorem isEmpty_ofPath (path : Path) : (ofPath path).bytes.isEmpty = path.text.isEmpty := by
  rw [bytes_ofPath, Bool.eq_iff_iff, List.isEmpty_iff, String.isEmpty_iff,
    ← String.toList_eq_nil_iff, utf8Bytes, List.flatMap_eq_nil_iff]
  constructor
  · intro h
    by_contra hne
    obtain ⟨c, hc⟩ := List.exists_mem_of_ne_nil _ hne
    exact String.utf8EncodeChar_ne_nil (h c hc)
  · intro h c hc
    rw [h] at hc
    exact absurd hc List.not_mem_nil

/-- **Texts are joined as their bytes are.** -/
theorem append_ofPath (dir right : Path) :
    (ofPath dir).append (ofPath right) = ofPath (dir.append right) := by
  have hend : ((ofPath dir).bytes.getLast? == some slash) = Path.endsInSlash dir.text := by
    rw [Path.endsInSlash, bytes_ofPath, Bool.eq_iff_iff, beq_iff_eq, beq_iff_eq]
    exact getLast?_utf8Bytes_iff
  rw [append, Path.append, Path.join, isAbsolute_ofPath, hend, isEmpty_ofPath, Path.isAbsolute]
  split_ifs
  · rfl
  · rw [ofPath_eq ⟨dir.text ++ right.text⟩, bytes_ofPath, bytes_ofPath, String.toList_append,
      utf8Bytes_append]
  · rw [ofPath_eq ⟨dir.text ++ "/" ++ right.text⟩, bytes_ofPath, bytes_ofPath,
      String.toList_append, String.toList_append, utf8Bytes_append, utf8Bytes_append,
      List.append_assoc]
    rfl

theorem isAbsolute_append {dir : OsPath} (h : dir.isAbsolute = true) (right : OsPath) :
    (dir.append right).isAbsolute = true := by
  have hhead : ∀ more, (dir.bytes ++ more).head? = some slash := by
    intro more
    rw [List.head?_append, beq_iff_eq.mp h]
    rfl
  rw [append]
  split_ifs with hright
  · exact hright
  · exact beq_iff_eq.mpr (hhead _)
  · exact beq_iff_eq.mpr (hhead _)

/-! ## Parents -/

theorem trimEnd_of_ne {bytes : List UInt8} (hslash : ∀ rest, bytes ≠ 0x2F :: rest)
    (hdot : ∀ rest, bytes ≠ 0x2E :: 0x2F :: rest) : trimEnd bytes = bytes := by
  unfold trimEnd
  split
  · exact absurd rfl (hslash _)
  · exact absurd rfl (hdot _)
  · rfl

theorem trimEnd_backBytes (cs : List Char) :
    trimEnd (backBytes cs) = backBytes (Path.trimEnd cs) := by
  fun_induction Path.trimEnd cs with
  | case1 rest h =>
    obtain rfl := List.isEmpty_iff.mp h
    decide
  | case2 rest h ih =>
    have hne : backBytes rest ≠ [] := by
      rw [ne_eq, backBytes_eq_nil_iff, ← List.isEmpty_iff]
      exact h
    rw [backBytes_slash, slash, trimEnd, if_neg (by simpa using hne)]
    exact ih
  | case3 rest ih =>
    rw [backBytes_dot, backBytes_slash, slash, trimEnd]
    rw [backBytes_slash] at ih
    exact ih
  | case4 cs hslash hdot =>
    cases cs with
    | nil => rfl
    | cons c cs =>
      obtain ⟨b, more, hbytes, hb, hb'⟩ := exists_backBytes_cons c cs
      rw [hbytes]
      refine trimEnd_of_ne (fun rest h => ?_) fun rest h => ?_
      · obtain ⟨rfl, -⟩ := List.cons.inj h
        exact hslash cs (by rw [hb.mp rfl])
      · -- A dot is one byte, so the slash is the first one of what is before it.
        obtain ⟨rfl, hmore⟩ := List.cons.inj h
        obtain rfl := hb'.mp rfl
        rw [backBytes_dot, List.cons.injEq] at hbytes
        rw [← hbytes.2] at hmore
        cases cs with
        | nil => cases hmore
        | cons d cs =>
          obtain ⟨b, more, hbytes', hd, -⟩ := exists_backBytes_cons d cs
          rw [hbytes'] at hmore
          obtain rfl := hd.mp (List.cons.inj hmore).1
          exact hdot cs rfl

theorem dropWhile_backBytes (cs : List Char) :
    (backBytes cs).dropWhile (· != slash) = backBytes (cs.dropWhile (· != '/')) := by
  induction cs with
  | nil => rfl
  | cons c cs ih =>
    by_cases hc : c = '/'
    · subst hc
      rw [backBytes_slash]
      exact (backBytes_slash cs).symm
    · have hother : ∀ b ∈ (String.utf8EncodeChar c).reverse, (b != slash) = true := by
        intro b hb
        rw [bne_iff_ne]
        rintro rfl
        exact hc (slash_mem_iff.mp (List.mem_reverse.mp hb))
      rw [backBytes_cons, List.dropWhile_append_of_pos hother, ih, List.dropWhile_cons_of_pos]
      exact bne_iff_ne.mpr hc

theorem ofPath_reverse (cs : List Char) :
    (⟨(backBytes cs).reverse⟩ : OsPath) = ofPath ⟨String.ofList cs.reverse⟩ := by
  have h := reverse_utf8Bytes cs.reverse
  rw [List.reverse_reverse] at h
  rw [ofPath_eq, String.toList_ofList, ← h, List.reverse_reverse]

theorem backBytes_eq_singleton_iff {cs : List Char} : backBytes cs = [slash] ↔ cs = ['/'] := by
  constructor
  · intro h
    cases cs with
    | nil => cases h
    | cons c cs =>
      obtain ⟨b, more, hbytes, hb, -⟩ := exists_backBytes_cons c cs
      rw [hbytes] at h
      obtain rfl := hb.mp (List.cons.inj h).1
      rw [← hbytes, backBytes_slash] at h
      rw [backBytes_eq_nil_iff.mp (List.cons.inj h).2]
  · rintro rfl
    exact backBytes_slash []

theorem parent?_ofPath (path : Path) : (ofPath path).parent? = path.parent?.map ofPath := by
  rw [parent?, Path.parent?, bytes_ofPath, reverse_utf8Bytes, trimEnd_backBytes]
  generalize Path.trimEnd path.text.toList.reverse = cs
  simp only [backBytes_eq_nil_iff, backBytes_eq_singleton_iff]
  split_ifs with hnone
  · rcases hnone with rfl | rfl <;> rfl
  · rw [not_or] at hnone
    rw [dropWhile_backBytes, trimEnd_backBytes, ofPath_reverse]
    split
    · exact absurd rfl hnone.1
    · exact absurd rfl hnone.2
    · rfl

/-- **The parent of a text is a text, and the same one.** -/
theorem parentOrEmpty_ofPath (path : Path) :
    (ofPath path).parentOrEmpty = ofPath path.parentOrEmpty := by
  rw [parentOrEmpty, Path.parentOrEmpty, parent?_ofPath]
  cases path.parent? with
  | none => rfl
  | some parent => rfl

/-! ## What is shown -/

/-- What is shown for an absolute path is absolute. -/
theorem isRooted_lossy {p : OsPath} (h : p.isAbsolute = true) : Path.isRooted p.lossy = true := by
  rw [isAbsolute, beq_iff_eq] at h
  cases hbytes : p.bytes with
  | nil =>
    rw [hbytes] at h
    cases h
  | cons b bytes =>
    rw [hbytes] at h
    obtain rfl := Option.some.inj h
    rw [lossy, hbytes, mended, ← List.singleton_append, ← utf8EncodeChar_slash, utf8Pieces_append,
      List.map_cons, Path.isRooted, String.toList_ofList]
    rfl

end OsPath
end ToolPack
