import MathNotes.Line.Scan
import MathNotes.Proofs.Line.Grammar

/-!
# Stored texts

A `Source` stores a text if its units are those of the characters one after another, if each mark of
a literal, a blank or a bracket, is a unit of its own that occurs in no other character, and if text
can be cut between characters (`Source.Stores`). Whoever looks for marks only then finds in the
units what is in the text, at the offset where the rest of the text begins (`place`).

* A string is stored in its bytes (`stores_bytes`): a byte that is a whole character in UTF-8 is not
  part of any other (`eq_of_mem_utf8EncodeChar`). A text is stored in its characters
  (`stores_characters`).

* To skip units is to skip characters (`Stores.skip_place`).
-/

namespace MathNotes.Line

open Literal

/-- The characters that a scan looks for: ASCII blanks and brackets. -/
def marks : Text := [' ', '\t', '\n', '\x0c', '\r', '[', ']']

section Offsets

variable {α : Type}

/-- How many units `s` takes, if each character takes those that `encode` gives. -/
def size (encode : Char → List α) (s : Text) : Nat := (s.flatMap encode).length

/-- The offset at which `rest`, an end of the text `s`, begins. -/
def place (encode : Char → List α) (s rest : Text) : Nat := size encode s - size encode rest

/-- A character of `s` begins at the offset `p`, or the text ends there. -/
def IsBoundary (encode : Char → List α) (s : Text) (p : Nat) : Prop :=
  ∃ rest, rest <:+ s ∧ p = place encode s rest

variable (encode : Char → List α) {s rest : Text}

theorem size_append (s t : Text) : size encode (s ++ t) = size encode s + size encode t := by
  rw [size, List.flatMap_append, List.length_append]
  rfl

theorem size_le_of_suffix (h : rest <:+ s) : size encode rest ≤ size encode s := by
  obtain ⟨t, rfl⟩ := h
  rw [size_append]
  exact Nat.le_add_left ..

/-- The text `t` in front of `rest` takes the units up to the place of `rest`. -/
theorem place_append (t : Text) : place encode (t ++ rest) rest = size encode t := by
  rw [place, size_append, Nat.add_sub_cancel]

/-- The text `t` takes the units between its own place and the place of what follows. -/
theorem place_add_size {t : Text} (h : t ++ rest <:+ s) :
    place encode s (t ++ rest) + size encode t = place encode s rest := by
  have hle := size_le_of_suffix encode h
  rw [size_append] at hle
  rw [place, place, size_append]
  omega

theorem place_self : place encode s s = 0 := Nat.sub_self _

theorem place_nil : place encode s [] = size encode s := rfl

theorem isBoundary_place (h : rest <:+ s) : IsBoundary encode s (place encode s rest) :=
  ⟨rest, h, rfl⟩

end Offsets

/-! ### What is asked of a source -/

/-- The source `src` stores the text `s`, each character in the units that `encode` gives. -/
structure Source.Stores {α : Type} (src : Source α) (encode : Char → List α) (s : Text) :
    Prop where
  toList_units : src.units.toList = s.flatMap encode
  encode_ne_nil : ∀ c, encode c ≠ []
  encode_mark : ∀ m ∈ marks, encode m = [src.ascii m]
  eq_of_mem_encode : ∀ m ∈ marks, ∀ c, src.ascii m ∈ encode c → c = m
  slice?_place : ∀ t rest, t ++ rest <:+ s →
    src.slice? (place encode s (t ++ rest)) (place encode s rest) = some t

theorem stores_characters (s : Text) : (Source.characters s).Stores (fun c => [c]) s where
  toList_units := by simp [Source.characters]
  encode_ne_nil := fun c => List.cons_ne_nil c []
  encode_mark := fun _ _ => rfl
  eq_of_mem_encode := fun m _ c h => (List.mem_singleton.mp h).symm
  slice?_place := by
    rintro t rest ⟨u, rfl⟩
    have hsize (v : Text) : size (fun c => [c]) v = v.length := by simp [size]
    have hstart : place (fun c => [c]) (u ++ (t ++ rest)) (t ++ rest) = u.length := by
      rw [place_append, hsize]
    have hstop : place (fun c => [c]) (u ++ (t ++ rest)) rest = u.length + t.length := by
      rw [← List.append_assoc, place_append, hsize, List.length_append]
    have hlength : (u ++ (t ++ rest)).length = u.length + (t.length + rest.length) := by
      rw [List.length_append, List.length_append]
    rw [hstart, hstop, Source.characters]
    dsimp only
    rw [if_pos (by omega), List.drop_take, List.drop_left, Nat.add_sub_cancel_left, List.take_left]

/-! ### Bytes -/

/-- A byte `b` that is a whole character in UTF-8 is not part of another character. It can be part
of a character only as its first byte, and the first character that bytes stand for is the same
whatever follows it. -/
theorem eq_of_mem_utf8EncodeChar {m c : Char} {b : UInt8} (hm : String.utf8EncodeChar m = [b])
    (h : b ∈ String.utf8EncodeChar c) : c = m := by
  have hfirst : b.IsUTF8FirstByte := by
    have hzero : 0 < (String.utf8EncodeChar m).length := by simp [hm]
    have hm0 : (String.utf8EncodeChar m)[0].IsUTF8FirstByte :=
      UInt8.isUTF8FirstByte_getElem_utf8EncodeChar.mpr rfl
    simpa [hm] using hm0
  obtain ⟨i, hi, hb⟩ := List.getElem_of_mem h
  obtain rfl : i = 0 := UInt8.isUTF8FirstByte_getElem_utf8EncodeChar.mp (hb ▸ hfirst)
  obtain ⟨d, tail, hc⟩ := List.exists_cons_of_ne_nil (String.utf8EncodeChar_ne_nil (c := c))
  obtain rfl : d = b := by simpa [hc] using hb
  have hsame : (String.utf8EncodeChar c).toByteArray ++ ByteArray.empty =
      (String.utf8EncodeChar m).toByteArray ++ tail.toByteArray := by
    rw [hc, hm, ByteArray.append_empty, ← List.toByteArray_append, List.singleton_append]
  have hread := ByteArray.utf8DecodeChar?_utf8EncodeChar_append (b := .empty) (c := c)
  rw [hsame, ByteArray.utf8DecodeChar?_utf8EncodeChar_append, Option.some.injEq] at hread
  exact hread.symm

/-- The `marks` are ASCII characters, so each is stored in one byte. -/
theorem encode_ascii (m : Char) (hm : m ∈ marks) : String.utf8EncodeChar m = [m.toUInt8] := by
  have hmarks : (marks.all fun m => String.utf8EncodeChar m = [m.toUInt8]) = true := by decide
  exact of_decide_eq_true (List.all_eq_true.mp hmarks m hm)

theorem size_utf8Encode (t : Text) : t.utf8Encode.size = size String.utf8EncodeChar t := by
  rw [List.utf8Encode, List.size_toByteArray, size]

/-- The string `s` can be cut at the places in it. -/
theorem isValid_of_isBoundary {s : String} {p : Nat}
    (h : IsBoundary String.utf8EncodeChar s.toList p) : String.Pos.Raw.IsValid s ⟨p⟩ := by
  obtain ⟨rest, ⟨t, ht⟩, rfl⟩ := h
  rw [String.Pos.Raw.isValid_iff_exists_append]
  refine ⟨String.ofList t, String.ofList rest, ?_, ?_⟩
  · rw [← String.ofList_append, ht, String.ofList_toList]
  · rw [← ht, place_append, ← size_utf8Encode, ← String.toByteArray_ofList]
    rfl

/-- Between the places of `t` and of what follows it are the bytes of `t`. -/
theorem extract_place {s : String} {t rest : Text} (h : t ++ rest <:+ s.toList) :
    s.toByteArray.extract (place String.utf8EncodeChar s.toList (t ++ rest))
      (place String.utf8EncodeChar s.toList rest) = t.utf8Encode := by
  obtain ⟨u, hs⟩ := h
  rw [← place_add_size _ ⟨u, hs⟩, ← hs, place_append, ← String.utf8Encode_toList, ← hs,
    List.utf8Encode_append, List.utf8Encode_append, ← size_utf8Encode, ← size_utf8Encode,
    ← Nat.add_zero u.utf8Encode.size, Nat.add_assoc, Nat.zero_add,
    ByteArray.extract_append_size_add, ByteArray.extract_append_eq_left rfl]

theorem stores_bytes (s : String) :
    (Source.bytes s).Stores String.utf8EncodeChar s.toList where
  toList_units := by
    obtain ⟨t, rfl⟩ := s.exists_eq_ofList
    rw [Source.bytes, String.toByteArray_ofList, String.toList_ofList, List.utf8Encode,
      List.data_toByteArray]
  encode_ne_nil := fun _ => String.utf8EncodeChar_ne_nil
  encode_mark := encode_ascii
  eq_of_mem_encode := fun m hm c h => eq_of_mem_utf8EncodeChar (encode_ascii m hm) h
  slice?_place := by
    intro t rest h
    have hstart := isValid_of_isBoundary (isBoundary_place _ h)
    have hstop := isValid_of_isBoundary (isBoundary_place _ ((List.suffix_append t rest).trans h))
    have hle := Nat.le.intro (place_add_size String.utf8EncodeChar h)
    have hextract : s.extract ⟨_, hstart⟩ ⟨_, hstop⟩ = String.ofList t := by
      rw [← String.toByteArray_inj, String.toByteArray_ofList]
      exact extract_place h
    rw [Source.bytes]
    dsimp only
    rw [dif_pos ⟨hstart, hstop, hle⟩, hextract, String.toList_ofList]

/-! ### Looking at units -/

namespace Source.Stores

variable {α : Type} {src : Source α} {encode : Char → List α} {s v : Text} {a : α} {c m : Char}

/-- In the units of a character `c` there is that of a mark `m` only if `c` is `m`. -/
theorem eq_ascii_iff (h : src.Stores encode s) (hm : m ∈ marks) (ha : a ∈ encode c) :
    a = src.ascii m ↔ c = m := by
  constructor
  · rintro rfl
    exact h.eq_of_mem_encode m hm c ha
  · rintro rfl
    rw [h.encode_mark c hm] at ha
    exact List.mem_singleton.mp ha

/-- A mark takes one unit, so what follows it is one offset further on. -/
theorem place_mark_add_one (h : src.Stores encode s) (hm : m ∈ marks) (hv : m :: v <:+ s) :
    place encode s (m :: v) + 1 = place encode s v := by
  rw [← place_add_size encode (t := [m]) hv, size, List.flatMap_singleton, h.encode_mark m hm]
  rfl

/-- The places in a text have the order of their texts: the shorter one of two ends is further
on. -/
theorem place_lt_place {w : Text} (h : src.Stores encode s) (hv : v <:+ s) (hw : w <:+ v)
    (hlt : w.length < v.length) : place encode s v < place encode s w := by
  obtain ⟨u, rfl⟩ := hw
  obtain ⟨c, u, rfl⟩ : ∃ c t, u = c :: t := by
    refine List.exists_cons_of_ne_nil ?_
    rintro rfl
    exact absurd hlt (Nat.lt_irrefl _)
  have hpos : 0 < (encode c).length := List.length_pos_iff.mpr (h.encode_ne_nil c)
  rw [← place_add_size encode hv, size, List.flatMap_cons, List.length_append]
  omega

theorem size_units (h : src.Stores encode s) : src.units.size = place encode s [] := by
  rw [← Array.length_toList, h.toList_units, place_nil, size]

theorem drop_place (h : src.Stores encode s) (hv : v <:+ s) :
    src.units.toList.drop (place encode s v) = v.flatMap encode := by
  obtain ⟨u, rfl⟩ := hv
  rw [h.toList_units, place_append, List.flatMap_append, size, List.drop_left]

theorem getElem?_place (h : src.Stores encode s) (hv : v <:+ s) :
    src.units[place encode s v]? = (v.flatMap encode).head? := by
  rw [← h.drop_place hv, List.head?_drop, Array.getElem?_toList]

/-- The unit at the place of `c :: v` is one of those of `c`. -/
theorem exists_getElem?_place_cons (h : src.Stores encode s) (hv : c :: v <:+ s) :
    ∃ a ∈ encode c, src.units[place encode s (c :: v)]? = some a := by
  obtain ⟨a, others, hc⟩ := List.exists_cons_of_ne_nil (h.encode_ne_nil c)
  refine ⟨a, by rw [hc]; exact List.mem_cons_self .., ?_⟩
  rw [h.getElem?_place hv, List.flatMap_cons, hc]
  rfl

/-- At the place of `v` the unit of a mark `m` is seen iff `v` begins with `m`. -/
theorem getElem?_place_eq_ascii_iff (h : src.Stores encode s) (hm : m ∈ marks) (hv : v <:+ s) :
    src.units[place encode s v]? = some (src.ascii m) ↔ v.head? = some m := by
  cases v with
  | nil => simp [h.getElem?_place hv]
  | cons c v =>
    obtain ⟨a, ha, hget⟩ := h.exists_getElem?_place_cons hv
    rw [hget, List.head?_cons, Option.some.injEq, Option.some.injEq, h.eq_ascii_iff hm ha]

/-- Skipping goes on as long as there are units that satisfy `p`, as `List.takeWhile` does. -/
theorem skip_eq (p : α → Bool) (pos : Nat) :
    src.skip p pos = pos + ((src.units.toList.drop pos).takeWhile p).length := by
  have drop_of_lt {pos : Nat} (h : pos < src.units.size) :
      src.units.toList.drop pos = src.units[pos] :: src.units.toList.drop (pos + 1) :=
    List.drop_eq_getElem_cons (by simpa using h)
  fun_induction skip src p pos with
  | case1 pos hlt hp ih =>
    rw [ih, drop_of_lt hlt, List.takeWhile_cons, if_pos hp, List.length_cons]
    omega
  | case2 pos hlt hp =>
    rw [drop_of_lt hlt, List.takeWhile_cons, if_neg hp]
    rfl
  | case3 pos hlt =>
    rw [List.drop_eq_nil_of_le (by simpa using hlt)]
    rfl

/-- The units at the front that satisfy `p` are those of the characters at the front that satisfy
`q`, if `p` says of all units of a character what `q` says of the character. -/
theorem takeWhile_flatMap {p : α → Bool} {q : Char → Bool} (hne : ∀ c, encode c ≠ [])
    (hpq : ∀ c, ∀ a ∈ encode c, p a = q c) (v : Text) :
    (v.flatMap encode).takeWhile p = (v.takeWhile q).flatMap encode := by
  induction v with
  | nil => rfl
  | cons c v ih =>
    by_cases hc : q c = true
    · have hall : ∀ a ∈ encode c, p a = true := fun a ha => (hpq c a ha).trans hc
      rw [List.flatMap_cons, List.takeWhile_append_of_pos hall, ih, List.takeWhile_cons, if_pos hc,
        List.flatMap_cons]
    · obtain ⟨a, others, henc⟩ := List.exists_cons_of_ne_nil (hne c)
      have ha : ¬ p a = true := by rwa [hpq c a (by rw [henc]; exact List.mem_cons_self ..)]
      rw [List.flatMap_cons, henc, List.cons_append, List.takeWhile_cons, if_neg ha,
        List.takeWhile_cons, if_neg hc]
      rfl

/-- To `skip` the units of characters is to drop the characters, if `p` says of all units of a
character what `q` says of the character. -/
theorem skip_place {p : α → Bool} {q : Char → Bool} (h : src.Stores encode s)
    (hpq : ∀ c, ∀ a ∈ encode c, p a = q c) (hv : v <:+ s) :
    src.skip p (place encode s v) = place encode s (v.dropWhile q) := by
  have hsplit : v.takeWhile q ++ v.dropWhile q = v := List.takeWhile_append_dropWhile
  rw [skip_eq, h.drop_place hv, takeWhile_flatMap h.encode_ne_nil hpq]
  have hplace := place_add_size encode (hsplit.symm ▸ hv)
  rwa [hsplit] at hplace

variable [DecidableEq α]

theorem isBlank_eq (h : src.Stores encode s) (ha : a ∈ encode c) :
    src.isBlank a = isAsciiBlank c := by
  have hmark {m : Char} (hm : m ∈ marks) : (a = src.ascii m) = (c = m) :=
    propext (h.eq_ascii_iff hm ha)
  simp only [isBlank, List.any_cons, List.any_nil, Bool.or_false, isAsciiBlank, Bool.or_assoc,
    hmark (m := ' ') (by decide), hmark (m := '\t') (by decide), hmark (m := '\n') (by decide),
    hmark (m := '\x0c') (by decide), hmark (m := '\r') (by decide)]

theorem not_endsCell_eq (h : src.Stores encode s) (ha : a ∈ encode c) :
    (!src.endsCell a) = isCellChar c := by
  have hopen : (a = src.ascii '[') = (c = '[') := propext (h.eq_ascii_iff (by decide) ha)
  have hclose : (a = src.ascii ']') = (c = ']') := propext (h.eq_ascii_iff (by decide) ha)
  simp only [endsCell, h.isBlank_eq ha, hopen, hclose, isCellChar, Bool.not_or, ne_eq, decide_not]

theorem skip_blanks (h : src.Stores encode s) (hv : v <:+ s) :
    src.skip src.isBlank (place encode s v) = place encode s (v.dropWhile isAsciiBlank) :=
  h.skip_place (fun _ _ => h.isBlank_eq) hv

theorem skip_cell (h : src.Stores encode s) (hv : v <:+ s) :
    src.skip (fun a => !src.endsCell a) (place encode s v) =
      place encode s (v.dropWhile isCellChar) :=
  h.skip_place (fun _ _ => h.not_endsCell_eq) hv

/-- What `find` skips from the place of `v` on is what stands there before a bracket. -/
theorem skip_to_bracket (h : src.Stores encode s) (hv : v <:+ s) :
    src.skip (· ≠ src.ascii '[') (place encode s v) = place encode s (v.dropWhile (· ≠ '[')) := by
  refine h.skip_place (fun c a ha => ?_) hv
  exact decide_eq_decide.mpr (not_congr (h.eq_ascii_iff (by decide) ha))

end Source.Stores

end MathNotes.Line
