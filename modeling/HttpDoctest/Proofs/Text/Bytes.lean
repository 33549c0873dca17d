import HttpDoctest.Proofs.Text.Search

set_option autoImplicit false

/-! # Texts as bytes

In UTF-8 a text is found where its bytes are found. The first byte of a character is none of the
others of a character, and so the bytes of a text stand only behind those of whole characters
(`exists_encode_eq`). A search of the bytes then finds the bytes in front of the place that a search
of the characters finds (`isLeast_stands_encode`).
-/

namespace HttpDoctest.Text

/-- The bytes of a text in UTF-8. -/
def encode (text : List Char) : List UInt8 :=
  text.flatMap String.utf8EncodeChar

@[simp] theorem encode_nil : encode [] = [] := rfl

@[simp] theorem encode_cons (c : Char) (text : List Char) :
    encode (c :: text) = String.utf8EncodeChar c ++ encode text := rfl

@[simp] theorem encode_append (a b : List Char) : encode (a ++ b) = encode a ++ encode b :=
  List.flatMap_append

variable {text needle : List Char} {c d : Char} {i : Nat}

theorem length_encode (text : List Char) : (encode text).length = byteLength text := by
  induction text with
  | nil => rfl
  | cons c text ih =>
      rw [encode_cons, List.length_append, ih, String.length_utf8EncodeChar, byteLength_cons]

theorem utf8EncodeChar_of_lt (h : c.toNat < 128) :
    String.utf8EncodeChar c = [UInt8.ofNat c.toNat] := by
  have hsize : c.utf8Size = 1 := by
    rw [Char.utf8Size_eq_one_iff, UInt32.le_iff_toNat_le]
    exact Nat.le_of_lt_succ h
  rw [String.utf8EncodeChar_eq_singleton hsize]
  rfl

/-- The bytes of a character tell which one it is, whatever follows. -/
theorem utf8EncodeChar_append_inj {a b : List UInt8}
    (h : String.utf8EncodeChar c ++ a = String.utf8EncodeChar d ++ b) : c = d ∧ a = b := by
  have hchar : c = d := by
    refine Option.some.inj ?_
    calc some c
        = ByteArray.utf8DecodeChar? ((String.utf8EncodeChar c).toByteArray ++ a.toByteArray) 0 :=
          ByteArray.utf8DecodeChar?_utf8EncodeChar_append.symm
      _ = ByteArray.utf8DecodeChar? ((String.utf8EncodeChar d).toByteArray ++ b.toByteArray) 0 := by
          rw [← List.toByteArray_append, h, List.toByteArray_append]
      _ = some d := ByteArray.utf8DecodeChar?_utf8EncodeChar_append
  subst hchar
  exact ⟨rfl, List.append_cancel_left h⟩

theorem encode_eq_nil_iff : encode text = [] ↔ text = [] := by
  cases text with
  | nil => simp
  | cons c text => simp [String.utf8EncodeChar_ne_nil]

/-- A text is in front of another if its bytes are. -/
theorem prefix_of_encode_prefix (h : encode needle <+: encode text) : needle <+: text := by
  induction needle generalizing text with
  | nil => exact List.nil_prefix
  | cons c needle ih =>
      obtain ⟨rest, hrest⟩ := h
      cases text with
      | nil =>
          obtain ⟨hnil, -⟩ := List.append_eq_nil_iff.1 hrest
          cases encode_eq_nil_iff.1 hnil
      | cons d text =>
          rw [encode_cons, encode_cons, List.append_assoc] at hrest
          obtain ⟨hchar, hrest⟩ := utf8EncodeChar_append_inj hrest
          exact List.cons_prefix_cons.2 ⟨hchar, ih ⟨rest, hrest⟩⟩

theorem stands_encode (h : Stands needle text i) :
    Stands (encode needle) (encode text) (byteLength (text.take i)) := by
  obtain ⟨front, rest, rfl, rfl⟩ := h
  refine ⟨encode front, encode rest, by simp only [encode_append], ?_⟩
  rw [List.take_left, length_encode]

/-- Only the first byte of a character can start another one. -/
theorem eq_nil_of_utf8EncodeChar_eq {front back rest behind : List UInt8}
    (hd : String.utf8EncodeChar d = front ++ back) (hback : back ≠ [])
    (hc : back ++ rest = String.utf8EncodeChar c ++ behind) : front = [] := by
  obtain ⟨b, back, rfl⟩ := List.exists_cons_of_ne_nil hback
  obtain ⟨first, others, hbytes⟩ :=
    List.exists_cons_of_ne_nil (String.utf8EncodeChar_ne_nil (c := c))
  have hfirst : b = first := by
    rw [hbytes] at hc
    exact (List.cons.inj hc).1
  have hstart : b.IsUTF8FirstByte := by
    have hbound : 0 < (String.utf8EncodeChar c).length := by simp [hbytes]
    have hget : (String.utf8EncodeChar c)[0] = b := by simp [hbytes, hfirst]
    rw [← hget, UInt8.isUTF8FirstByte_getElem_utf8EncodeChar]
  have hbound : front.length < (String.utf8EncodeChar d).length := by simp [hd]
  have hget : (String.utf8EncodeChar d)[front.length] = b := by simp [hd]
  rw [← hget, UInt8.isUTF8FirstByte_getElem_utf8EncodeChar] at hstart
  exact List.length_eq_zero_iff.1 hstart

/-- What is in front of the bytes of a text is the bytes of whole characters. -/
theorem exists_encode_eq {front rest : List UInt8} (hneedle : needle ≠ [])
    (h : encode text = front ++ (encode needle ++ rest)) :
    ∃ start behind, text = start ++ behind ∧ encode start = front := by
  induction text generalizing front with
  | nil =>
      obtain ⟨-, hnil⟩ := List.append_eq_nil_iff.1 h.symm
      exact absurd (encode_eq_nil_iff.1 (List.append_eq_nil_iff.1 hnil).1) hneedle
  | cons d text ih =>
      rw [encode_cons] at h
      rcases List.append_eq_append_iff.1 h with ⟨front, rfl, htext⟩ | ⟨back, hd, hback⟩
      · obtain ⟨start, behind, rfl, rfl⟩ := ih htext
        exact ⟨d :: start, behind, rfl, rfl⟩
      · by_cases hnil : back = []
        · refine ⟨[d], text, rfl, ?_⟩
          rw [encode_cons, encode_nil, hd, hnil, List.append_nil, List.append_nil]
        · obtain ⟨c, needle, rfl⟩ := List.exists_cons_of_ne_nil hneedle
          rw [encode_cons, List.append_assoc] at hback
          exact ⟨[], d :: text, rfl, (eq_nil_of_utf8EncodeChar_eq hd hnil hback.symm).symm⟩

/-- Where the bytes of a text stand, there are whole characters in front of them, and behind those
stands the text. -/
theorem exists_stands_of_stands_encode {n : Nat} (hneedle : needle ≠ [])
    (h : Stands (encode needle) (encode text) n) :
    ∃ i, Stands needle text i ∧ byteLength (text.take i) = n := by
  obtain ⟨front, rest, htext, rfl⟩ := h
  obtain ⟨start, behind, rfl, rfl⟩ := exists_encode_eq hneedle htext
  rw [encode_append, List.append_cancel_left_eq] at htext
  obtain ⟨rest, rfl⟩ := prefix_of_encode_prefix ⟨_, htext.symm⟩
  refine ⟨start.length, ⟨start, rest, rfl, rfl⟩, ?_⟩
  rw [List.take_left, length_encode]

/-- There are more bytes in front of a later place. -/
theorem byteLength_take_le {k : Nat} (h : i ≤ k) :
    byteLength (text.take i) ≤ byteLength (text.take k) := by
  obtain ⟨behind, hbehind⟩ := List.take_prefix_take_left h (l := text)
  rw [← hbehind, byteLength_append]
  exact Nat.le_add_right _ _

/-- The bytes of a text are first found behind the bytes of what is in front of the place where the
text is first found. -/
theorem isLeast_stands_encode (h : IsLeast {k | Stands needle text k} i) :
    IsLeast {n | Stands (encode needle) (encode text) n} (byteLength (text.take i)) := by
  refine ⟨stands_encode h.1, fun n hn => ?_⟩
  by_cases hneedle : needle = []
  · obtain rfl : i = 0 := by
      refine Nat.le_zero.1 (h.2 (stands_zero.2 ?_))
      rw [hneedle]
      exact List.nil_prefix
    exact Nat.zero_le n
  · obtain ⟨k, hk, rfl⟩ := exists_stands_of_stands_encode hneedle hn
    exact byteLength_take_le (h.2 hk)

/-- The bytes of a text stand nowhere if the text does not. -/
theorem not_stands_encode (h : ∀ k, ¬Stands needle text k) (n : Nat) :
    ¬Stands (encode needle) (encode text) n := by
  intro hn
  have hneedle : needle ≠ [] := by
    rintro rfl
    exact h 0 (stands_zero.2 List.nil_prefix)
  obtain ⟨k, hk, -⟩ := exists_stands_of_stands_encode hneedle hn
  exact h k hk

end HttpDoctest.Text
