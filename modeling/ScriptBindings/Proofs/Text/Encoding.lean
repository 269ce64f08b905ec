import ScriptBindings.Files.Publish

/-!
# The bytes of a text

A generated file holds its text in UTF-8.  This file relates the bytes to the characters.

* `bytesOfText_eq_flatMap` — the bytes of a text are those of its characters, one after the other.
* `bytesOfText_append`, `bytesOfText_injective` — so they follow the text, and tell which it was.
* `mem_bytesOfText_iff` — an ASCII character is found again as the byte of its code, and only there.
* `length_bytesOfText_eq_iff` — there are as many bytes as characters only in ASCII.

### What is load-bearing

Every byte of a character beyond ASCII is at least 128.  Hence a byte below that stands for itself
wherever it is met, and a quotation mark can be looked for among the bytes.
-/

namespace ScriptBindings

/-! ## Bytes of characters -/

/-- The loop that lists the bytes of an array, from a place in it. -/
theorem toList_loop_eq (bs : ByteArray) (i : Nat) (seen : List UInt8) :
    ByteArray.toList.loop bs i seen = seen.reverse ++ bs.data.toList.drop i := by
  fun_induction ByteArray.toList.loop bs i seen with
  | case1 i seen hlt ih =>
      have hi : i < bs.data.toList.length := by simpa using hlt
      have hbyte : bs.get! i = bs.data.toList[i] := by
        rw [ByteArray.get!, Array.getElem_toList]
        exact getElem!_pos bs.data i hlt
      rw [ih, List.drop_eq_getElem_cons hi, hbyte, List.reverse_cons, List.append_assoc,
        List.singleton_append]
  | case2 i seen hge =>
      have hi : bs.data.toList.length ≤ i := by simpa using hge
      rw [List.drop_eq_nil_of_le hi, List.append_nil]

theorem toByteArray_eq_utf8Encode (s : String) : s.toByteArray = s.toList.utf8Encode := by
  rw [← String.toByteArray_ofList, String.ofList_toList]

/-- **The bytes of a text** are those of its characters, one after the other. -/
theorem bytesOfText_eq_flatMap (s : String) :
    bytesOfText s = s.toList.flatMap String.utf8EncodeChar := by
  rw [bytesOfText, String.toUTF8_eq_toByteArray, toByteArray_eq_utf8Encode, ByteArray.toList,
    toList_loop_eq]
  simp [List.utf8Encode]

theorem bytesOfText_append (s t : String) :
    bytesOfText (s ++ t) = bytesOfText s ++ bytesOfText t := by
  simp only [bytesOfText_eq_flatMap, String.toList_append, List.flatMap_append]

/-- **No two texts** have the same bytes. -/
theorem bytesOfText_injective {s t : String} (h : bytesOfText s = bytesOfText t) : s = t := by
  rw [← String.toByteArray_inj, toByteArray_eq_utf8Encode, toByteArray_eq_utf8Encode,
    List.utf8Encode, List.utf8Encode, ← bytesOfText_eq_flatMap, h, bytesOfText_eq_flatMap]

/-! ## ASCII -/

/-- A character of ASCII is one byte, its code. -/
theorem utf8EncodeChar_of_ascii {c : Char} (h : c.toNat < 128) :
    String.utf8EncodeChar c = [UInt8.ofNat c.toNat] := by
  have hcode : c.val.toNat ≤ 127 := Nat.le_of_lt_succ h
  simp only [String.utf8EncodeChar, if_pos hcode, Char.toNat]

/-- **Every byte of another character** is at least 128. -/
theorem le_of_mem_utf8EncodeChar {c : Char} (h : 128 ≤ c.toNat) {byte : UInt8}
    (hbyte : byte ∈ String.utf8EncodeChar c) : 128 ≤ byte.toNat := by
  have hcode : ¬ c.val.toNat ≤ 127 := Nat.not_le.2 h
  simp only [String.utf8EncodeChar, if_neg hcode] at hbyte
  split at hbyte
  · simp only [List.mem_cons, List.not_mem_nil, or_false] at hbyte
    rcases hbyte with rfl | rfl <;> simp only [UInt8.toNat_ofNat'] <;> omega
  · split at hbyte
    · simp only [List.mem_cons, List.not_mem_nil, or_false] at hbyte
      rcases hbyte with rfl | rfl | rfl <;> simp only [UInt8.toNat_ofNat'] <;> omega
    · simp only [List.mem_cons, List.not_mem_nil, or_false] at hbyte
      rcases hbyte with rfl | rfl | rfl | rfl <;> simp only [UInt8.toNat_ofNat'] <;> omega

/-- **A character of ASCII** is in a text exactly if its code is among the bytes. -/
theorem mem_bytesOfText_iff {c : Char} (h : c.toNat < 128) (s : String) :
    UInt8.ofNat c.toNat ∈ bytesOfText s ↔ c ∈ s.toList := by
  have hvalue {n : Nat} (hn : n < 128) : (UInt8.ofNat n).toNat = n := by
    rw [UInt8.toNat_ofNat']
    omega
  rw [bytesOfText_eq_flatMap, List.mem_flatMap]
  constructor
  · rintro ⟨c', mem, hbyte⟩
    by_cases hc' : c'.toNat < 128
    · rw [utf8EncodeChar_of_ascii hc', List.mem_singleton] at hbyte
      have hcode : c.toNat = c'.toNat := by rw [← hvalue h, hbyte, hvalue hc']
      rwa [Char.toNat_inj.1 hcode]
    · have hbig := le_of_mem_utf8EncodeChar (Nat.not_lt.1 hc') hbyte
      rw [hvalue h] at hbig
      omega
  · intro mem
    exact ⟨c, mem, by rw [utf8EncodeChar_of_ascii h]; exact List.mem_singleton_self _⟩

/-! ## Lengths -/

theorem utf8Size_eq_one_iff {c : Char} : c.utf8Size = 1 ↔ c.toNat < 128 :=
  Char.utf8Size_eq_one_iff.trans Nat.lt_succ_iff.symm

/-- A character takes at least one byte. -/
theorem length_le_length_flatMap (cs : List Char) :
    cs.length ≤ (cs.flatMap String.utf8EncodeChar).length := by
  induction cs with
  | nil => exact Nat.le_refl 0
  | cons c cs ih =>
      have hpos := c.utf8Size_pos
      rw [List.flatMap_cons, List.length_append, String.length_utf8EncodeChar, List.length_cons]
      omega

/-- **A text has no more characters than bytes.** -/
theorem length_le_length_bytesOfText (s : String) : s.length ≤ (bytesOfText s).length := by
  rw [bytesOfText_eq_flatMap, ← String.length_toList]
  exact length_le_length_flatMap s.toList

/-- **A text has as many characters as bytes** exactly if it is ASCII. -/
theorem length_bytesOfText_eq_iff (s : String) :
    s.length = (bytesOfText s).length ↔ ∀ c ∈ s.toList, c.toNat < 128 := by
  rw [bytesOfText_eq_flatMap, ← String.length_toList]
  induction s.toList with
  | nil => simp
  | cons c cs ih =>
      have hpos := c.utf8Size_pos
      have hrest := length_le_length_flatMap cs
      rw [List.forall_mem_cons, ← ih, ← utf8Size_eq_one_iff, List.flatMap_cons, List.length_append,
        String.length_utf8EncodeChar, List.length_cons]
      omega

end ScriptBindings
