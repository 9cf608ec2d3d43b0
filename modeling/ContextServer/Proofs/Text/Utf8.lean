import ContextServer.Text.Utf8

/-!
# The bytes of texts

A text is what its bytes decode to (`Utf8.decode_toUTF8`), and no character but the line
feed has the byte of the line feed among its own (`Utf8.lineFeed_not_mem_toUTF8`): so bytes
can be cut into lines before they are decoded. Texts are in the same order by their bytes as
by their characters (`Utf8.precedes_iff_lt`).
-/

namespace ContextServer

namespace Utf8

theorem toList_loop_eq (bytes : ByteArray) (i : Nat) (before : List UInt8) :
    ByteArray.toList.loop bytes i before = before.reverse ++ bytes.data.toList.drop i := by
  fun_induction ByteArray.toList.loop bytes i before with
  | case1 i before h ih =>
    have hi : i < bytes.data.toList.length := h
    have hget : bytes.get! i = bytes.data.toList[i] := by
      rw [Array.getElem_toList]
      exact getElem!_pos bytes.data i h
    rw [ih, hget, List.drop_eq_getElem_cons hi, List.reverse_cons, List.append_assoc]
    rfl
  | case2 i before h =>
    have hi : bytes.data.toList.length ≤ i := Nat.le_of_not_lt h
    rw [List.drop_eq_nil_of_le hi, List.append_nil]

theorem toList_eq (bytes : ByteArray) : bytes.toList = bytes.data.toList := by
  rw [ByteArray.toList, toList_loop_eq]
  rfl

/-- Bytes put together one by one. -/
theorem foldl_push_toList (bytes : ByteArray) : bytes.toList.foldl .push .empty = bytes := by
  have hdata (before : ByteArray) (after : List UInt8) :
      (after.foldl .push before).data.toList = before.data.toList ++ after := by
    induction after generalizing before with
    | nil => rw [List.foldl_nil, List.append_nil]
    | cons b after ih =>
      rw [List.foldl_cons, ih, ByteArray.data_push, Array.toList_push, List.append_assoc,
        List.singleton_append]
  refine ByteArray.ext (Array.toList_inj.1 ?_)
  rw [hdata, toList_eq]
  rfl

/-- The bytes of a text are those of its characters. -/
theorem toList_toUTF8 (text : String) :
    text.toUTF8.toList = text.toList.flatMap String.utf8EncodeChar := by
  have hbytes : text.toUTF8 = text.toList.utf8Encode := by
    rw [← String.toByteArray_ofList, String.ofList_toList]
    rfl
  rw [hbytes, toList_eq]
  exact List.toList_data_toByteArray

theorem decode_toUTF8 (text : String) : decode text.toUTF8 = .ok text := by
  have hvalid : text.toUTF8.IsValidUTF8 := text.isValidUTF8
  rw [decode, String.fromUTF8?, dif_pos hvalid]
  rfl

/-! ## Line feeds -/

theorem lineFeed_ne_ofNat {n : Nat} (h : n % 256 ≠ 10) : (0x0A : UInt8) ≠ UInt8.ofNat n :=
  fun he => h (congrArg UInt8.toNat he).symm

/-- The bytes of a character that has more than one lie above those of the others. -/
theorem lineFeed_not_mem_utf8EncodeChar {c : Char} (hc : c ≠ '\n') :
    0x0A ∉ String.utf8EncodeChar c := by
  have hval : c.val.toNat ≠ 10 := fun he => hc (Char.ext (UInt32.toNat_inj.1 he))
  rw [String.utf8EncodeChar]
  split
  · simp only [List.mem_singleton]
    exact lineFeed_ne_ofNat (by omega)
  · split
    · simp only [List.mem_cons, List.not_mem_nil, or_false, not_or]
      exact ⟨lineFeed_ne_ofNat (by omega), lineFeed_ne_ofNat (by omega)⟩
    · split
      · simp only [List.mem_cons, List.not_mem_nil, or_false, not_or]
        exact ⟨lineFeed_ne_ofNat (by omega), lineFeed_ne_ofNat (by omega),
          lineFeed_ne_ofNat (by omega)⟩
      · simp only [List.mem_cons, List.not_mem_nil, or_false, not_or]
        exact ⟨lineFeed_ne_ofNat (by omega), lineFeed_ne_ofNat (by omega),
          lineFeed_ne_ofNat (by omega), lineFeed_ne_ofNat (by omega)⟩

theorem lineFeed_not_mem_toUTF8 {text : String} (h : '\n' ∉ text.toList) :
    0x0A ∉ text.toUTF8.toList := by
  rw [toList_toUTF8, List.mem_flatMap]
  rintro ⟨c, hc, hmem⟩
  exact lineFeed_not_mem_utf8EncodeChar (fun he => h (he ▸ hc)) hmem

/-! ## Order -/

/-- One text comes before another one in the order of their bytes. -/
def Precedes (a b : String) : Prop := a.toUTF8.toList < b.toUTF8.toList

section

variable {m n : Nat} {bs cs : List UInt8}

theorem cons_lt_of_lt (hmn : m < n) (hn : n < 256) : UInt8.ofNat m :: bs < UInt8.ofNat n :: cs := by
  refine List.cons_lt_cons_iff.2 (.inl ?_)
  rw [UInt8.lt_iff_toNat_lt, UInt8.toNat_ofNat_of_lt' (Nat.lt_trans hmn hn),
    UInt8.toNat_ofNat_of_lt' hn]
  exact hmn

theorem cons_lt_of_eq (hmn : m = n) (h : bs < cs) : UInt8.ofNat m :: bs < UInt8.ofNat n :: cs :=
  List.cons_lt_cons_iff.2 (.inr ⟨congrArg _ hmn, h⟩)

end

/-- The bytes of a character come before those of one with a larger code point, whatever
    follows them. -/
theorem utf8EncodeChar_lt {c d : Char} (h : c < d) (bs cs : List UInt8) :
    String.utf8EncodeChar c ++ bs < String.utf8EncodeChar d ++ cs := by
  have hlt : c.val.toNat < d.val.toNat := h
  have hmax : d.val.toNat < 0x110000 := by
    rcases d.valid with hd | hd
    · exact Nat.lt_trans hd (by decide)
    · exact hd.2
  simp only [String.utf8EncodeChar]
  generalize c.val.toNat = m at *
  generalize d.val.toNat = n at *
  -- If more bytes follow it, the first byte is larger. Of as many bytes, the first one that
  -- differs decides.
  by_cases h₁ : m ≤ 0x7F
  · rw [if_pos h₁]
    split
    · exact cons_lt_of_lt hlt (by omega)
    · split
      · exact cons_lt_of_lt (by omega) (by omega)
      · split <;> exact cons_lt_of_lt (by omega) (by omega)
  rw [if_neg h₁, if_neg (show ¬n ≤ 0x7F by omega)]
  by_cases h₂ : m ≤ 0x7FF
  · rw [if_pos h₂]
    split
    · rcases Nat.lt_or_ge (m / 64) (n / 64) with hhead | hhead
      · exact cons_lt_of_lt (by omega) (by omega)
      · exact cons_lt_of_eq (by omega) (cons_lt_of_lt (by omega) (by omega))
    · split <;> exact cons_lt_of_lt (by omega) (by omega)
  rw [if_neg h₂, if_neg (show ¬n ≤ 0x7FF by omega)]
  by_cases h₃ : m ≤ 0xFFFF
  · rw [if_pos h₃]
    split
    · rcases Nat.lt_or_ge (m / 4096) (n / 4096) with hhead | hhead
      · exact cons_lt_of_lt (by omega) (by omega)
      · refine cons_lt_of_eq (by omega) ?_
        rcases Nat.lt_or_ge (m / 64) (n / 64) with hnext | hnext
        · exact cons_lt_of_lt (by omega) (by omega)
        · exact cons_lt_of_eq (by omega) (cons_lt_of_lt (by omega) (by omega))
    · exact cons_lt_of_lt (by omega) (by omega)
  rw [if_neg h₃, if_neg (show ¬n ≤ 0xFFFF by omega)]
  rcases Nat.lt_or_ge (m / 262144) (n / 262144) with hhead | hhead
  · exact cons_lt_of_lt (by omega) (by omega)
  · refine cons_lt_of_eq (by omega) ?_
    rcases Nat.lt_or_ge (m / 4096) (n / 4096) with hnext | hnext
    · exact cons_lt_of_lt (by omega) (by omega)
    · refine cons_lt_of_eq (by omega) ?_
      rcases Nat.lt_or_ge (m / 64) (n / 64) with hlast | hlast
      · exact cons_lt_of_lt (by omega) (by omega)
      · exact cons_lt_of_eq (by omega) (cons_lt_of_lt (by omega) (by omega))

theorem flatMap_utf8EncodeChar_lt {cs ds : List Char} (h : cs < ds) :
    cs.flatMap String.utf8EncodeChar < ds.flatMap String.utf8EncodeChar := by
  induction cs generalizing ds with
  | nil =>
    cases ds with
    | nil => cases h
    | cons d ds =>
      obtain ⟨b, bs, hd⟩ := List.exists_cons_of_ne_nil (String.utf8EncodeChar_ne_nil (c := d))
      rw [List.flatMap_cons, hd]
      exact List.nil_lt_cons b _
  | cons c cs ih =>
    cases ds with
    | nil => cases h
    | cons d ds =>
      rw [List.flatMap_cons, List.flatMap_cons]
      rcases List.cons_lt_cons_iff.1 h with hlt | ⟨rfl, hlt⟩
      · exact utf8EncodeChar_lt hlt _ _
      · exact List.append_left_lt (ih hlt)

/-- Texts are ordered by their bytes as they are by their characters. -/
theorem precedes_iff_lt {a b : String} : Precedes a b ↔ a < b := by
  have hbytes {a b : String} (h : a < b) : Precedes a b := by
    rw [Precedes, toList_toUTF8, toList_toUTF8]
    exact flatMap_utf8EncodeChar_lt h
  refine ⟨fun h => ?_, hbytes⟩
  rcases Std.lt_trichotomy a b with hlt | rfl | hgt
  · exact hlt
  · exact absurd h (List.lt_irrefl _)
  · exact absurd (List.lt_trans h (hbytes hgt)) (List.lt_irrefl _)

end Utf8

end ContextServer
