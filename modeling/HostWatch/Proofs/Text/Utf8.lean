import Mathlib.Tactic.ByContra
import Mathlib.Tactic.SplitIfs
import HostWatch.Text.Utf8
set_option autoImplicit false

/-!
# Text: UTF-8 is read back

The bytes of a text are read as the text (`decode?_toUTF8`).  The argument goes character by
character: the first byte says how many bytes follow and which bounds the next one keeps
(`lead?_of_three`, `lead?_of_four`), every further byte adds six bits
(`finishChar_continuation`), and what comes after the character does not matter
(`pieces_utf8EncodeChar_append`).

Bytes that are no text can be cut as well, at a line feed: no character, whole or broken off,
reaches beyond it, so that the pieces before it and the pieces after it are read apart
(`pieces_append_lineFeed`).  No other byte is read as a line feed, because no character has a
second form that is longer, and so the lines of bytes are read apart (`splitOn_decodeLossy`).
-/

namespace HostWatch.Text

/-! ## Pieces -/

theorem pieces_nil : pieces [] = [] := by
  rw [pieces]

theorem pieces_of_firstPiece {b : UInt8} {bs rest : List UInt8} {p : Option Char}
    (h : firstPiece b bs = (p, rest)) : pieces (b :: bs) = p :: pieces rest := by
  rw [pieces, h]

theorem finishChar_zero (low high : UInt8) (bits : Nat) (bs : List UInt8) :
    finishChar 0 low high bits bs = (some (Char.ofNat bits), bs) := by
  cases bs <;> rfl

theorem finishChar_of_refused {following : Nat} {low high b : UInt8} (bits : Nat)
    (bs : List UInt8) (hmore : following ≠ 0) (h : b < low) :
    finishChar following low high bits (b :: bs) = (none, b :: bs) := by
  rw [finishChar, if_neg hmore, if_neg]
  rw [Bool.and_eq_true, decide_eq_true_iff]
  exact fun hboth => absurd hboth.1 (UInt8.not_le.2 h)

/-! ## Reading back one character -/

/-- The byte that continues a character with the last six bits of a number. -/
def continuation (n : Nat) : UInt8 := UInt8.ofNat (n % 64 + 0x80)

theorem toNat_continuation (n : Nat) : (continuation n).toNat = n % 64 + 0x80 := by
  rw [continuation, UInt8.toNat_ofNat']
  omega

theorem finishChar_continuation {low high : UInt8} (following bits n : Nat) (bs : List UInt8)
    (hlow : low.toNat ≤ n % 64 + 0x80) (hhigh : n % 64 + 0x80 ≤ high.toNat) :
    finishChar (following + 1) low high bits (continuation n :: bs) =
      finishChar following 0x80 0xBF (bits * 64 + n % 64) bs := by
  have hnat := toNat_continuation n
  have hlow' : low ≤ continuation n := by
    rw [UInt8.le_iff_toNat_le, hnat]
    exact hlow
  have hhigh' : continuation n ≤ high := by
    rw [UInt8.le_iff_toNat_le, hnat]
    exact hhigh
  rw [finishChar, if_neg (Nat.succ_ne_zero _), if_pos (by simp [hlow', hhigh']), hnat,
    Nat.add_sub_cancel, Nat.add_sub_cancel]

theorem finishChar_tail (following bits n : Nat) (bs : List UInt8) :
    finishChar (following + 1) 0x80 0xBF bits (continuation n :: bs) =
      finishChar following 0x80 0xBF (bits * 64 + n % 64) bs := by
  refine finishChar_continuation following bits n bs (Nat.le_add_left _ _) ?_
  show n % 64 + 0x80 ≤ 0xBF
  omega

theorem le_toNat_of_lead? {b : UInt8} {l : Lead} (h : lead? b = some l) : 0x80 ≤ b.toNat := by
  by_contra hsmall
  have hnone : lead? b = none := by
    simp only [lead?]
    rw [if_neg (by simp; omega), if_neg (by omega), if_neg (by omega), if_neg (by simp; omega),
      if_neg (by omega), if_neg (by omega), if_neg (by simp; omega)]
  rw [hnone] at h
  cases h

theorem firstPiece_of_lead? {b : UInt8} {l : Lead} (h : lead? b = some l) (bs : List UInt8) :
    firstPiece b bs = finishChar l.following l.low l.high l.bits bs := by
  have hnot : ¬ b < 0x80 := by
    rw [UInt8.lt_iff_toNat_lt]
    exact Nat.not_lt.2 (le_toNat_of_lead? h)
  rw [firstPiece, if_neg hnot, h]

theorem firstPiece_one {n : Nat} (h : n ≤ 0x7F) (bs : List UInt8) :
    firstPiece (UInt8.ofNat n) bs = (some (Char.ofNat n), bs) := by
  have hnat : (UInt8.ofNat n).toNat = n := by
    rw [UInt8.toNat_ofNat']
    omega
  have hascii : UInt8.ofNat n < 0x80 := by
    rw [UInt8.lt_iff_toNat_lt, hnat]
    exact Nat.lt_succ_of_le h
  rw [firstPiece, if_pos hascii, hnat]

theorem lead?_of_two {n : Nat} (hlow : 0x7F < n) (hhigh : n ≤ 0x7FF) :
    lead? (UInt8.ofNat (n / 64 % 32 + 0xC0)) = some ⟨1, 0x80, 0xBF, n / 64⟩ := by
  have hnat : (UInt8.ofNat (n / 64 % 32 + 0xC0)).toNat = n / 64 + 0xC0 := by
    rw [UInt8.toNat_ofNat']
    omega
  simp only [lead?, hnat]
  rw [if_pos (by simp; omega), Nat.add_sub_cancel]

theorem firstPiece_two {n : Nat} (hlow : 0x7F < n) (hhigh : n ≤ 0x7FF) (bs : List UInt8) :
    firstPiece (UInt8.ofNat (n / 64 % 32 + 0xC0)) (continuation n :: bs) =
      (some (Char.ofNat n), bs) := by
  rw [firstPiece_of_lead? (lead?_of_two hlow hhigh), finishChar_tail, finishChar_zero,
    Nat.div_add_mod']

/-- The second of three bytes is bounded from below after the least lead, so that two bytes do
not do, and from above where the surrogates begin. -/
theorem lead?_of_three {n : Nat} (hlow : 0x7FF < n) (hhigh : n ≤ 0xFFFF)
    (hvalid : n.isValidChar) :
    ∃ low high : UInt8,
      lead? (UInt8.ofNat (n / 4096 % 16 + 0xE0)) = some ⟨2, low, high, n / 4096⟩ ∧
        low.toNat ≤ n / 64 % 64 + 0x80 ∧ n / 64 % 64 + 0x80 ≤ high.toNat := by
  have hnat : (UInt8.ofNat (n / 4096 % 16 + 0xE0)).toNat = n / 4096 + 0xE0 := by
    rw [UInt8.toNat_ofNat']
    omega
  simp only [lead?, hnat]
  rw [if_neg (by simp)]
  simp only [Nat.isValidChar] at hvalid
  by_cases hleast : n / 4096 = 0
  · refine ⟨0xA0, 0xBF, by simp [hleast], ?_, ?_⟩ <;> simp <;> omega
  by_cases hsurrogate : n / 4096 = 13
  · refine ⟨0x80, 0x9F, by simp [hsurrogate], by simp, ?_⟩
    simp
    omega
  · refine ⟨0x80, 0xBF, ?_, by simp, ?_⟩
    · rw [if_neg (by omega), if_neg (by omega), if_pos (by simp; omega), Nat.add_sub_cancel]
    · simp
      omega

theorem firstPiece_three {n : Nat} (hlow : 0x7FF < n) (hhigh : n ≤ 0xFFFF)
    (hvalid : n.isValidChar) (bs : List UInt8) :
    firstPiece (UInt8.ofNat (n / 4096 % 16 + 0xE0))
        (continuation (n / 64) :: continuation n :: bs) = (some (Char.ofNat n), bs) := by
  obtain ⟨low, high, hlead, hfrom, hto⟩ := lead?_of_three hlow hhigh hvalid
  have hbits : (n / 4096 * 64 + n / 64 % 64) * 64 + n % 64 = n := by omega
  rw [firstPiece_of_lead? hlead, finishChar_continuation _ _ _ _ hfrom hto, finishChar_tail,
    finishChar_zero, hbits]

/-- The second of four bytes is bounded from below after the least lead, so that three bytes do
not do, and from above where the characters end. -/
theorem lead?_of_four {n : Nat} (hlow : 0xFFFF < n) (hhigh : n ≤ 0x10FFFF) :
    ∃ low high : UInt8,
      lead? (UInt8.ofNat (n / 262144 % 8 + 0xF0)) = some ⟨3, low, high, n / 262144⟩ ∧
        low.toNat ≤ n / 4096 % 64 + 0x80 ∧ n / 4096 % 64 + 0x80 ≤ high.toNat := by
  have hnat : (UInt8.ofNat (n / 262144 % 8 + 0xF0)).toNat = n / 262144 + 0xF0 := by
    rw [UInt8.toNat_ofNat']
    omega
  simp only [lead?, hnat]
  rw [if_neg (by simp), if_neg (by omega), if_neg (by omega), if_neg (by simp)]
  by_cases hleast : n / 262144 = 0
  · refine ⟨0x90, 0xBF, by simp [hleast], ?_, ?_⟩ <;> simp <;> omega
  by_cases hlast : n / 262144 = 4
  · refine ⟨0x80, 0x8F, by simp [hlast], by simp, ?_⟩
    simp
    omega
  · refine ⟨0x80, 0xBF, ?_, by simp, ?_⟩
    · rw [if_neg (by omega), if_neg (by omega), if_pos (by simp; omega), Nat.add_sub_cancel]
    · simp
      omega

theorem firstPiece_four {n : Nat} (hlow : 0xFFFF < n) (hhigh : n ≤ 0x10FFFF) (bs : List UInt8) :
    firstPiece (UInt8.ofNat (n / 262144 % 8 + 0xF0))
        (continuation (n / 4096) :: continuation (n / 64) :: continuation n :: bs) =
      (some (Char.ofNat n), bs) := by
  obtain ⟨low, high, hlead, hfrom, hto⟩ := lead?_of_four hlow hhigh
  have hbits : ((n / 262144 * 64 + n / 4096 % 64) * 64 + n / 64 % 64) * 64 + n % 64 = n := by
    omega
  rw [firstPiece_of_lead? hlead, finishChar_continuation _ _ _ _ hfrom hto, finishChar_tail,
    finishChar_tail, finishChar_zero, hbits]

/-- **A character** is read back from its bytes, whatever comes after them. -/
theorem pieces_utf8EncodeChar_append (c : Char) (bs : List UInt8) :
    pieces (String.utf8EncodeChar c ++ bs) = some c :: pieces bs := by
  have hvalid : c.val.toNat.isValidChar := c.valid
  have hback : Char.ofNat c.val.toNat = c := Char.ofNat_toNat c
  unfold String.utf8EncodeChar
  generalize c.val.toNat = n at hvalid hback ⊢
  subst hback
  by_cases hone : n ≤ 0x7F
  · rw [if_pos hone]
    exact pieces_of_firstPiece (firstPiece_one hone bs)
  rw [if_neg hone]
  by_cases htwo : n ≤ 0x7FF
  · rw [if_pos htwo]
    exact pieces_of_firstPiece (firstPiece_two (Nat.not_le.1 hone) htwo bs)
  rw [if_neg htwo]
  by_cases hthree : n ≤ 0xFFFF
  · rw [if_pos hthree]
    exact pieces_of_firstPiece (firstPiece_three (Nat.not_le.1 htwo) hthree hvalid bs)
  have hhigh : n ≤ 0x10FFFF := by
    simp only [Nat.isValidChar] at hvalid
    omega
  rw [if_neg hthree]
  exact pieces_of_firstPiece (firstPiece_four (Nat.not_le.1 hthree) hhigh bs)

/-! ## Reading back a text -/

theorem toList_loop_eq (bytes : ByteArray) (i : Nat) (front : List UInt8) :
    ByteArray.toList.loop bytes i front = front.reverse ++ bytes.data.toList.drop i := by
  fun_induction ByteArray.toList.loop bytes i front with
  | case1 i front hlt ih =>
    have hlength : i < bytes.data.toList.length := by simpa using hlt
    have hget : bytes.get! i = bytes.data.toList[i] := by
      show bytes.data[i]! = bytes.data.toList[i]
      rw [getElem!_pos bytes.data i hlt, Array.getElem_toList]
    rw [ih, hget, List.drop_eq_getElem_cons hlength, List.reverse_cons, List.append_assoc,
      List.singleton_append]
  | case2 i front hle =>
    have hdrop : bytes.data.toList.drop i = [] :=
      List.drop_eq_nil_of_le (by simpa using Nat.le_of_not_lt hle)
    rw [hdrop, List.append_nil]

theorem toList_toUTF8 (s : String) :
    s.toUTF8.toList = s.toList.flatMap String.utf8EncodeChar := by
  have hbytes : s.toByteArray = s.toList.utf8Encode := by
    rw [← String.toByteArray_ofList, String.ofList_toList]
  rw [String.toUTF8_eq_toByteArray, hbytes, ByteArray.toList, toList_loop_eq, List.utf8Encode,
    List.toList_data_toByteArray]
  rfl

theorem pieces_flatMap_utf8EncodeChar (cs : List Char) :
    pieces (cs.flatMap String.utf8EncodeChar) = cs.map some := by
  induction cs with
  | nil => exact pieces_nil
  | cons c cs ih => rw [List.flatMap_cons, pieces_utf8EncodeChar_append, ih, List.map_cons]

theorem mapM_id_map_some {α : Type} (xs : List α) : (xs.map some).mapM id = some xs := by
  induction xs with
  | nil => rfl
  | cons x xs ih => simp [ih]

/-- **A text** is read back from its bytes. -/
theorem decode?_toUTF8 (s : String) : decode? s.toUTF8.toList = some s := by
  rw [decode?, toList_toUTF8, pieces_flatMap_utf8EncodeChar, mapM_id_map_some, Option.map_some,
    String.ofList_toList]

/-! ## Cutting at a line feed -/

/-- A line feed ends a character that breaks off in front of it. -/
theorem finishChar_append_lineFeed {low : UInt8} (hlow : 0x0A < low) (following : Nat)
    (high : UInt8) (bits : Nat) (bs rest : List UInt8) :
    finishChar following low high bits (bs ++ 0x0A :: rest) =
      ((finishChar following low high bits bs).1,
        (finishChar following low high bits bs).2 ++ 0x0A :: rest) := by
  induction bs generalizing following low high bits with
  | nil =>
    by_cases hdone : following = 0
    · subst hdone
      rfl
    · rw [List.nil_append, finishChar_of_refused bits rest hdone hlow, finishChar, if_neg hdone]
      rfl
  | cons b bs ih =>
    simp only [List.cons_append, finishChar]
    split
    · rfl
    · split
      · exact ih (by decide) _ _ _
      · rfl

theorem lineFeed_lt_low_of_lead? {b : UInt8} {l : Lead} (h : lead? b = some l) :
    0x0A < l.low := by
  simp only [lead?] at h
  split_ifs at h <;> cases h <;> dsimp only <;> decide

theorem firstPiece_append_lineFeed (b : UInt8) (bs rest : List UInt8) :
    firstPiece b (bs ++ 0x0A :: rest) =
      ((firstPiece b bs).1, (firstPiece b bs).2 ++ 0x0A :: rest) := by
  simp only [firstPiece]
  split
  · rfl
  · cases hlead : lead? b with
    | none => rfl
    | some l => exact finishChar_append_lineFeed (lineFeed_lt_low_of_lead? hlead) _ _ _ _ _

/-- **Bytes are cut at a line feed**: the pieces before it and after it are read apart. -/
theorem pieces_append_lineFeed (bs rest : List UInt8) :
    pieces (bs ++ 0x0A :: rest) = pieces bs ++ some '\n' :: pieces rest := by
  induction bs using pieces.induct with
  | case1 =>
    rw [List.nil_append, pieces_nil, List.nil_append]
    exact pieces_of_firstPiece rfl
  | case2 b bs ih =>
    rw [List.cons_append, pieces, firstPiece_append_lineFeed, ih, pieces, List.cons_append]

theorem toList_decodeLossy_append_lineFeed (bs rest : List UInt8) :
    (decodeLossy (bs ++ 0x0A :: rest)).toList =
      (decodeLossy bs).toList ++ '\n' :: (decodeLossy rest).toList := by
  simp [decodeLossy, pieces_append_lineFeed]

/-! ## Lines of bytes -/

theorem eq_of_ofNat_eq_lineFeed {n : Nat} (h : Char.ofNat n = '\n') : n = 0x0A := by
  by_cases hvalid : n.isValidChar
  · rw [Char.ofNat, dif_pos hvalid] at h
    exact congrArg Char.toNat h
  · rw [Char.ofNat, dif_neg hvalid] at h
    cases h

theorem some_ofNat_ne_lineFeed {n : Nat} (h : 0x0A < n) : some (Char.ofNat n) ≠ some '\n' :=
  fun hsome => absurd (eq_of_ofNat_eq_lineFeed (Option.some.inj hsome)) (Nat.ne_of_gt h)

/-- The bits of a character only grow, and no byte within its bounds brings them to a line feed. -/
theorem fst_finishChar_ne_lineFeed {following bits : Nat} {low : UInt8} (high : UInt8)
    (bs : List UInt8)
    (h : 0x0A < bits ∨ following ≠ 0 ∧ 0x0A < bits * 64 + (low.toNat - 0x80)) :
    (finishChar following low high bits bs).1 ≠ some '\n' := by
  induction bs generalizing following low high bits with
  | nil =>
    simp only [finishChar]
    split
    · exact some_ofNat_ne_lineFeed (by omega)
    · exact (Option.some_ne_none _).symm
  | cons b bs ih =>
    simp only [finishChar]
    split
    · exact some_ofNat_ne_lineFeed (by omega)
    · split
      · rename_i hbounds
        rw [Bool.and_eq_true, decide_eq_true_iff, UInt8.le_iff_toNat_le] at hbounds
        have hgrown : 0x0A < bits * 64 + (b.toNat - 0x80) := by omega
        exact ih _ (.inl hgrown)
      · exact (Option.some_ne_none _).symm

theorem lineFeed_lt_bits_of_lead? {b : UInt8} {l : Lead} (h : lead? b = some l) :
    l.following ≠ 0 ∧ 0x0A < l.bits * 64 + (l.low.toNat - 0x80) := by
  simp only [lead?, Bool.and_eq_true, decide_eq_true_iff] at h
  split_ifs at h <;> cases h <;> refine ⟨Nat.succ_ne_zero _, ?_⟩ <;>
    simp only [UInt8.toNat_ofNat] <;> omega

theorem fst_firstPiece_ne_lineFeed {b : UInt8} (hb : b ≠ 0x0A) (bs : List UInt8) :
    (firstPiece b bs).1 ≠ some '\n' := by
  simp only [firstPiece]
  split
  · intro hsome
    exact hb (UInt8.toNat_inj.1 (eq_of_ofNat_eq_lineFeed (Option.some.inj hsome)))
  · split
    · exact (Option.some_ne_none _).symm
    · rename_i l hlead
      exact fst_finishChar_ne_lineFeed l.high bs (.inr (lineFeed_lt_bits_of_lead? hlead))

/-- **No other bytes** than a line feed are read as one. -/
theorem lineFeed_not_mem_pieces {bs : List UInt8} (h : 0x0A ∉ bs) : some '\n' ∉ pieces bs := by
  induction bs using pieces.induct with
  | case1 =>
    rw [pieces_nil]
    exact List.not_mem_nil
  | case2 b bs ih =>
    rw [List.mem_cons, not_or] at h
    rw [pieces, List.mem_cons, not_or]
    exact ⟨(fst_firstPiece_ne_lineFeed (Ne.symm h.1) bs).symm,
      ih fun hmem => h.2 ((snd_firstPiece_suffix b bs).subset hmem)⟩

theorem lineFeed_not_mem_decodeLossy {bs : List UInt8} (h : 0x0A ∉ bs) :
    '\n' ∉ (decodeLossy bs).toList := by
  rw [decodeLossy, String.toList_ofList, List.mem_map]
  rintro ⟨p, hp, hchar⟩
  cases p with
  | none => cases hchar
  | some c =>
    obtain rfl : c = '\n' := hchar
    exact lineFeed_not_mem_pieces h hp

/-- **The lines of a text** are the texts of the lines of its bytes. -/
theorem splitOn_decodeLossy (bs : List UInt8) :
    (decodeLossy bs).toList.splitOn '\n' =
      (bs.splitOn 0x0A).map fun piece => (decodeLossy piece).toList := by
  induction hlen : bs.length using Nat.strongRecOn generalizing bs with
  | ind n ih =>
    by_cases hmem : 0x0A ∈ bs
    · obtain ⟨front, back, rfl, hfront⟩ := List.eq_append_cons_of_mem hmem
      have hback : back.length < n := by
        rw [← hlen, List.length_append, List.length_cons]
        omega
      rw [toList_decodeLossy_append_lineFeed, List.splitOn_append_cons_self,
        List.splitOn_append_cons_self, List.splitOn_eq_singleton hfront,
        List.splitOn_eq_singleton (lineFeed_not_mem_decodeLossy hfront), ih _ hback back rfl,
        List.map_append, List.map_singleton]
    · rw [List.splitOn_eq_singleton hmem,
        List.splitOn_eq_singleton (lineFeed_not_mem_decodeLossy hmem), List.map_singleton]

end HostWatch.Text
