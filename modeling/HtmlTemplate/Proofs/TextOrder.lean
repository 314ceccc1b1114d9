import Mathlib.Data.String.Basic

/-!
The order of texts. It is the order of their bytes, too: in UTF-8 a greater character has a greater
first byte, or just as many bytes that are greater as a whole.
-/

set_option autoImplicit false

namespace HtmlTemplate.Text

theorem sorted_ascending {κ : Type} [LE κ] [LT κ] [DecidableLE κ] [Std.IsLinearOrder κ]
    [Std.LawfulOrderLT κ] (names : List κ) (distinct : names.Nodup) :
    (names.mergeSort fun a b => decide (a ≤ b)).Pairwise (· < ·) := by
  have ordered := @List.pairwise_mergeSort κ (fun a b => decide (a ≤ b))
    (by simpa using fun a b c : κ => Std.le_trans)
    (by simpa using fun a b : κ => Std.le_total) names
  simp only [decide_eq_true_eq] at ordered
  have apart := (List.mergeSort_perm names fun a b => decide (a ≤ b)).nodup_iff.mpr distinct
  exact ordered.imp₂ (fun _ _ below other => Std.lt_of_le_of_ne below other) apart

-- A first byte that counts up from `lead`, and `more` bytes of six bits each behind it.
def encoded (lead : Nat) : (more : Nat) → Nat → List UInt8
  | 0, n => [UInt8.ofNat (lead + n)]
  | more + 1, n => encoded lead more (n / 64) ++ [UInt8.ofNat (n % 64 + 128)]

def leadOf (n : Nat) : Nat :=
  if n ≤ 127 then 0 else if n ≤ 2047 then 192 else if n ≤ 65535 then 224 else 240

def moreOf (n : Nat) : Nat :=
  if n ≤ 127 then 0 else if n ≤ 2047 then 1 else if n ≤ 65535 then 2 else 3

def firstByte (n : Nat) : Nat :=
  leadOf n + n / 64 ^ moreOf n

theorem byte_before (m n : Nat) (bound : n < 256) (before : m < n) :
    UInt8.ofNat m < UInt8.ofNat n := by
  rw [UInt8.lt_iff_toNat_lt, UInt8.toNat_ofNat_of_lt' bound,
    UInt8.toNat_ofNat_of_lt' (before.trans bound)]
  exact before

theorem encoded_first (lead more n : Nat) :
    ∃ rest, encoded lead more n = UInt8.ofNat (lead + n / 64 ^ more) :: rest := by
  induction more generalizing n with
  | zero => exact ⟨[], by simp [encoded]⟩
  | succ more ih =>
      obtain ⟨rest, first⟩ := ih (n / 64)
      rw [Nat.div_div_eq_div_mul, ← Nat.pow_succ'] at first
      exact ⟨rest ++ [UInt8.ofNat (n % 64 + 128)], by rw [encoded, first, List.cons_append]⟩

theorem encoded_before (lead more m n : Nat) (bound : lead + n / 64 ^ more < 256) (before : m < n)
    (rest other : List UInt8) : encoded lead more m ++ rest < encoded lead more n ++ other := by
  induction more generalizing m n rest other with
  | zero =>
      rw [Nat.pow_zero, Nat.div_one] at bound
      exact List.Lex.rel (byte_before _ _ bound (by omega))
  | succ more ih =>
      simp only [encoded, List.append_assoc, List.singleton_append]
      rcases Nat.lt_or_ge (m / 64) (n / 64) with above | same
      · refine ih _ _ ?_ above _ _
        rwa [Nat.div_div_eq_div_mul, ← Nat.pow_succ']
      · have equal : m / 64 = n / 64 := by omega
        rw [equal]
        exact List.append_left_lt (List.Lex.rel (byte_before _ _ (by omega) (by omega)))

theorem code_point_bound (c : Char) : c.val.toNat < 1114112 := by
  have valid := c.valid
  simp only [UInt32.isValidChar, Nat.isValidChar] at valid
  omega

theorem char_encoded (c : Char) :
    String.utf8EncodeChar c = encoded (leadOf c.val.toNat) (moreOf c.val.toNat) c.val.toNat := by
  have bound := code_point_bound c
  simp only [String.utf8EncodeChar]
  generalize c.val.toNat = n at bound ⊢
  unfold leadOf moreOf
  split
  · simp [encoded]
  · split
    · have first : n / 64 % 32 + 192 = 192 + n / 64 := by omega
      simp [encoded, first]
    · split
      · have first : n / 4096 % 16 + 224 = 224 + n / 64 / 64 := by omega
        simp [encoded, first]
      · have first : n / 262144 % 8 + 240 = 240 + n / 64 / 64 / 64 := by omega
        have second : n / 4096 % 64 = n / 64 / 64 % 64 := by omega
        simp [encoded, first, second]

theorem first_byte_bound (n : Nat) (bound : n < 1114112) : firstByte n < 256 := by
  unfold firstByte leadOf moreOf
  split
  · omega
  · split
    · omega
    · split <;> omega

theorem forms_before (m n : Nat) (before : m < n) :
    leadOf m = leadOf n ∧ moreOf m = moreOf n ∨ firstByte m < firstByte n := by
  unfold firstByte leadOf moreOf
  grind

theorem char_bytes_before (c d : Char) (before : c < d) (rest other : List UInt8) :
    String.utf8EncodeChar c ++ rest < String.utf8EncodeChar d ++ other := by
  have bound : firstByte d.val.toNat < 256 := first_byte_bound _ (code_point_bound d)
  have below : c.val.toNat < d.val.toNat := before
  rw [char_encoded, char_encoded]
  generalize c.val.toNat = m at below ⊢
  generalize d.val.toNat = n at below bound ⊢
  rcases forms_before m n below with ⟨lead, more⟩ | above
  · rw [lead, more]
    exact encoded_before _ _ m n bound below rest other
  · obtain ⟨behind, first⟩ := encoded_first (leadOf m) (moreOf m) m
    obtain ⟨after, second⟩ := encoded_first (leadOf n) (moreOf n) n
    rw [first, second]
    exact List.Lex.rel (byte_before _ _ bound above)

theorem chars_bytes_before (cs ds : List Char) (before : cs < ds) :
    cs.flatMap String.utf8EncodeChar < ds.flatMap String.utf8EncodeChar := by
  induction before with
  | nil =>
      rename_i d ds
      rw [List.flatMap_cons]
      cases encoded : String.utf8EncodeChar d with
      | nil => exact absurd encoded String.utf8EncodeChar_ne_nil
      | cons byte bytes => exact List.Lex.nil
  | cons _ ih => exact List.append_left_lt ih
  | rel above => exact char_bytes_before _ _ above _ _

theorem text_bytes (s : String) :
    s.toUTF8.data.toList = s.toList.flatMap String.utf8EncodeChar := by
  rw [String.toUTF8_eq_toByteArray, ← String.utf8Encode_toList, List.utf8Encode,
    List.data_toByteArray]

theorem bytes_before (a b : String) (before : a < b) :
    a.toUTF8.data.toList < b.toUTF8.data.toList := by
  rw [text_bytes, text_bytes]
  exact chars_bytes_before _ _ (String.lt_iff_toList_lt.mp before)

end HtmlTemplate.Text
