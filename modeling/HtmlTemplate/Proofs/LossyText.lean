import Mathlib.Data.List.Basic
import HtmlTemplate.Text.Bytes

/-!
Bytes read as a text. Those of a text give the text again; of others every character stems from its
bytes, and what is none comes out as replacement characters.
-/

set_option autoImplicit false

namespace HtmlTemplate.Bytes

theorem pieces_passed (front rest : Bytes) :
    piecesFrom front.length (front ++ rest) = piecesFrom 0 rest := by
  induction front with
  | nil => rfl
  | cons byte front ih => exact ih

theorem pieces_encoded (c : Char) (rest : Bytes) :
    piecesFrom 0 (String.utf8EncodeChar c ++ rest) = .char c :: piecesFrom 0 rest := by
  have read : (String.utf8EncodeChar c ++ rest).toByteArray.utf8DecodeChar? 0 = some c := by
    rw [List.toByteArray_append]
    exact ByteArray.utf8DecodeChar?_utf8EncodeChar_append
  have size := String.length_utf8EncodeChar c
  cases encoded : String.utf8EncodeChar c with
  | nil => exact absurd encoded String.utf8EncodeChar_ne_nil
  | cons byte others =>
      rw [encoded] at read size
      have width : c.utf8Size - 1 = others.length := by
        rw [← size]
        rfl
      rw [List.cons_append] at read ⊢
      rw [piecesFrom, read]
      dsimp only
      rw [width, pieces_passed]

theorem lossy_text (text : String) : (ofText text).lossy = text := by
  have read (chars : List Char) :
      piecesFrom 0 (chars.flatMap String.utf8EncodeChar) = chars.map .char := by
    induction chars with
    | nil => rfl
    | cons c rest ih => rw [List.flatMap_cons, pieces_encoded, ih, List.map_cons]
  rw [lossy, pieces, ofText, read, List.map_map]
  exact (congrArg String.ofList (List.map_id _)).trans String.ofList_toList

theorem of_text_append (text other : String) :
    ofText (text ++ other) = ofText text ++ ofText other := by
  simp [ofText]

theorem char_piece_bytes (passed : Nat) (bytes : Bytes) (c : Char)
    (member : .char c ∈ piecesFrom passed bytes) : String.utf8EncodeChar c ⊆ bytes := by
  induction bytes generalizing passed with
  | nil => cases passed <;> cases member
  | cons byte rest ih =>
      cases passed with
      | succ passed => exact List.subset_cons_of_subset byte (ih passed member)
      | zero =>
          rw [piecesFrom] at member
          split at member
          · rename_i read
            rcases List.mem_cons.mp member with same | later
            · cases same
              obtain ⟨others, whole⟩ := ByteArray.exists_of_utf8DecodeChar?_eq_some read
              have bytes := congrArg (·.data.toList) whole
              simp only [ByteArray.data_append, Array.toList_append, List.data_toByteArray] at bytes
              rw [bytes]
              exact List.subset_append_left _ _
            · exact List.subset_cons_of_subset byte (ih _ later)
          · rcases List.mem_cons.mp member with same | later
            · cases same
            · exact List.subset_cons_of_subset byte (ih _ later)

theorem lossy_bytes (bytes : Bytes) (c : Char) (member : c ∈ bytes.lossy.toList) :
    c = '\ufffd' ∨ String.utf8EncodeChar c ⊆ bytes := by
  rw [lossy, String.toList_ofList, List.mem_map] at member
  obtain ⟨piece, held, shown⟩ := member
  cases piece with
  | char read =>
      cases shown
      exact .inr (char_piece_bytes 0 bytes read held)
  | broken _ => exact .inl shown.symm

theorem lossy_inhabited (bytes : Bytes) (inhabited : bytes ≠ []) : ofText bytes.lossy ≠ [] := by
  cases bytes with
  | nil => exact absurd rfl inhabited
  | cons byte rest =>
      rw [lossy, pieces, piecesFrom, ofText, String.toList_ofList]
      split <;> simp [String.utf8EncodeChar_ne_nil]

-- A byte below 128 stands for its character, and in the UTF-8 of no other one.
theorem ascii_encoded (c : Char) (byte : UInt8) (ascii : byte.toNat < 128)
    (member : byte ∈ String.utf8EncodeChar c) : c.toNat = byte.toNat := by
  have valid := c.valid
  simp only [UInt32.isValidChar, Nat.isValidChar] at valid
  simp only [String.utf8EncodeChar] at member
  change c.val.toNat = byte.toNat
  generalize c.val.toNat = n at member valid ⊢
  have multiple (m : Nat) (high : 128 ≤ m % 256) : byte ≠ UInt8.ofNat m := by
    rintro rfl
    rw [UInt8.toNat_ofNat'] at ascii
    omega
  split at member
  · simp only [List.mem_singleton] at member
    rw [member, UInt8.toNat_ofNat']
    omega
  · exfalso
    split at member
    · simp only [List.mem_cons, List.not_mem_nil, or_false] at member
      rcases member with same | same <;> exact multiple _ (by omega) same
    · split at member
      · simp only [List.mem_cons, List.not_mem_nil, or_false] at member
        rcases member with same | same | same <;> exact multiple _ (by omega) same
      · simp only [List.mem_cons, List.not_mem_nil, or_false] at member
        rcases member with same | same | same | same <;> exact multiple _ (by omega) same

theorem lossy_ascii (bytes : Bytes) (byte : UInt8) (ascii : byte.toNat < 128)
    (member : byte ∈ ofText bytes.lossy) : byte ∈ bytes := by
  obtain ⟨c, shown, held⟩ := List.mem_flatMap.mp member
  have code := ascii_encoded c byte ascii held
  rcases lossy_bytes bytes c shown with rfl | among
  · rw [← code] at ascii
    exact absurd ascii (by decide)
  · exact among held

end HtmlTemplate.Bytes
