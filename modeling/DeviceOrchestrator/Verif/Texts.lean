import Mathlib.Data.List.TakeWhile
import DeviceOrchestrator.Core.Foreign
import DeviceOrchestrator.Verif.Sealing

/-!
# Which texts UTF-8 encodes

A `str` is a list of code points, and `encode` refuses the surrogates among them. A text without one
is a string and is encoded as that string is. So a box is made for every passphrase without
surrogates but the empty one, and what it seals is opened again; a lone surrogate is sealed by no
box.
-/
namespace DeviceOrchestrator

/-- The number of a character's code point. -/
theorem CodePoint.val_ofChar (char : Char) : (CodePoint.ofChar char).val = char.toNat := by
  have below : char.toNat < 0x110000 := by
    have valid := char.valid
    have same : char.toNat = char.val.toNat := rfl
    rcases valid with small | ⟨-, large⟩
    · change char.val.toNat < _ at small
      omega
    · change char.val.toNat < _ at large
      omega
  exact Nat.mod_eq_of_lt below

/-- Two characters have two code points. -/
theorem CodePoint.ofChar_injective : Function.Injective CodePoint.ofChar := by
  intro first second same
  have numbers := congrArg Fin.val same
  rw [val_ofChar, val_ofChar] at numbers
  exact Char.toNat_inj.mp numbers

/-- No character is a surrogate. -/
theorem CodePoint.surrogate_ofChar (char : Char) : (ofChar char).surrogate = false := by
  have valid := char.valid
  have same : char.toNat = char.val.toNat := rfl
  rw [surrogate, val_ofChar]
  simp only [Bool.and_eq_false_iff, decide_eq_false_iff_not, Nat.not_le]
  rcases valid with small | ⟨large, -⟩
  · change char.val.toNat < _ at small
    omega
  · change _ < char.val.toNat at large
    omega

/-- Every other code point is a character. -/
theorem CodePoint.ofChar_ofNat {point : CodePoint} (scalar : point.surrogate = false) :
    ofChar (Char.ofNat point.val) = point := by
  have valid : point.val.isValidChar := by
    have below := point.isLt
    simp only [surrogate, Bool.and_eq_false_iff, decide_eq_false_iff_not, Nat.not_le] at scalar
    unfold Nat.isValidChar
    omega
  apply Fin.ext
  rw [val_ofChar, Char.ofNat, dif_pos valid]
  rfl

namespace PyText

/-- A text of the source has no surrogates. -/
@[simp]
theorem unicode_ofString (text : String) : (ofString text).unicode = true := by
  simp [unicode, ofString, CodePoint.surrogate_ofChar]

/-- A text of the source is its string. -/
@[simp]
theorem string?_ofString (text : String) : (ofString text).string? = some text := by
  rw [string?, if_pos (unicode_ofString text)]
  simp [ofString, CodePoint.val_ofChar, Function.comp_def]

/-- A text without surrogates is one of the source. -/
theorem exists_string {text : PyText} (unicode : text.unicode = true) :
    ∃ found, text = ofString found := by
  refine ⟨String.ofList (text.map fun point => Char.ofNat point.val), ?_⟩
  rw [ofString, String.toList_ofList, List.map_map]
  refine (List.map_id' text).symm.trans (List.map_congr_left fun point member => ?_)
  have scalar := List.all_eq_true.mp unicode point member
  rw [Bool.not_eq_true'] at scalar
  exact (CodePoint.ofChar_ofNat scalar).symm

/-- Nothing is dropped from a text without surrogates. -/
theorem dropWhile_unicode {text : PyText} :
    (text.dropWhile fun point => !point.surrogate) = [] ↔ text.unicode = true := by
  simp [unicode, List.dropWhile_eq_nil_iff]

/-- A text is encoded exactly if it has no surrogates. -/
theorem isOk_encode (text : PyText) : text.encode.isOk = text.unicode := by
  unfold encode
  cases unicode : text.unicode with
  | true =>
    rw [dropWhile_unicode.mpr unicode]
    rfl
  | false =>
    split
    · rename_i found
      rw [dropWhile_unicode.mp found] at unicode
      cases unicode
    · rfl

/-- **A text of the source is encoded as its string is.** -/
theorem encode_ofString (text : String) : (ofString text).encode = .ok (encodeUtf8 text) := by
  have bytes : (ofString text).flatMap CodePoint.utf8 = encodeUtf8 text := by
    have points : ∀ char, (CodePoint.ofChar char).utf8 = String.utf8EncodeChar char := by
      intro char
      rw [CodePoint.utf8, CodePoint.val_ofChar, Char.ofNat_toNat]
    have encoded : encodeUtf8 text = text.toList.flatMap String.utf8EncodeChar := by
      unfold encodeUtf8
      show text.toByteArray.data.toList = _
      rw [← String.utf8Encode_toList]
      simp [List.utf8Encode]
    rw [ofString, List.flatMap_map, encoded]
    simp only [points]
  rw [encode, dropWhile_unicode.mpr (unicode_ofString text), bytes]

end PyText

namespace SecretBox

section
variable (python : Python) (primitives : Primitives)

/-- A text of the source makes the box that its string makes. -/
theorem newText_ofString {passphrase : String} {box : SecretBox}
    (made : SecretBox.new passphrase = .ok box) :
    SecretBox.newText (PyText.ofString passphrase) = .ok box := by
  unfold SecretBox.newText
  rw [PyText.encode_ofString]
  unfold SecretBox.new at made
  dsimp only
  split at made
  · cases made
  · rename_i full
    rw [dif_neg full]
    exact congrArg Except.ok (Except.ok.inj made)

/-- **Opening undoes sealing** of exactly the texts that UTF-8 encodes. -/
theorem open_sealText_iff (passphrase : PyText) (salt nonce : Bytes) (plaintext : PyText) :
    (∃ box blob text, SecretBox.newText passphrase = .ok box ∧
        box.sealText primitives salt nonce plaintext = .ok blob ∧
        box.openBlob python primitives blob = .ok text ∧ PyText.ofString text = plaintext) ↔
      passphrase ≠ [] ∧ passphrase.unicode = true ∧ plaintext.unicode = true := by
  constructor
  · rintro ⟨box, blob, text, made, -, -, rfl⟩
    refine ⟨?_, ?_, PyText.unicode_ofString text⟩
    · rintro rfl
      cases made
    · rw [← PyText.isOk_encode]
      unfold SecretBox.newText at made
      cases encoded : passphrase.encode with
      | ok bytes => rfl
      | error error =>
        rw [encoded] at made
        cases made
  · rintro ⟨given, unicode, plain⟩
    obtain ⟨passphrase, rfl⟩ := PyText.exists_string unicode
    obtain ⟨plaintext, rfl⟩ := PyText.exists_string plain
    obtain ⟨box, made⟩ := new_eq_ok.mpr fun empty : passphrase = "" => given (by rw [empty]; rfl)
    refine ⟨box, (box.sealed primitives salt nonce plaintext).join, plaintext,
      newText_ofString made, ?_, ?_, rfl⟩
    · rw [sealText, PyText.encode_ofString]
      rfl
    · exact openBlob_sealBlob python primitives box salt nonce plaintext

end

/-- **A lone surrogate is not sealed**: `encode` raises. -/
theorem sealText_surrogate :
    SecretBox.newText (PyText.ofString "pass") = .ok passBox ∧
      passBox.sealText transparent (List.replicate 16 0) (List.replicate 12 0)
          [CodePoint.ofNat 0xD800] = .error ⟨CodePoint.ofNat 0xD800, 0, 1⟩ ∧
      ¬∃ blob text, passBox.sealText transparent (List.replicate 16 0) (List.replicate 12 0)
          [CodePoint.ofNat 0xD800] = .ok blob ∧
        passBox.openBlob default transparent blob = .ok text ∧
        PyText.ofString text = [CodePoint.ofNat 0xD800] := by
  have refused : passBox.sealText transparent (List.replicate 16 0) (List.replicate 12 0)
      [CodePoint.ofNat 0xD800] = .error ⟨CodePoint.ofNat 0xD800, 0, 1⟩ := by
    decide +kernel
  refine ⟨newText_ofString (dif_neg (by decide)), refused, ?_⟩
  rintro ⟨blob, text, sealed, -⟩
  rw [refused] at sealed
  cases sealed

end SecretBox

end DeviceOrchestrator
