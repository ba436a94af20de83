import DeviceOrchestrator.Core.SecretBox

/-!
# Opening what was sealed

Each stage of a blob reads back: UTF-8, the XOR with a keystream that is long enough, base64 and
the fields between dollar signs. So opening undoes sealing. The tag is computed over the nonce
and the ciphertext joined without a mark between them, and it binds exactly their concatenation:
a blob that splits the same bytes elsewhere passes.
-/
namespace DeviceOrchestrator

/-! ## Reading back each stage -/

/-- Encoded text is read back. -/
theorem decodeUtf8_encodeUtf8 (text : String) : decodeUtf8 (encodeUtf8 text) = .ok text := by
  have same : (⟨(encodeUtf8 text).toArray⟩ : ByteArray) = text.toByteArray := by
    simp [encodeUtf8]
  have valid : String.fromUTF8? text.toByteArray = some text :=
    dif_pos text.isValidUTF8
  rw [decodeUtf8, same, valid]

/-- Only `ValueError` leaves decoding. -/
theorem decodeUtf8_error {bytes : Bytes} {error : Raised}
    (raised : decodeUtf8 bytes = .error error) : error = .builtin .valueError := by
  unfold decodeUtf8 at raised
  split at raised
  · cases raised
  · cases raised
    rfl

/-- An encoded field is read back. -/
theorem urlsafeB64decode_encode (bytes : Bytes) :
    urlsafeB64decode (Base64.encode bytes) = .ok bytes := by
  rw [urlsafeB64decode, Base64.decode_encode]
  rfl

/-- A version without a dollar sign and four fields are read back. -/
theorem Blob.split_join (blob : Blob) (plain : '$' ∉ blob.version.toList) :
    Blob.split blob.join = .ok blob := by
  have pieces : blob.join.toList.splitOn '$' = [blob.version.toList, Base64.encode blob.salt,
      Base64.encode blob.nonce, Base64.encode blob.ciphertext, Base64.encode blob.tag] := by
    have joined : blob.join.toList = ['$'].intercalate [blob.version.toList,
        Base64.encode blob.salt, Base64.encode blob.nonce, Base64.encode blob.ciphertext,
        Base64.encode blob.tag] := by
      simp [Blob.join]
    rw [joined, List.splitOn_intercalate _ _ (List.cons_ne_nil _ _)]
    intro piece member
    have clean : ∀ bytes : Bytes, '$' ∉ Base64.encode bytes :=
      Base64.not_mem_encode (by decide +kernel) (by decide)
    simp only [List.mem_cons, List.not_mem_nil, or_false] at member
    rcases member with rfl | rfl | rfl | rfl | rfl
    · exact plain
    · exact clean _
    · exact clean _
    · exact clean _
    · exact clean _
  unfold Blob.split
  rw [pieces]
  simp [urlsafeB64decode_encode, bind, Except.bind]

/-! ## The keystream -/

section
variable (primitives : Primitives) (key nonce : Bytes) (length : Nat)

/-- With a round for each byte that is missing the loop gets there. -/
theorem length_keystreamLoop : ∀ (rounds counter : Nat) (out : Bytes),
    length ≤ out.length + rounds →
    length ≤ (keystreamLoop primitives key nonce length rounds counter out).length
  | 0, counter, out, enough => by simpa [keystreamLoop] using enough
  | rounds + 1, counter, out, enough => by
    rw [keystreamLoop]
    split
    · refine length_keystreamLoop rounds (counter + 1) _ ?_
      have grows := primitives.digest_pos key (nonce ++ toBytes8 counter)
      rw [List.length_append]
      omega
    · omega

/-- **The keystream has the length asked for.** -/
theorem length_keystream : (keystream primitives key nonce length).length = length := by
  have enough := length_keystreamLoop primitives key nonce length length 0 [] (by simp)
  rw [keystream, List.length_take]
  omega

end

/-- A pad that is long enough keeps the length. -/
theorem length_xorBytes {data pad : Bytes} (covers : data.length ≤ pad.length) :
    (xorBytes data pad).length = data.length := by
  rw [xorBytes, List.length_zipWith]
  omega

/-- **XOR with the same pad undoes XOR with a pad that is long enough.** -/
theorem xorBytes_xorBytes : ∀ {data pad : Bytes}, data.length ≤ pad.length →
    xorBytes (xorBytes data pad) pad = data
  | [], _, _ => rfl
  | _ :: _, [], covers => by simp at covers
  | byte :: data, key :: pad, covers => by
    have rest : xorBytes (xorBytes data pad) pad = data :=
      xorBytes_xorBytes (by simpa using covers)
    have head : byte ^^^ key ^^^ key = byte := by
      rw [UInt8.xor_assoc, UInt8.xor_self, UInt8.xor_zero]
    show (byte ^^^ key ^^^ key) :: xorBytes (xorBytes data pad) pad = byte :: data
    rw [head, rest]

/-- Only the empty string has no bytes. -/
theorem encodeUtf8_eq_nil {text : String} : encodeUtf8 text = [] ↔ text = "" := by
  constructor
  · intro empty
    have back := decodeUtf8_encodeUtf8 text
    rw [empty, show ([] : Bytes) = encodeUtf8 "" from rfl, decodeUtf8_encodeUtf8] at back
    exact (Except.ok.inj back).symm
  · rintro rfl
    rfl

namespace SecretBox

section
variable (python : Python) (primitives : Primitives) (box : SecretBox)

/-- A box is made for every passphrase but the empty one. -/
theorem new_eq_ok {passphrase : String} :
    (∃ box, SecretBox.new passphrase = .ok box) ↔ passphrase ≠ "" := by
  rw [ne_eq, ← encodeUtf8_eq_nil]
  unfold SecretBox.new
  split
  · rename_i empty
    constructor
    · rintro ⟨box, made⟩
      cases made
    · exact fun full => absurd empty full
  · rename_i full
    exact ⟨fun _ => full, fun _ => ⟨_, rfl⟩⟩

/-- A blob that was made of bytes is read back from its text. -/
theorem split_sealBytes (salt nonce data : Bytes) :
    Blob.split (box.sealBytes primitives salt nonce data).join =
      .ok (box.sealBytes primitives salt nonce data) := by
  refine Blob.split_join _ ?_
  show '$' ∉ "v1".toList
  decide

/-- What was sealed is read back from the text. -/
theorem split_sealBlob (salt nonce : Bytes) (plaintext : String) :
    Blob.split (box.sealBlob primitives salt nonce plaintext) =
      .ok (box.sealed primitives salt nonce plaintext) :=
  split_sealBytes primitives box salt nonce (encodeUtf8 plaintext)

/-- **What `open` does with a v1 blob.** -/
theorem openBlob_v1 {text : String} {blob : Blob} (parsed : Blob.split text = .ok blob)
    (v1 : blob.version = "v1") :
    box.openBlob python primitives text =
      if primitives.hmacSha256 ((box.derive primitives blob.salt).drop 32)
          (blob.nonce ++ blob.ciphertext) = blob.tag then
        decodeUtf8 (xorBytes blob.ciphertext (keystream primitives
          ((box.derive primitives blob.salt).take 32) blob.nonce blob.ciphertext.length))
      else .error (.auth "credential blob failed authentication") := by
  simp only [openBlob, parsed, v1, bind, Except.bind]
  simp

/-- **Opening decodes the bytes that were sealed.** -/
theorem openBlob_sealBytes (salt nonce data : Bytes) :
    box.openBlob python primitives (box.sealBytes primitives salt nonce data).join =
      decodeUtf8 data := by
  have tagged : primitives.hmacSha256
      ((box.derive primitives (box.sealBytes primitives salt nonce data).salt).drop 32)
      ((box.sealBytes primitives salt nonce data).nonce ++
        (box.sealBytes primitives salt nonce data).ciphertext) =
      (box.sealBytes primitives salt nonce data).tag := rfl
  rw [openBlob_v1 python primitives box (split_sealBytes primitives box salt nonce data) rfl,
    if_pos tagged]
  generalize made : keystream primitives ((box.derive primitives salt).take 32) nonce
    data.length = pad
  have covers : data.length ≤ pad.length := by
    rw [← made, length_keystream]
  simp only [sealBytes, made, length_xorBytes covers, xorBytes_xorBytes covers]

/-- Opening undoes sealing. -/
theorem openBlob_sealBlob (salt nonce : Bytes) (plaintext : String) :
    box.openBlob python primitives (box.sealBlob primitives salt nonce plaintext) =
      .ok plaintext :=
  (openBlob_sealBytes python primitives box salt nonce (encodeUtf8 plaintext)).trans
    (decodeUtf8_encodeUtf8 plaintext)

/-! ## What the tag binds -/

/-- The blob has the bytes of the other split at another place. -/
def Resplit (original forged : Blob) : Prop :=
  forged.nonce ++ forged.ciphertext = original.nonce ++ original.ciphertext ∧
    forged.nonce ≠ original.nonce

/-- **The tag binds nonce and ciphertext** up to where one ends and the other begins. -/
theorem tag_binds_iff (salt nonce : Bytes) (plaintext : String)
    (ideal : ∀ key, Function.Injective (primitives.hmacSha256 key)) {original forged : Blob}
    (sealing : Blob.split (box.sealBlob primitives salt nonce plaintext) = .ok original)
    {text : String} (parsed : Blob.split text = .ok forged) (v1 : forged.version = "v1")
    (sameSalt : forged.salt = original.salt) (sameTag : forged.tag = original.tag) :
    (forged.nonce ≠ original.nonce ∨ forged.ciphertext ≠ original.ciphertext →
      ∃ message, box.openBlob python primitives text = .error (.auth message)) ↔
    ¬Resplit original forged := by
  rw [split_sealBlob] at sealing
  obtain rfl := Except.ok.inj sealing
  have tagged : forged.tag = primitives.hmacSha256 ((box.derive primitives forged.salt).drop 32)
      ((box.sealed primitives salt nonce plaintext).nonce ++
        (box.sealed primitives salt nonce plaintext).ciphertext) := by
    rw [sameTag, sameSalt]
    rfl
  rw [openBlob_v1 python primitives box parsed v1, tagged]
  generalize box.sealed primitives salt nonce plaintext = original
  constructor
  · rintro rejected ⟨same, apart⟩
    obtain ⟨message, refused⟩ := rejected (.inl apart)
    rw [if_pos (by rw [same])] at refused
    cases decodeUtf8_error refused
  · intro unsplit differs
    have joined : forged.nonce ++ forged.ciphertext ≠ original.nonce ++ original.ciphertext := by
      intro same
      by_cases nonces : forged.nonce = original.nonce
      · rw [nonces] at same
        have ciphertexts := List.append_cancel_left same
        rcases differs with nonces' | ciphertexts'
        · exact nonces' nonces
        · exact ciphertexts' ciphertexts
      · exact unsplit ⟨same, nonces⟩
    rw [if_neg fun same => joined (ideal _ same)]
    exact ⟨_, rfl⟩

end

/-! ## A blob that is split elsewhere -/

/-- Digests that show the message, so that none collide. -/
def transparent : Primitives where
  scrypt _ _ := List.replicate 64 0
  hmacSha256 _ message := 0 :: message
  digest_pos _ _ := Nat.succ_pos _

/-- They are injective. -/
theorem transparent_injective (key : Bytes) :
    Function.Injective (transparent.hmacSha256 key) := fun _ _ same => List.tail_eq_of_cons_eq same

/-- A box. -/
def passBox : SecretBox := ⟨encodeUtf8 "pass", by decide⟩

/-- A blob sealed with a zero salt and a zero nonce. -/
def sealedAb : Blob :=
  passBox.sealed transparent (List.replicate 16 0) (List.replicate 12 0) "ab"

/-- The blob with its ciphertext flipped. -/
def flippedAb : Blob := { sealedAb with ciphertext := [98, 98] }

/-- The blob with its first byte of ciphertext taken for the last one of the nonce. -/
def resplitAb : Blob :=
  { sealedAb with
    nonce := List.replicate 12 0 ++ [97]
    ciphertext := [98] }

/-- A flipped ciphertext is rejected. -/
theorem tag_binds_iff_flipped :
    (flippedAb.nonce ≠ sealedAb.nonce ∨ flippedAb.ciphertext ≠ sealedAb.ciphertext →
      ∃ message, passBox.openBlob default transparent flippedAb.join = .error (.auth message)) ∧
    ¬Resplit sealedAb flippedAb := by
  have unsplit : ¬Resplit sealedAb flippedAb := fun resplit => resplit.2 rfl
  refine ⟨(tag_binds_iff default transparent passBox (List.replicate 16 0) (List.replicate 12 0)
    "ab" transparent_injective (split_sealBlob transparent passBox _ _ "ab")
    (Blob.split_join flippedAb (by decide)) rfl rfl rfl).mpr unsplit, unsplit⟩

/-- **A blob split elsewhere authenticates and opens to another text.** -/
theorem resplit_opens : (∀ key, Function.Injective (transparent.hmacSha256 key)) ∧
    Blob.split (passBox.sealBlob transparent (List.replicate 16 0) (List.replicate 12 0) "ab") =
      .ok sealedAb ∧
    Blob.split resplitAb.join = .ok resplitAb ∧ resplitAb.version = "v1" ∧
    resplitAb.salt = sealedAb.salt ∧ resplitAb.tag = sealedAb.tag ∧
    resplitAb.nonce ≠ sealedAb.nonce ∧
    passBox.openBlob default transparent resplitAb.join = .ok "b" := by
  have parsed : Blob.split resplitAb.join = .ok resplitAb := Blob.split_join _ (by decide)
  refine ⟨transparent_injective, split_sealBlob transparent passBox _ _ "ab", parsed, rfl, rfl,
    rfl, by decide, ?_⟩
  have tagged : transparent.hmacSha256 ((passBox.derive transparent resplitAb.salt).drop 32)
      (resplitAb.nonce ++ resplitAb.ciphertext) = resplitAb.tag := by decide
  have opened : xorBytes resplitAb.ciphertext (keystream transparent
      ((passBox.derive transparent resplitAb.salt).take 32) resplitAb.nonce
      resplitAb.ciphertext.length) = encodeUtf8 "b" := by decide
  rw [openBlob_v1 default transparent passBox parsed rfl, if_pos tagged, opened]
  exact decodeUtf8_encodeUtf8 "b"

end SecretBox

end DeviceOrchestrator
