import BytecodeMutation.Digest.Md5

/-! The form of a digest. It has 32 digits, whatever the text is; and the digest of a text that
fills one block with its padding comes out of a single compression. -/

namespace BytecodeMutation.Md5

theorem length_littleEndian (count n : Nat) : (littleEndian count n).length = count := by
  simp [littleEndian]

theorem length_bytes (message : List UInt8) : (bytes message).length = 16 := by
  simp [bytes, length_littleEndian]

theorem length_hex (s : String) : (hex s).length = 32 := by
  simp [hex, List.length_flatMap, List.map_const', length_bytes]

theorem absorb_block (s : State) {ws : List UInt32} (h : ws.length = 16) :
    absorb s ws = compress s ws.toArray := by
  have hrest : (ws.drop 16).length = 0 := by simp [h]
  rw [absorb, if_neg (by omega), absorb, if_pos (by omega), List.take_of_length_le (by omega)]

theorem hex_of_block {s : String} (h : (words (pad s.toUTF8.data.toList)).length = 16) :
    hex s =
      let t := compress State.start (words (pad s.toUTF8.data.toList)).toArray
      let digest := [t.a, t.b, t.c, t.d].flatMap fun w => littleEndian 4 w.toNat
      String.ofList (digest.flatMap fun b =>
        [Text.hexDigit (b.toNat / 16), Text.hexDigit (b.toNat % 16)]) := by
  rw [hex, bytes, absorb_block _ h]

end BytecodeMutation.Md5
