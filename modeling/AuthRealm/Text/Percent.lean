import AuthRealm.Text.Charset
import AuthRealm.Text.Hexadecimal

/-!
# Percent escapes

A percent sign and two hexadecimal digits stand for a byte, in the texts of URLs and of paths in
them. A percent sign in front of anything else stands for itself.

Escapes that follow each other spell text in UTF-8, in which a malformed sequence is replaced
(`decodeLossy`). A character that is written out is never part of a sequence of bytes, so it ends
them.
-/

namespace AuthRealm.Text

/-- The text of bytes in UTF-8, with a replacement character for each malformed sequence. -/
def decodeLossy (bytes : List UInt8) : List Char :=
  match _decoded : Charset.decodeUtf8 0 0 bytes with
  | .ok s => s
  | .error (.malformed _ offset _ bad _) =>
    (Charset.decodeUtf8 0 0 (bytes.take offset)).toOption.getD [] ++
      '\ufffd' :: decodeLossy (bytes.drop (offset + max 1 bad.length))
  | .error _ => []
  termination_by bytes.length
  decreasing_by
    have nonempty : bytes ≠ [] := by
      rintro rfl
      exact absurd _decoded nofun
    have := List.length_pos_iff.2 nonempty
    rw [List.length_drop]
    omega

/-- A text with percent escapes read, behind the bytes of the escapes in front of it, of which the
last comes first. -/
def unescapeFrom (bytes : List UInt8) : List Char → List Char
  | '%' :: a :: b :: r =>
    match hexValue? a, hexValue? b with
    | some x, some y => unescapeFrom (UInt8.ofNat (16 * x + y) :: bytes) r
    | _, _ => decodeLossy bytes.reverse ++ '%' :: unescapeFrom [] (a :: b :: r)
  | c :: r => decodeLossy bytes.reverse ++ c :: unescapeFrom [] r
  | [] => decodeLossy bytes.reverse
  termination_by s => s.length

/-- A text with percent escapes read. -/
def unescape (s : List Char) : String :=
  String.ofList (if s.contains '%' then unescapeFrom [] s else s)

/-- A text with percent escapes for all characters that are not plain. -/
def escape (isPlain : Char → Bool) (s : String) : String :=
  String.ofList (s.toList.flatMap fun c ↦
    if isPlain c then [c]
    else (String.utf8EncodeChar c).flatMap fun b ↦
      '%' :: (hexDigits 2 b.toNat).map Char.toUpper)

end AuthRealm.Text
