import GatedCache.Text.Digit

/-!
Percent encoding: characters of a given class stand for themselves, every other one as its UTF-8
bytes, each a percent sign and two hexadecimal digits in capitals.
-/
namespace GatedCache.Text

def percentByte (b : UInt8) : List Char :=
  '%' :: (numeralIn 16 2 b.toNat).toList.map Char.toUpper

def percentChar (keep : Char → Bool) (c : Char) : List Char :=
  if keep c then [c] else (String.singleton c).toUTF8.toList.flatMap percentByte

def percentEncoded (keep : Char → Bool) (s : String) : String :=
  String.ofList (s.toList.flatMap (percentChar keep))

end GatedCache.Text
