import SearchFeed.Text.Digits

/-! # Percent encoding

Octets that may not stand for themselves in an address are written as a
percent sign and two hexadecimal digits.
-/

namespace SearchFeed.Url

/-- The octets that characters are stored as. -/
def octets (text : List Char) : List UInt8 := (String.ofList text).toUTF8.toList

/-- An octet as a percent sign and two digits. -/
def percentOctet (octet : UInt8) : List Char :=
  let digit := fun (n : Nat) => if n < 10 then Char.ofNat (n + 48) else Char.ofNat (n + 55)
  ['%', digit (octet.toNat / 16), digit (octet.toNat % 16)]

/-- The text with the given characters, and all that are not printable ASCII, encoded. -/
def encodeWith (encoded : String) (text : List Char) : List Char :=
  text.flatMap fun c =>
    if c.toNat < 0x20 || 0x7e < c.toNat || encoded.toList.contains c then
      (octets [c]).flatMap percentOctet
    else [c]

/-- The value of an octet that is a hexadecimal digit. -/
def hexOctet? (octet : UInt8) : Option Nat := Text.hexDigit? (Char.ofNat octet.toNat)

/-- The octets with encoded ones decoded. -/
def decodeOctets : List UInt8 → List UInt8
  | [] => []
  | 0x25 :: high :: low :: rest =>
    match hexOctet? high, hexOctet? low with
    | some h, some l => UInt8.ofNat (h * 16 + l) :: decodeOctets rest
    | _, _ => 0x25 :: decodeOctets (high :: low :: rest)
  | octet :: rest => octet :: decodeOctets rest

/-- The text with encoded octets decoded, unless they do not spell characters. -/
def percentDecode? (text : List Char) : Option (List Char) :=
  (String.fromUTF8? ⟨(decodeOctets (octets text)).toArray⟩).map String.toList

end SearchFeed.Url
