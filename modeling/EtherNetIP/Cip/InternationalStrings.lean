import EtherNetIP.Cip.AttributeServices
import EtherNetIP.Library.Readers

/-! International strings.

A string of this type is a list of strings in several languages, each with a code
that tells of which type it is. Only two of the four types are encoded, but all
are decoded.
-/

set_option autoImplicit false

namespace EtherNetIP

open Library

def kCipString : UInt8 := 0xD0
def kCipString2 : UInt8 := 0xD5
def kCipStringN : UInt8 := 0xD9
def kCipShortString : UInt8 := 0xDA

structure CipString2 where
  length : UInt16
  string : List CipOctet
  fits : string.length = length.toNat * 2
  deriving DecidableEq, Repr

/-- A string of characters of any size; the size of an empty string is not kept. -/
structure CipStringN where
  size : UInt16
  length : UInt16
  string : List CipOctet
  fits : string.length = length.toNat * size.toNat
  deriving DecidableEq, Repr

/-- A string of its type, or a code that is none of the types. -/
inductive InternalString where
  | shortString (string : CipShortString)
  | string (string : CipString)
  | string2 (string : CipString2)
  | stringN (string : CipStringN)
  | other (charStringStruct : UInt16)
  deriving DecidableEq, Repr

structure CipStringIStruct where
  languageChar1 : UInt8
  languageChar2 : UInt8
  languageChar3 : UInt8
  characterSet : UInt16
  string : InternalString
  deriving DecidableEq, Repr

structure CipStringI where
  arrayOfStringIStructs : List CipStringIStruct
  fits : arrayOfStringIStructs.length < 2 ^ 8
  deriving DecidableEq, Repr

def CipStringI.numberOfStrings (value : CipStringI) : UInt8 := UInt8.ofNat value.arrayOfStringIStructs.length

namespace InternalString

def charStringStruct : InternalString → UInt16
  | shortString _ => kCipShortString.toUInt16
  | string _ => kCipString.toUInt16
  | string2 _ => kCipString2.toUInt16
  | stringN _ => kCipStringN.toUInt16
  | other charStringStruct => charStringStruct

/-- The octets at the pointer; that of an empty string is null. -/
def characters : InternalString → List CipOctet
  | shortString value => value.string
  | string value => value.string
  | string2 value => value.string
  | stringN value => value.string
  | other _ => []

def octetCount : InternalString → UInt16
  | shortString value => value.length.toUInt16
  | string value => value.length
  | string2 value => value.length * 2
  | stringN value => value.length * value.size
  | other _ => 0

/-- None is an assertion. -/
def encode : InternalString → UInt64 → Option (List CipOctet)
  | shortString value, used => some (encodeCipShortString value used)
  | string value, used => some (encodeCipString value used)
  | _, _ => none

end InternalString

section Encoding

def cipStringIHeaderEncoding (value : CipStringIStruct) : List CipOctet :=
  addSintToMessage value.languageChar1 ++ addSintToMessage value.languageChar2 ++
    addSintToMessage value.languageChar3 ++ addSintToMessage value.string.charStringStruct.toUInt8 ++
    addIntToMessage value.characterSet

def encodeStringIStructs : List CipStringIStruct → UInt64 → Option (List CipOctet)
  | [], _ => some []
  | value :: values, used => do
      let string ← value.string.encode (used + 6)
      let encoded := cipStringIHeaderEncoding value ++ string
      let behind ← encodeStringIStructs values (used + UInt64.ofNat encoded.length)
      return encoded ++ behind

def encodeCipStringI (value : CipStringI) (used : UInt64) : Option (List CipOctet) :=
  (encodeStringIStructs value.arrayOfStringIStructs (used + 1)).map (addSintToMessage value.numberOfStrings ++ ·)

end Encoding

section Decoding

def getOctets (count : Nat) : FromMessage { copied : List CipOctet // copied.length = count } := do
  let message ← get
  skipOctets count
  return ⟨octets count message, octets_length ..⟩

def getShortString : FromMessage CipShortString := do
  let length ← getUsintFromMessage
  let copied ← getOctets length.toNat
  return ⟨copied.val, by rw [copied.property]; exact length.toNat_lt⟩

/-- Unlike `DecodeCipString` it passes over no pad octet. -/
def getString : FromMessage CipString := do
  let length ← getUintFromMessage
  let copied ← getOctets length.toNat
  return ⟨copied.val, by rw [copied.property]; exact length.toNat_lt⟩

def getString2 : FromMessage CipString2 := do
  let length ← getUintFromMessage
  let copied ← getOctets (length.toNat * 2)
  return ⟨length, copied.val, copied.property⟩

/-- Of an empty string the size is not set. -/
def getStringN : FromMessage CipStringN := do
  let size ← getUintFromMessage
  let length ← getUintFromMessage
  let copied ← getOctets (length.toNat * size.toNat)
  return if length = 0 then ⟨0, 0, [], rfl⟩ else ⟨size, length, copied.val, copied.property⟩

def getInternalString (charStringStruct : UInt8) : FromMessage InternalString :=
  if charStringStruct = kCipShortString then .shortString <$> getShortString
  else if charStringStruct = kCipString then .string <$> getString
  else if charStringStruct = kCipString2 then .string2 <$> getString2
  else if charStringStruct = kCipStringN then .stringN <$> getStringN
  else return .other charStringStruct.toUInt16

def getStringIStruct : FromMessage CipStringIStruct := do
  let languageChar1 ← getUsintFromMessage
  let languageChar2 ← getUsintFromMessage
  let languageChar3 ← getUsintFromMessage
  let charStringStruct ← getUsintFromMessage
  let characterSet ← getUintFromMessage
  let string ← getInternalString charStringStruct
  return { languageChar1, languageChar2, languageChar3, characterSet, string }

def cipStringIDecodeFromMessage : FromMessage CipStringI := fun message =>
  let (numberOfStrings, message) := getUsintFromMessage.run message
  let values := (readTimes getStringIStruct numberOfStrings.toNat).run message
  (⟨values.1, by rw [length_readTimes]; exact numberOfStrings.toNat_lt⟩, values.2)

end Decoding

/-- Two of the strings have the same octets, whatever else there is. -/
def cipStringICompare (first second : CipStringI) : Bool :=
  first.arrayOfStringIStructs.any fun one => second.arrayOfStringIStructs.any fun other =>
    one.string.octetCount == other.string.octetCount && !one.string.characters.isEmpty && !other.string.characters.isEmpty &&
      one.string.characters.take one.string.octetCount.toNat == other.string.characters.take one.string.octetCount.toNat

end EtherNetIP
