/-
# Protocol.Http — header values

Headers are name and value pairs in order of arrival, names in lower case.
-/
import AirPaste.Theory.Text

namespace AirPaste.Protocol

set_option autoImplicit false

abbrev HeaderMap := List (String × List UInt8)

/-- `HeaderValue::to_str`: visible ASCII and tabs. -/
def headerToStr (value : List UInt8) : Option String :=
  if value.all fun b => (32 ≤ b && b < 127) || b == 9 then
    some (String.ofList (value.map fun b => Char.ofNat b.toNat))
  else none

/-- `HeaderValue::from_str`, of visible ASCII. -/
def headerBytes (value : String) : List UInt8 := value.toList.map fun c => UInt8.ofNat c.toNat

/-- `HeaderMap::get`: the first header of this name. -/
def headerGet (headers : HeaderMap) (name : String) : Option (List UInt8) :=
  (headers.find? fun header => header.1 == name).map Prod.snd

end AirPaste.Protocol
