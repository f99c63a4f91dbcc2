import Mathlib.Data.List.Basic
import Rathole.Lib.Overwrite

/-!
# Headers and Cookies

The parts of an HTTP message the proxy reads. A header map keeps several
values under one name, in order; a value is a byte string that is a string
only when every byte of it is visible ASCII.

## Main definitions

* `HeaderMap`: Names, in lower case, with their values.
* `HeaderMap.insert`: A value in place of those of its name.
* `toStr`: A header value as a string.
* `getCookieValue`: The value of a cookie.
-/

namespace Rathole

open Overwrite

namespace Proxy

/-- Header names in lower case, each with a value; a name may come again. -/
abbrev HeaderMap := List (String × List UInt8)

/-- The first value under a name. -/
def HeaderMap.get (headers : HeaderMap) (name : String) : Option (List UInt8) :=
  List.lookup name headers

/-- `HeaderMap::insert` on a map that has room. -/
def HeaderMap.insert (headers : HeaderMap) (name : String) (value : List UInt8) : HeaderMap :=
  overwrite headers name value

/-- Header names are kept in lower case. -/
def lowercase (name : String) : String := String.ofList (name.toList.map Char.toLower)

/-- The bytes `HeaderValue::to_str` accepts. -/
def isVisibleAscii (b : UInt8) : Bool := (32 ≤ b && b < 127) || b == 9

/-- `HeaderValue::to_str().ok()` -/
def toStr (v : List UInt8) : Option String :=
  if v.all isVisibleAscii then some (String.ofList (v.map (fun b => Char.ofNat b.toNat)))
  else none

/-- `str::trim` on a header value, whose only white space is blank and tab. -/
def trim (cs : List Char) : List Char :=
  ((cs.dropWhile Char.isWhitespace).reverse.dropWhile Char.isWhitespace).reverse

/-- `get_cookie_value`: the first part of the `Cookie` header that starts
    with the name and an equals sign. -/
def getCookieValue (headers : HeaderMap) (name : String) : Option String :=
  match (headers.get "cookie").bind toStr with
  | none => none
  | some hdr => (hdr.toList.splitOn ';').findSome? (fun part =>
      ((trim part).dropPrefix? (name.toList ++ ['='])).map String.ofList)

end Proxy

end Rathole
