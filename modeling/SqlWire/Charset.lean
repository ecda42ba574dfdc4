import SqlWire.Charset.Gbk
import SqlWire.Charset.Utf8
import SqlWire.Error

/-!
# Charsets

The server chooses the charset of a session at login. Two are legal.
-/

namespace SqlWire

/-- The charset of a session. -/
inductive Charset where
  | utf8
  | gbk
  deriving DecidableEq, Inhabited

namespace Charset

/-- The charset that a number of the server stands for. -/
def ofWire : UInt32 → Except Error Charset
  | 0 => .ok utf8
  | 1 => .ok gbk
  | value => .error (.unsupportedCharset value)

/-- The number that stands for a charset. -/
def toWire : Charset → UInt32
  | utf8 => 0
  | gbk => 1

/-- The name of a charset. -/
def name : Charset → String
  | utf8 => "UTF-8"
  | gbk => "GBK"

/-- The octets of a text. -/
def encode : Charset → String → Octets
  | utf8 => Utf8.encode
  | gbk => Gbk.encode

/-- The text that octets write. -/
def decode : Charset → Octets → String
  | utf8 => Utf8.decode
  | gbk => Gbk.decode

end Charset

end SqlWire
