import InvocationBridge.Json.Reader.Value

/-!
Codecs: the means to turn payloads into JSON values and back.
-/

namespace InvocationBridge.Json

/-- Both directions may fail. -/
structure Codec where
  decode : Bytes → Except Error Json
  encode : Json → Except Error Bytes

/-- The compact codec, which writes every value. -/
def Codec.compact : Codec where
  decode := parse
  encode v := .ok v.bytes

@[simp] theorem Codec.decode_compact (text : Bytes) : compact.decode text = parse text := rfl

@[simp] theorem Codec.encode_compact (v : Json) : compact.encode v = .ok v.bytes := rfl

end InvocationBridge.Json
